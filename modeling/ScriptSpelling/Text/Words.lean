import ScriptSpelling.Text.Blank
import ScriptSpelling.Text.Casing

/-!
# Words of a name or text

`normalize` cuts a camelCased, snake_cased or kebab-cased name, or a whole text, into lowercase
dictionary words. It goes over the text several times: a space is put before every capital after a
small letter or a digit, everything but ASCII letters and spaces is replaced by spaces, and what
stands between white space then is put in lowercase. A run of capitals stays together.
-/

namespace ScriptSpelling.Text

def isCapital (c : Char) : Bool := 'A' ≤ c && c ≤ 'Z'

def isSmall (c : Char) : Bool := 'a' ≤ c && c ≤ 'z'

def isLetter (c : Char) : Bool := isCapital c || isSmall c

/-- Whether the case rises at the character `c`, or a number ends there. -/
def startsWord (before : Option Char) (c : Char) : Bool :=
  isCapital c && before.any fun b => isSmall b || b.isDigit

/-- The text with a space wherever a word starts; `before` is the character that was read last. -/
def spaceStarts (before : Option Char) : List Char → List Char
  | [] => []
  | c :: rest =>
    if startsWord before c then ' ' :: c :: spaceStarts (some c) rest
    else c :: spaceStarts (some c) rest

/-- The text with one space for each run of characters that are neither letters nor spaces;
`within` tells whether such a run has been entered. -/
def spaceRuns (within : Bool) : List Char → List Char
  | [] => []
  | c :: rest =>
    if isLetter c || c == ' ' then c :: spaceRuns false rest
    else if within then spaceRuns true rest
    else ' ' :: spaceRuns true rest

/-- The words of a text, from left to right. -/
def wordsOf (cs : List Char) : List (List Char) :=
  (fields (spaceRuns false (spaceStarts none cs))).map lowerChars

def normalize (raw : String) : List String := (wordsOf raw.toList).map String.ofList

end ScriptSpelling.Text
