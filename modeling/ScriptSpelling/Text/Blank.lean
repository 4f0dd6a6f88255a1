/-!
# White space, trimming, lines and fields

White space is Unicode's property `White_Space`: neither U+200B nor U+FEFF belongs to it, U+0085
and U+3000 do. A line ends at LF, and a CR directly before that LF belongs to the line's end.
-/

namespace ScriptSpelling.Text

/-- Unicode's property `White_Space`. -/
def isBlank (c : Char) : Bool :=
  let n := c.toNat
  (9 ≤ n && n ≤ 13) || n == 0x20 || n == 0x85 || n == 0xA0 || n == 0x1680 ||
    (0x2000 ≤ n && n ≤ 0x200A) || n == 0x2028 || n == 0x2029 || n == 0x202F || n == 0x205F ||
    n == 0x3000

def trimStart (cs : List Char) : List Char := cs.dropWhile isBlank

def trimEnd (cs : List Char) : List Char := (trimStart cs.reverse).reverse

def trimChars (cs : List Char) : List Char := trimEnd (trimStart cs)

def trim (s : String) : String := String.ofList (trimChars s.toList)

/-- The pieces between LFs; there is one more piece than LFs. -/
def splitLines : List Char → List (List Char)
  | [] => [[]]
  | c :: rest =>
    match splitLines rest with
    | [] => [[c]]
    | line :: more => if c = '\n' then [] :: line :: more else (c :: line) :: more

/-- A line that was ended by LF, without a CR at its end. -/
def dropCarriageReturn (line : List Char) : List Char :=
  match line.reverse with
  | '\r' :: front => front.reverse
  | _ => line

/-- Makes lines of the pieces between LFs. The piece after the last LF was not ended by one: it
keeps a CR, and it is no line when it is empty. -/
def endLines : List (List Char) → List (List Char)
  | [] => []
  | [last] => if last.isEmpty then [] else [last]
  | line :: more => dropCarriageReturn line :: endLines more

def lines (cs : List Char) : List (List Char) := endLines (splitLines cs)

/-- The maximal runs of characters other than white space. -/
def fields : List Char → List (List Char)
  | [] => []
  | c :: rest =>
    if isBlank c then fields rest
    else if rest.head?.all isBlank then [c] :: fields rest
    else (fields rest).modifyHead (c :: ·)

end ScriptSpelling.Text
