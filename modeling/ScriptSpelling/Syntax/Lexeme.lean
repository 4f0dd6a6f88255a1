import ScriptSpelling.Literal
import ScriptSpelling.Text.Blank

/-!
# Lexemes

How far the lexical elements of a script reach. Each function takes the text that is still to be
read and gives the number of characters of the element at its start. The character NUL belongs to
no element.
-/

namespace ScriptSpelling.Syntax

def spanLength (p : Char → Bool) : List Char → Nat
  | [] => 0
  | c :: rest => if p c then spanLength p rest + 1 else 0

/-- The larger of two lengths, where `none` is no match at all. -/
def longest : Option Nat → Option Nat → Option Nat
  | some a, some b => some (max a b)
  | some a, none => some a
  | none, b => b

/-! ## Space, words and comments -/

/-- Space between tokens: white space, and a few invisible characters besides. -/
def isSpace (c : Char) : Bool :=
  Text.isBlank c || c == '\ufeff' || c == '\u2060' || c == '\u200b'

def isPlainSpace (c : Char) : Bool := c == ' ' || ('\t' ≤ c && c ≤ '\r')

def isSeparator (c : Char) : Bool := c == '\u2028' || c == '\u2029'

def wordMarks : List Char := ":;\x60\"'@#.,|^&<=>+-*/\\%?!~()[]\x7b\x7d".toList

/-- A character that may stand in a word as it is. Any script will do, and symbols too. -/
def isWordChar (c : Char) : Bool := 0x1F < c.toNat && !isSpace c && !wordMarks.contains c

/-- The length of an escape of a word's character, such as `\u0061` or `\u{61}`. -/
def wordEscapeLength : List Char → Option Nat
  | '\\' :: 'u' :: '{' :: rest =>
    let n := spanLength (Literal.hexDigit? · |>.isSome) rest
    if 0 < n && (rest.drop n).head? == some '}' then some (n + 4) else none
  | '\\' :: 'u' :: rest =>
    if 4 ≤ spanLength (Literal.hexDigit? · |>.isSome) rest then some 6 else none
  | _ => none

/-- The length of a run of word characters and escapes; `skip` characters belong to it already. -/
def wordRest : Nat → List Char → Nat
  | _, [] => 0
  | skip + 1, _ :: rest => wordRest skip rest + 1
  | 0, c :: rest =>
    match wordEscapeLength (c :: rest) with
    | some n => wordRest (n - 1) rest + 1
    | none => if isWordChar c then wordRest 0 rest + 1 else 0

/-- The length of a word; zero when there is none. A word does not start with a digit. -/
def wordLength (cs : List Char) : Nat :=
  match cs with
  | c :: _ => if c.isDigit then 0 else wordRest 0 cs
  | [] => 0

/-- The number of characters up to the end of a block comment, after its opening. -/
def blockCommentRest : List Char → Option Nat
  | '*' :: '/' :: _ => some 2
  | c :: rest => if c == '\x00' then none else (blockCommentRest rest).map (· + 1)
  | [] => none

/-- A character that does not end a line comment. -/
def inLineComment (c : Char) : Bool :=
  c != '\x00' && c != '\n' && c != '\r' && !isSeparator c

/-- The length of a comment. A block comment that does not end is none. -/
def commentLength : List Char → Option Nat
  | '/' :: '/' :: rest => some (spanLength inLineComment rest + 2)
  | '/' :: '*' :: rest => (blockCommentRest rest).map (· + 2)
  | _ => none

/-- The length of a comment in the manner of HTML, with the ASCII space before it. -/
def htmlCommentLength (cs : List Char) : Option Nat :=
  let before := spanLength (fun c => isPlainSpace c || isSeparator c) cs
  let rest := cs.drop before
  if "<!--".toList.isPrefixOf rest || "-->".toList.isPrefixOf rest then
    some (before + spanLength (fun c => c != '\x00' && c != '\n' && !isSeparator c) rest)
  else none

/-! ## Numbers -/

/-- The length of digits, of which single underscores may stand between two. -/
def digitsLength (p : Char → Bool) : List Char → Option Nat
  | c :: rest =>
    if p c then
      match rest with
      | '_' :: more => some (((digitsLength p more).map (· + 2)).getD 1)
      | more => some (((digitsLength p more).map (· + 1)).getD 1)
    else none
  | [] => none

def exponentLength : List Char → Option Nat
  | c :: rest =>
    if c == 'e' || c == 'E' then
      match rest with
      | '+' :: more | '-' :: more => (digitsLength Char.isDigit more).map (· + 2)
      | more => (digitsLength Char.isDigit more).map (· + 1)
    else none
  | [] => none

/-- The length with an optional further part. -/
def withOptional (part : List Char → Option Nat) (cs : List Char) (n : Nat) : Nat :=
  n + (part (cs.drop n)).getD 0

/-- The length of a decimal point with the digits and the exponent that may follow it. -/
def fractionLength : List Char → Option Nat
  | '.' :: rest =>
    some (withOptional exponentLength ('.' :: rest) (1 + (digitsLength Char.isDigit rest).getD 0))
  | _ => none

/-- The length of an integer that may have a fraction: zero alone, or one with at most one zero
before it. -/
def integerLength : List Char → Option Nat
  | '0' :: rest =>
    match rest with
    | c :: _ =>
      if '1' ≤ c && c ≤ '9' then (digitsLength Char.isDigit rest).map (· + 1) else some 1
    | [] => some 1
  | cs => digitsLength Char.isDigit cs

/-- The length of a number in another base, after its zero and letter. -/
def basedLength (p : Char → Bool) (rest : List Char) : Option Nat :=
  (digitsLength p rest).map fun n => n + 2 + (if (rest.drop n).head? == some 'n' then 1 else 0)

def numberLength (cs : List Char) : Option Nat :=
  let based := match cs with
    | '0' :: 'x' :: rest | '0' :: 'X' :: rest =>
      basedLength (Literal.hexDigit? · |>.isSome) rest
    | '0' :: 'b' :: rest | '0' :: 'B' :: rest => basedLength (fun c => c == '0' || c == '1') rest
    | '0' :: 'o' :: rest | '0' :: 'O' :: rest => basedLength (fun c => '0' ≤ c && c ≤ '7') rest
    | _ => none
  let whole := (digitsLength Char.isDigit cs).map fun n =>
    n + (if (cs.drop n).head? == some 'n' then 1 else 0)
  let fractional := match integerLength cs with
    | some n =>
      longest ((fractionLength (cs.drop n)).map (· + n)) ((exponentLength (cs.drop n)).map (· + n))
    | none =>
      match cs with
      | '.' :: c :: _ => if c.isDigit then fractionLength cs else none
      | _ => none
  longest based (longest whole fractional)

/-! ## Strings, templates and regular expressions -/

def escapeLength : List Char → Option Nat
  | '\\' :: 'x' :: rest =>
    if 2 ≤ spanLength (Literal.hexDigit? · |>.isSome) rest then some 4 else none
  | '\\' :: 'u' :: rest => wordEscapeLength ('\\' :: 'u' :: rest)
  | '\\' :: c :: d :: _ =>
    if '0' ≤ c && c ≤ '7' then none
    else if c == '\x00' then none
    else if (c == '\r' || c == '?') && (d == '\n' || isSeparator d) then some 3
    else some 2
  | ['\\', c] => if c == '\x00' || ('0' ≤ c && c ≤ '7') then none else some 2
  | _ => none

/-- The length of an escape, octal escapes of up to three digits included. -/
def anyEscapeLength (cs : List Char) : Option Nat :=
  match cs with
  | '\\' :: c :: rest =>
    if '0' ≤ c && c ≤ '7' then
      some (2 + min 2 (spanLength (fun c => '0' ≤ c && c ≤ '7') rest))
    else escapeLength cs
  | _ => none

/-- The length of the plain text in a string with the given quote. -/
def fragmentLength (quote : Char) (cs : List Char) : Nat :=
  spanLength (fun c => c != quote && c != '\\' && c != '\r' && c != '\n' && c != '\x00') cs

/-- The length of the plain text in a template; `none` when the text breaks off. -/
def templateLength : List Char → Option Nat
  | [] => none
  | '$' :: '{' :: _ => some 0
  | c :: rest =>
    if c == '\x60' || c == '\\' then some 0
    else if c == '\x00' then none
    else (templateLength rest).map (· + 1)

/-- Where a reader of regular expressions stands. -/
inductive PatternReading where
  | outside
  | inside
deriving Repr, DecidableEq

/-- The length of the pattern of a regular expression. Brackets must be closed on the line: the
pattern ends before one that is not. -/
def patternLength : PatternReading → List Char → Option Nat
  | .outside, '\\' :: c :: rest =>
    if c == '\n' || c == '\x00' then some 0 else (patternLength .outside rest).map (· + 2)
  | .outside, '[' :: rest =>
    match patternLength .inside rest with
    | some n => some (n + 1)
    | none => some 0
  | .outside, c :: rest =>
    if c == '/' || c == '\\' || c == '\n' || c == '\x00' then some 0
    else (patternLength .outside rest).map (· + 1)
  | .outside, [] => some 0
  | .inside, '\\' :: c :: rest =>
    if c == '\n' || c == '\x00' then none else (patternLength .inside rest).map (· + 2)
  | .inside, ']' :: rest => (patternLength .outside rest).map (· + 1)
  | .inside, c :: rest =>
    if c == '\\' || c == '\n' || c == '\x00' then none
    else (patternLength .inside rest).map (· + 1)
  | .inside, [] => none

/-! ## Markup in expressions -/

/-- The length of a tag or attribute name with dashes. -/
def dashedLength (cs : List Char) : Option Nat :=
  let letter (c : Char) : Bool := c.isAlpha || c == '_' || c == '$'
  match cs with
  | c :: _ =>
    if letter c then
      let n := spanLength (fun c => letter c || c.isDigit) cs
      match cs.drop n with
      | '-' :: rest => some (n + 1 + spanLength (fun c => letter c || c.isDigit || c == '-') rest)
      | _ => none
    else none
  | [] => none

/-- The length of a reference such as `&amp;`, `&#38;` or `&#x26;`. -/
def referenceLength : List Char → Option Nat
  | '&' :: '#' :: x :: rest =>
    if x == 'x' || x == 'X' then
      let n := spanLength (Literal.hexDigit? · |>.isSome) rest
      if 1 ≤ n && n ≤ 6 && (rest.drop n).head? == some ';' then some (n + 4) else none
    else
      let n := spanLength Char.isDigit (x :: rest)
      if 1 ≤ n && n ≤ 5 && ((x :: rest).drop n).head? == some ';' then some (n + 3) else none
  | '&' :: rest =>
    let n := spanLength Char.isAlpha rest
    if 1 ≤ n && n ≤ 30 && (rest.drop n).head? == some ';' then some (n + 2) else none
  | _ => none

/-- The length of the plain text in an attribute's string with the given quote. -/
def attributeTextLength (quote : Char) : List Char → Nat
  | '&' :: c :: rest =>
    if c == '#' || c.isAlpha || c == '\x00' then 0 else attributeTextLength quote rest + 2
  | c :: rest =>
    if c == quote || c == '&' || c == '\x00' then 0 else attributeTextLength quote rest + 1
  | [] => 0

/-- The length of the text between tags. Line breaks and the space after them are no text on
their own: `none` is given when there is nothing else. -/
def markupTextLength : (atNewline sawText : Bool) → List Char → Option Nat
  | atNewline, sawText, c :: rest =>
    if c == '<' || c == '>' || c == '{' || c == '}' || c == '&' || c == '\x00' then
      if sawText then some 0 else none
    else if c == '\n' then (markupTextLength true sawText rest).map (· + 1)
    else
      let atNewline := atNewline && isPlainSpace c
      (markupTextLength atNewline (sawText || !atNewline) rest).map (· + 1)
  | _, sawText, [] => if sawText then some 0 else none

end ScriptSpelling.Syntax
