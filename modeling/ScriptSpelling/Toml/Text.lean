import ScriptSpelling.Literal
import ScriptSpelling.Toml.Scan

/-!
# Space, strings and keys

The parts of a settings document below its values: space, comments and line ends, strings in four
forms, and keys with dots.
-/

namespace ScriptSpelling.Toml

open Scan

/-! ## Space and line ends -/

def isSpace (c : Char) : Bool := c == ' ' || c == '\t'

/-- A character that may stand in a comment or a string: no control character but the tab. -/
def isPlain (c : Char) : Bool := c == '\t' || (' ' ≤ c && c != '\x7f')

def space : Scan Unit := discard (many isSpace)

def lineEnd : Scan Unit := either (char '\n') (text "\x0d\n")

def comment : Scan Unit := do
  char '#'
  discard (many isPlain)

/-- Takes what may follow on a line that is complete. -/
def restOfLine : Scan Unit := do
  space
  discard (attempt comment)
  if (← peek).isSome then lineEnd

def gap : Scan Unit := do
  discard <| collect do
    match ← peek with
    | some '#' => return some (← comment)
    | some '\n' | some '\x0d' => return some (← lineEnd)
    | some c => if isSpace c then return some (← space) else return none
    | none => return none

/-! ## Strings -/

/-- Takes as many hexadecimal digits as given, and gives the character with this code. -/
def codePoint (digits : Nat) : Scan Char := do
  let hex ← exactly (Literal.hexDigit? · |>.isSome) digits
  match (Literal.hexFrom? 0 hex).bind Literal.scalar? with
  | some c => return c
  | none => fail

def escape : Scan Char := do
  match ← one fun _ => true with
  | 'b' => return '\x08'
  | 't' => return '\t'
  | 'n' => return '\n'
  | 'f' => return '\x0c'
  | 'r' => return '\x0d'
  | '"' => return '"'
  | '\\' => return '\\'
  | 'u' => codePoint 4
  | 'U' => codePoint 8
  | _ => fail

/-- Takes a string with escapes on one line. -/
def basicString : Scan String := do
  char '"'
  let cs ← collect do
    match ← peek with
    | some '"' => return none
    | some '\\' =>
      char '\\'
      return some (← escape)
    | _ => return some (← one isPlain)
  char '"'
  return String.ofList cs

def literalString : Scan String := do
  char '\''
  let cs ← many fun c => isPlain c && c != '\''
  char '\''
  return String.ofList cs

/-- Takes a line end in a string over several lines, which counts as one character. -/
def innerLineEnd : Scan Char := do
  lineEnd
  return '\n'

/-- Takes a backslash at the end of a line with all space and line ends after it. -/
def lineContinuation : Scan Unit := do
  char '\\'
  space
  lineEnd
  discard <| collect do
    match ← peek with
    | some c =>
      if isSpace c then return some (← space)
      else if c == '\n' || c == '\x0d' then return some (← lineEnd)
      else return none
    | none => return none

/-- The number of quotes that come next. -/
def quotesAhead (quote : Char) : Scan Nat := fun cs => some ((cs.takeWhile (· == quote)).length, cs)

/-- Takes a string over several lines between triple quotes. Up to two more quotes before the
closing ones belong to it. -/
def longString (quote : Char) (escapes : Bool) : Scan String := do
  discard (exactly (· == quote) 3)
  discard (attempt lineEnd)
  let content ← collect do
    if 3 ≤ (← quotesAhead quote) then return none
    match ← peek with
    | some '\\' =>
      if escapes then
        match ← attempt lineContinuation with
        | some _ => return some []
        | none =>
          char '\\'
          return some [← escape]
      else return some [← one isPlain]
    | some '\n' | some '\x0d' => return some [← innerLineEnd]
    | _ => return some [← one isPlain]
  let n ← quotesAhead quote
  require (3 ≤ n && n ≤ 5)
  let closing ← exactly (· == quote) n
  return String.ofList (content.flatten ++ closing.drop 3)

def string : Scan String := do
  if ← meets "\"\"\"" then longString '"' true
  else if ← meets "\"" then basicString
  else if ← meets "\x27\x27\x27" then longString '\'' false
  else literalString

/-! ## Keys -/

def isBareKeyChar (c : Char) : Bool := c.isAlphanum || c == '_' || c == '-'

def simpleKey : Scan String := do
  match ← peek with
  | some '"' => basicString
  | some '\'' => literalString
  | _ =>
    let cs ← many isBareKeyChar
    require (!cs.isEmpty)
    return String.ofList cs

/-- The largest number of parts of a key with dots. -/
def mostParts : Nat := 79

/-- Takes a key, possibly with dots, and the space around its parts. -/
def key : Scan (List String) := do
  space
  let first ← simpleKey
  space
  let more ← collect do
    if ← meets "." then
      char '.'
      space
      let part ← simpleKey
      space
      return some part
    else return none
  require (more.length < mostParts)
  return first :: more

end ScriptSpelling.Toml
