import ScriptSpelling.Syntax.Rule

/-!
# Quoted elements

Strings, templates and regular expressions. A string breaks off at a line break; still, space and
comments may follow up to the closing quote, and after a comment the text may go on.
-/

namespace ScriptSpelling.Syntax

namespace Reader

def quoteMark (quote : Char) : Reader Unit := token (String.singleton quote)

def string (quote : Char) : Reader Unit := do
  let m ← mark
  quoteMark quote
  loop do
    let cs ← rest
    let n := fragmentLength quote cs
    if 0 < n then
      leaf .stringFragment n
      return true
    match anyEscapeLength cs with
    | some n =>
      leaf .escapeSequence n
      return true
    | none => comment false
  quoteMark quote
  close .string m

/-- Reads a quoted literal with either quote. -/
def anyString : Reader Unit := do
  match ← peek with
  | some '"' => string '"'
  | some '\'' => string '\''
  | _ => fail

/-- Reads a comment where the pattern of a regular expression is expected. Space on the same line
before it could start a pattern, and belongs to the comment. -/
def patternComment : Reader Bool := do
  let cs ← rest
  let n := spanLength isSpace cs
  match commentLength (cs.drop n) with
  | some k =>
    if (cs.take n).contains '\n' then comment false
    else
      leaf .comment (n + k)
      return true
  | none => return false

def regex (mayEnd : Bool) : Reader Unit := do
  let m ← mark
  token "/"
  loop patternComment
  let n := (patternLength .outside (← rest)).getD 0
  require (0 < n)
  leaf .regexPattern n
  token "/"
  if !(← skipToSemicolon mayEnd false) then
    let flags := spanLength (fun c => 'a' ≤ c && c ≤ 'z') (← get).gap
    if 0 < flags then leaf .regexFlags flags
  close .regex m

def number : Reader Unit := do
  match numberLength (← rest) with
  | some n => leaf .number n
  | none => fail

end Reader

open Reader in
def template (rules : Rules) : Reader Unit := do
  let m ← mark
  token "\x60"
  loop do
    let cs ← rest
    match templateLength cs with
    | none => fail
    | some (n + 1) =>
      leaf .stringFragment (n + 1)
      return true
    | some 0 =>
      if ← meets "\x60" then return false
      if ← meets "$\x7b" then
        let inner ← mark
        token "$\x7b"
        expressions rules {}
        skipBeforeOperator
        token "\x7d"
        close .templateSubstitution inner
        return true
      match anyEscapeLength cs with
      | some n =>
        leaf .escapeSequence n
        return true
      | none => fail
  token "\x60"
  close .templateString m

end ScriptSpelling.Syntax
