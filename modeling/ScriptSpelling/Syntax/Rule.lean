import ScriptSpelling.Syntax.Pattern
import ScriptSpelling.Syntax.Reader

/-!
# Rules

The parts of a script that contain each other. The modules on expressions, members, markup and
statements describe each part in terms of a reader for every `Rule`; `Syntax.Script` ties the knot
with fuel. A `Context` tells an expression where it stands.
-/

namespace ScriptSpelling.Syntax

/-- What an opening brace at the start of an expression may also be. -/
inductive BraceUse where
  /-- Only an object. -/
  | object
  /-- A block, as a statement. -/
  | statement
  /-- A block, as the body of an arrow function. -/
  | arrowBody
deriving Repr, DecidableEq

/-- Where an expression stands. -/
structure Context where
  /-- Whether a statement can end after the expression. -/
  mayEnd : Bool := false
  /-- Whether `in` belongs to the head of a loop. -/
  noIn : Bool := false
  /-- Whether the expression may still become a pattern. -/
  cover : Bool := false
  /-- Whether `of` may follow, in the head of a loop. -/
  head : Bool := false
  brace : BraceUse := .object
deriving Repr, DecidableEq

/-- The context of an operand at the end of an expression. -/
def Context.inner (ctx : Context) : Context := { mayEnd := ctx.mayEnd, noIn := ctx.noIn }

/-- The parts of a script that contain each other. -/
inductive Rule where
  | statement
  /-- Statements in braces. -/
  | block
  /-- An expression whose operators bind at least as tightly as the level. -/
  | expression (ctx : Context) (level : Nat)
  /-- An expression with `new`. -/
  | instantiation (ctx : Context)
  /-- The body of an arrow function that starts with a brace. -/
  | arrowBody (ctx : Context)
  /-- A tag with all that it holds. -/
  | markup
deriving Repr, DecidableEq

/-- A reader for every rule. -/
abbrev Rules := Rule → Reader Unit

def Rules.expression (rules : Rules) (ctx : Context := {}) : Reader Unit :=
  rules (.expression ctx 0)

/-- Words that are identifiers wherever a name may stand, although they start constructs. -/
def contextualWords : List String := ["get", "set", "async", "static", "export", "let"]

/-- Words that have a meaning of their own at the start of an expression. -/
def operandWords : List String := [
  "this", "super", "true", "false", "null", "undefined", "function", "class", "new", "import",
  "typeof", "void", "delete", "await", "yield"]

/-- Words that have a meaning of their own at the start of a statement, besides those of
expressions. -/
def statementWords : List String := [
  "debugger", "var", "const", "if", "switch", "for", "while", "do", "try", "with", "break",
  "continue", "return", "throw"]

/-- Reads `(`, expressions between commas, and `)`. -/
def parenthesized (rules : Rules) : Reader Unit := do
  Reader.skip
  let m ← Reader.mark
  Reader.token "("
  Reader.skip
  let inner ← Reader.mark
  rules.expression
  Reader.skipBeforeOperator
  if ← Reader.meets "," then
    Reader.loop do
      Reader.skipBeforeOperator
      if ← Reader.meets "," then
        Reader.token ","
        rules.expression
        return true
      else return false
    Reader.close .sequenceExpression inner
  Reader.skipBeforeOperator
  Reader.token ")"
  Reader.close .parenthesizedExpression m

def expressions (rules : Rules) (ctx : Context) : Reader Unit := do
  Reader.skip
  let m ← Reader.mark
  rules.expression ctx
  let isNext : Reader Bool := do
    if ← Reader.skipToSemicolon ctx.mayEnd false then return false
    else Reader.meets ","
  if ← isNext then
    Reader.loop do
      if ← isNext then
        Reader.token ","
        rules.expression ctx.inner
        return true
      else return false
    Reader.close .sequenceExpression m

end ScriptSpelling.Syntax
