import ScriptSpelling.Syntax.Source
import ScriptSpelling.Syntax.Statement

/-!
# Scripts

A script is a list of statements, possibly after a line that names its interpreter. `ruleReader`
ties the rules together: each nested construct uses up one unit of fuel, and a script of `n`
characters cannot nest deeper than a multiple of `n`.
-/

namespace ScriptSpelling.Syntax

open Reader

/-- A reader for every rule, for constructs that nest at most as deep as the fuel. -/
def ruleReader : Nat → Rule → Reader Unit
  | 0, _ => fail
  | fuel + 1, rule =>
    let rules := ruleReader fuel
    match rule with
    | .statement => statement rules
    | .block => block rules
    | .expression ctx level => expression rules ctx level
    | .instantiation ctx => instantiation rules (primary rules ctx) ctx
    | .arrowBody ctx => arrowBody rules ctx
    | .markup => markup rules

/-- Reads a line that names an interpreter, if it comes first. -/
def interpreterLine : Reader Unit := do
  skip
  if ← meets "#!" then
    leaf .hashBangLine (spanLength (fun c => c != '\n' && c != '\x00') (← rest))

def script (rules : Rules) : Reader Unit := do
  interpreterLine
  skip
  loop do
    if (← rest).isEmpty then return false
    rules .statement
    skip
    return true

def ReaderState.ofSource (source : List Char) : ReaderState where
  rest := source
  gap := source
  left := source.length
  place := .zero
  done := []
  count := 0

/-- The fuel for a source: no construct nests deeper. -/
def nestingBound (source : List Char) : Nat := 4 * source.length + 16

/-- The nodes of a script, or the state before something that does not fit. -/
def readScript (source : List Char) : Except ReaderState (List Node) :=
  match script (ruleReader (nestingBound source)) (.ofSource source) with
  | .ok (_, s) => .ok s.done.reverse
  | .error s => .error s

end ScriptSpelling.Syntax
