import ScriptSpelling.Category

/-!
# Findings

What a check reports: one `Finding` for each reported word, or a single one for a source that
could not be parsed.
-/

namespace ScriptSpelling

/-- A reported word, or a parse failure, which has no category. -/
structure Finding where
  category : Option Category
  /-- The reported word, in lowercase. -/
  word : String
  /-- The text of the node that holds the word, as it is displayed. -/
  text : String
  /-- The line of that node, counted from one. -/
  line : Option Nat
  misspelled : Bool
  message : String
deriving Repr, DecidableEq

/-- Choices that are made once for a checker. -/
structure Settings where
  /-- The categories to check, in this order; repeats have no effect. -/
  categories : List Category := Category.all
  /-- Shorter words are never reported. -/
  minLength : Nat := 0
  /-- Report known words as well. -/
  showSuccesses : Bool := false
  /-- Exempt words on top of the built-in ones. -/
  skipWords : List String := []
  /-- Style messages for a terminal. -/
  color : Bool := false
deriving Repr, DecidableEq

end ScriptSpelling
