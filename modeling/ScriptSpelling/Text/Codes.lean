/-!
# Runs of code points

Unicode properties and simple case mappings are kept as short lists of regular runs: every code
point from `first` to `last` in steps of `step`. A property is a list of `CodeRun`; a mapping is a
list of `CodeShift`, a run together with the image of its first element.
-/

namespace ScriptSpelling.Text

/-- The code points `first`, `first + step`, … up to `last`. -/
structure CodeRun where
  first : Nat
  last : Nat
  step : Nat
deriving Repr, DecidableEq

def CodeRun.contains (r : CodeRun) (n : Nat) : Bool :=
  r.first ≤ n && n ≤ r.last && (n - r.first) % r.step == 0

def inRuns (runs : List CodeRun) (n : Nat) : Bool :=
  runs.any (·.contains n)

/-- A run that is moved as a whole: its first code point becomes `target`, and the others keep
their distance from it. -/
structure CodeShift where
  run : CodeRun
  target : Nat
deriving Repr, DecidableEq

def CodeShift.image? (s : CodeShift) (n : Nat) : Option Nat :=
  if s.run.contains n then some (s.target + (n - s.run.first)) else none

def shift? (shifts : List CodeShift) (n : Nat) : Option Nat :=
  shifts.findSome? (·.image? n)

end ScriptSpelling.Text
