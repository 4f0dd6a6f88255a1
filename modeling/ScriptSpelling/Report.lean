import ScriptSpelling.Finding
import ScriptSpelling.Terminal

/-!
# Reports

Findings as lines of text, in the order of their lines in the source. Findings without a line come
first, and findings with the same line keep their order.
-/

namespace ScriptSpelling.Report

open Terminal

/-- Whether the first finding may stand before the second: it has no line, or one that is not
greater. -/
def precedes (a b : Finding) : Bool :=
  match a.line, b.line with
  | none, _ => true
  | some _, none => false
  | some m, some n => m ≤ n

/-- The findings in the order of their lines. -/
def byLine (findings : List Finding) : List Finding := findings.mergeSort precedes

def line (finding : Finding) : String :=
  finding.message ++ " On Line: " ++ ((finding.line.map Nat.repr).getD "unknown")

/-- Lines of text, each ended. -/
def text (lines : List String) : String := String.join (lines.map (· ++ "\n"))

/-- The line before the findings of a file. -/
def header (codes : Bool) (path : String) : String :=
  "Checking Spelling on: " ++ paint codes .boldYellow path

def usage (codes : Bool) : List String := [
  "lintspell checks spelling on js files",
  "Usage: lintspell " ++ paint codes .green "<file>"]

end ScriptSpelling.Report
