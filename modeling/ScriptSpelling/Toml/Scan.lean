/-!
# Scanning settings documents

A scanner takes characters from the front of a text, or fails.
-/

namespace ScriptSpelling.Toml

/-- A scanner of a part of a document. -/
abbrev Scan := StateT (List Char) Option

namespace Scan

def fail {α : Type} : Scan α := fun _ => none

def require (condition : Bool) : Scan Unit := if condition then pure () else fail

def either {α : Type} (p q : Scan α) : Scan α := fun cs => (p cs).orElse fun _ => q cs

/-- What the scanner gives, if it succeeds; otherwise nothing is taken. -/
def attempt {α : Type} (p : Scan α) : Scan (Option α) := fun cs =>
  match p cs with
  | some (a, rest) => some (some a, rest)
  | none => some (none, cs)

def peek : Scan (Option Char) := fun cs => some (cs.head?, cs)

def one (p : Char → Bool) : Scan Char
  | c :: rest => if p c then some (c, rest) else none
  | [] => none

def char (c : Char) : Scan Unit := discard (one (· == c))

def text (s : String) : Scan Unit := fun cs =>
  if s.toList.isPrefixOf cs then some ((), cs.drop s.length) else none

def meets (s : String) : Scan Bool := fun cs => some (s.toList.isPrefixOf cs, cs)

def many (p : Char → Bool) : Scan (List Char) := fun cs => some (cs.takeWhile p, cs.dropWhile p)

def exactly (p : Char → Bool) : Nat → Scan (List Char)
  | 0 => return []
  | n + 1 => do
    let c ← one p
    return c :: (← exactly p n)

/-- Repeats a step for as long as it answers with a value; the fuel bounds the number of steps. -/
def repeatFor {α : Type} (step : Scan (Option α)) : Nat → Scan (List α)
  | 0 => fail
  | fuel + 1 => do
    match ← step with
    | some a => return a :: (← repeatFor step fuel)
    | none => return []

/-- Repeats a step for as long as it answers with a value. Each of these takes something. -/
def collect {α : Type} (step : Scan (Option α)) : Scan (List α) := fun cs =>
  repeatFor step (cs.length + 1) cs

end Scan

end ScriptSpelling.Toml
