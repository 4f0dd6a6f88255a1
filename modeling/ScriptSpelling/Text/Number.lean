/-!
# Decimal numbers with a bound

Unsigned decimal numbers as they are written in dictionary files: an optional plus sign and then
digits. A number that does not fit below its bound is told apart from one that is malformed.
-/

namespace ScriptSpelling.Text

/-- Why a text is no number of the wanted size. -/
inductive NumberFault where
  | empty
  | invalidDigit
  | tooLarge
deriving Repr, DecidableEq

def NumberFault.message : NumberFault → String
  | empty => "cannot parse integer from empty string"
  | invalidDigit => "invalid digit found in string"
  | tooLarge => "number too large to fit in target type"

/-- Reads digits after the value `acc`. The first fault from the left counts, so a number that is
already too large is not searched for bad digits. -/
def digitsFrom (bound acc : Nat) : List Char → Except NumberFault Nat
  | [] => .ok acc
  | c :: rest =>
    if c.isDigit then
      let next := acc * 10 + (c.toNat - 0x30)
      if next < bound then digitsFrom bound next rest else .error .tooLarge
    else .error .invalidDigit

/-- The number below `bound` that the text writes. -/
def readNumber (bound : Nat) (cs : List Char) : Except NumberFault Nat :=
  match cs with
  | [] => .error .empty
  | ['+'] => .error .invalidDigit
  | '+' :: digits => digitsFrom bound 0 digits
  | digits => digitsFrom bound 0 digits

end ScriptSpelling.Text
