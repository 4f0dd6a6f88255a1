import ScriptSpelling.Text.Number

/-!
# Flags

Entries and affixes of a lexicon refer to each other by flags. A flag is a number; the affix file
chooses how flags are written.
-/

namespace ScriptSpelling.Lexicon

abbrev Flag := Nat

inductive FlagStyle where
  /-- One character each. -/
  | short
  /-- Two characters each. -/
  | long
  /-- Decimal numbers between commas. -/
  | numeric
  /-- One character each, of any script. -/
  | unicode
deriving Repr, DecidableEq

/-- The style with the given name; the short style has none. -/
def FlagStyle.ofName? : String → Option FlagStyle
  | "long" => some .long
  | "num" => some .numeric
  | "UTF-8" => some .unicode
  | _ => none

/-- Why a text writes no flags. -/
inductive FlagFault where
  | number (fault : Text.NumberFault)
  | extraComma
  | zero
  | missingSecondChar
deriving Repr, DecidableEq

def FlagFault.message : FlagFault → String
  | number fault => fault.message
  | extraComma => "unexpected extra comma"
  | zero => "flag cannot be zero"
  | missingSecondChar => "expected two chars, found one"

/-- A numeric flag: positive and below 2^16. -/
def readFlagNumber (cs : List Char) : Except FlagFault Flag :=
  match Text.readNumber 65536 cs with
  | .ok 0 => .error .zero
  | .ok n => .ok n
  | .error fault => .error (.number fault)

def readPairs : List Char → Except FlagFault (List Flag)
  | [] => .ok []
  | [_] => .error .missingSecondChar
  | a :: b :: rest => do return (a.toNat * 0x110000 + b.toNat) :: (← readPairs rest)

/-- Numeric flags, of which `seen` (latest first) was read of the current one. -/
def readNumbers (seen : List Char) (afterComma : Bool) : List Char → Except FlagFault (List Flag)
  | [] => do return [← readFlagNumber seen.reverse]
  | ',' :: rest => do
    if afterComma then throw .extraComma
    let flag ← readFlagNumber seen.reverse
    return flag :: (← readNumbers [] true rest)
  | c :: rest => readNumbers (c :: seen) false rest

def readFlags (style : FlagStyle) (cs : List Char) : Except FlagFault (List Flag) :=
  match style with
  | .short | .unicode => .ok (cs.map Char.toNat)
  | .long => readPairs cs
  | .numeric => if cs.isEmpty then .ok [] else readNumbers [] false cs

/-- The one flag that a text writes; what follows it is ignored. -/
def readFlag (style : FlagStyle) (cs : List Char) : Except FlagFault Flag :=
  match style, cs with
  | .numeric, cs => readFlagNumber cs
  | .long, a :: b :: _ => .ok (a.toNat * 0x110000 + b.toNat)
  | .long, _ => .error .missingSecondChar
  | _, c :: _ => .ok c.toNat
  | _, [] => .error (.number .empty)

end ScriptSpelling.Lexicon
