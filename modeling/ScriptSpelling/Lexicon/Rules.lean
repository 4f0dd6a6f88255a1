import ScriptSpelling.Lexicon.Condition
import ScriptSpelling.Lexicon.Flag
import ScriptSpelling.Text.Blank

/-!
# Affix rules

The affix file of a lexicon is read line by line. A line holds a directive and its arguments; some
directives announce a table, whose rows are the following lines. `RulesReader` is what is known
after some lines: the rules so far and the table that still lacks rows.
-/

namespace ScriptSpelling.Lexicon

/-! ## Faults -/

/-- The two files of a lexicon. -/
inductive LexiconFile where
  | affixes
  | entries
deriving Repr, DecidableEq

inductive LineFault where
  | arguments (expected found : Nat)
  | rows (expected found : Nat)
  | affix
  | number (fault : Text.NumberFault)
  | flag (fault : FlagFault)
  | condition (fault : ConditionFault)
  | flagStyle (found : String)
deriving Repr, DecidableEq

def LineFault.message : LineFault → String
  | arguments expected found =>
    "expected " ++ toString expected ++ " arguments but found " ++ toString found
  | rows expected found => "expected " ++ toString expected ++ " rows but found " ++ toString found
  | affix => "failed to parse affix"
  | number fault => fault.message
  | flag fault => "flag is malformed: " ++ fault.message
  | condition fault => "condition is malformed: " ++ fault.message
  | flagStyle found =>
    "expected FLAG to be \x60long\x60, \x60num\x60 or \x60UTF-8\x60 if set, found " ++ found

/-- Why a lexicon is rejected. There is no line when the file ended too early. -/
structure LexiconFault where
  file : LexiconFile
  line : Option Nat
  reason : LineFault
deriving Repr, DecidableEq

def LexiconFault.message (fault : LexiconFault) : String :=
  let file := match fault.file with
    | .affixes => ".aff"
    | .entries => ".dic"
  let place := match fault.line with
    | some n => " on line " ++ toString n
    | none => ""
  "failed to parse " ++ file ++ " file" ++ place ++ ": " ++ fault.reason.message

/-! ## Lines -/

/-- The text without a byte order mark before it. -/
def dropMark : List Char → List Char
  | '\ufeff' :: rest => rest
  | cs => cs

/-- The lines of a file with their numbers from one, without those that are comments. -/
def contentLines (text : String) : List (Nat × List Char) :=
  ((Text.lines (dropMark text.toList)).zipIdx 1).filterMap fun (line, n) =>
    if (Text.trimStart line).head? == some '#' then none else some (n, line)

/-! ## Rules -/

/-- The end of a stem to which an affix is attached. -/
inductive Side where
  | front
  | back
deriving Repr, DecidableEq

/-- An affix: it replaces `strip` by `add` at its side of a stem that meets the condition. -/
structure Affix where
  side : Side
  flag : Flag
  strip : List Char
  add : List Char
  /-- Flags that a form with this affix gains. -/
  continuation : List Flag
  condition : List CharTest
deriving Repr, DecidableEq

/-- What an affix file says. -/
structure Rules where
  flagStyle : FlagStyle := .short
  /-- The flag sets that entries may refer to by number. -/
  aliases : List (List Flag) := []
  affixes : List Affix := []
  needAffix : Option Flag := none
  forbidden : Option Flag := none
  keepCase : Option Flag := none
  onlyInCompound : Option Flag := none
  /-- Characters that are left out of words and entries. -/
  ignored : List Char := []
  /-- Patterns at which an unknown word is broken. -/
  breaks : List (List Char) := [['^', '-'], ['-'], ['-', '$']]
  /-- Replacements that are made in a word before it is looked up. -/
  conversions : List (List Char × List Char) := []
deriving Repr

/-- A set of flags, written by number when there are aliases. -/
def Rules.flagSet (rules : Rules) (cs : List Char) : Except LineFault (List Flag) :=
  let byNumber : Option (List Flag) :=
    match Text.readNumber UInt64.size cs with
    | .ok n => if n = 0 then none else rules.aliases[n - 1]?
    | .error _ => none
  match byNumber with
  | some flags => .ok flags
  | none => (readFlags rules.flagStyle cs).mapError .flag

/-! ## Tables -/

/-- The tables that a directive can announce. -/
inductive Table where
  | aliases
  | breaks
  | conversions
  | affixes (side : Side) (flag : Flag)
  /-- A table that does not bear on lookup, with the number of arguments in a row. -/
  | other (name : String) (arity : Nat)
deriving Repr, DecidableEq

/-- The word that starts each row of the table. -/
def Table.name : Table → String
  | aliases => "AF"
  | breaks => "BREAK"
  | conversions => "ICONV"
  | affixes .front _ => "PFX"
  | affixes .back _ => "SFX"
  | other name _ => name

/-- A table with rows still to come: the next row has the number `row`, the last one `count`. -/
structure OpenTable where
  table : Table
  count : Nat
  row : Nat
deriving Repr, DecidableEq

def onlyArgument : List (List Char) → Except LineFault (List Char)
  | [arg] => .ok arg
  | args => .error (.arguments 1 args.length)

def twoArguments : List (List Char) → Except LineFault (List Char × List Char)
  | [a, b] => .ok (a, b)
  | args => .error (.arguments 2 args.length)

def readCount (cs : List Char) : Except LineFault Nat :=
  (Text.readNumber UInt64.size cs).mapError .number

/-- The part before the first slash, and the part after it if there is one. -/
def cutAtSlash : List Char → List Char × Option (List Char)
  | [] => ([], none)
  | '/' :: rest => ([], some rest)
  | c :: rest => ((c :: (cutAtSlash rest).1), (cutAtSlash rest).2)

/-- A strip or add part, where a single zero stands for nothing. -/
def affixPart (cs : List Char) : List Char := if cs = ['0'] then [] else cs

def readAffix (rules : Rules) (side : Side) (flag : Flag) (args : List (List Char)) :
    Except LineFault Affix :=
  match args with
  | rowFlag :: strip :: addition :: more => do
    let rowFlag ← (readFlag rules.flagStyle rowFlag).mapError .flag
    if rowFlag ≠ flag then throw .affix
    let (add, flags) := cutAtSlash addition
    let continuation ← match flags with
      | some cs => rules.flagSet cs
      | none => .ok []
    let condition ← match more with
      | cs :: _ => (readCondition .outside cs).mapError .condition
      | [] => .ok []
    let condition := if condition = [.any] then [] else condition
    return {
      side, flag, continuation, condition
      strip := affixPart strip
      add := affixPart add }
  | _ => .error (.arguments 3 args.length)

def Table.addRow (table : Table) (rules : Rules) (args : List (List Char)) :
    Except LineFault Rules :=
  match table with
  | aliases => do
    let flags ← (readFlags rules.flagStyle (← onlyArgument args)).mapError .flag
    return { rules with aliases := rules.aliases ++ [flags] }
  | breaks => do return { rules with breaks := rules.breaks ++ [← onlyArgument args] }
  | conversions => do
    return { rules with conversions := rules.conversions ++ [← twoArguments args] }
  | affixes side flag => do
    return { rules with affixes := (← readAffix rules side flag args) :: rules.affixes }
  | other _ 1 => do let _ ← onlyArgument args; return rules
  | other _ _ => do let _ ← twoArguments args; return rules

/-! ## Directives -/

/-- The rules after a directive that stands alone. -/
abbrev Announcement := Rules × Option (Table × Nat)

def flagArgument (rules : Rules) (args : List (List Char)) : Except LineFault (Option Flag) := do
  let flag ← (readFlag rules.flagStyle (← onlyArgument args)).mapError .flag
  return some flag

def affixHeader (rules : Rules) (side : Side) (args : List (List Char)) :
    Except LineFault Announcement :=
  match args with
  | flag :: cross :: count :: _ => do
    let flag ← (readFlag rules.flagStyle flag).mapError .flag
    if cross ≠ ['Y'] ∧ cross ≠ ['N'] then throw .affix
    return (rules, some (.affixes side flag, ← readCount count))
  | _ => .error (.arguments 3 args.length)

/-- Reads a directive: the rules after it, and the table it announces with its number of rows.
Directives that are not known are skipped. -/
def readDirective (rules : Rules) (name : String) (args : List (List Char)) :
    Except LineFault Announcement :=
  let table (rules : Rules) (t : Table) : Except LineFault Announcement := do
    return (rules, some (t, ← readCount (← onlyArgument args)))
  match name with
  | "FLAG" => do
    let found := String.ofList (← onlyArgument args)
    match FlagStyle.ofName? found with
    | some style => return ({ rules with flagStyle := style }, none)
    | none => throw (.flagStyle found)
  | "AF" => table rules .aliases
  | "BREAK" => table { rules with breaks := [] } .breaks
  | "ICONV" => table rules .conversions
  | "OCONV" => table rules (.other "OCONV" 2)
  | "REP" => table rules (.other "REP" 2)
  | "MAP" => table rules (.other "MAP" 1)
  | "PFX" => affixHeader rules .front args
  | "SFX" => affixHeader rules .back args
  | "NEEDAFFIX" => do return ({ rules with needAffix := ← flagArgument rules args }, none)
  | "FORBIDDENWORD" => do return ({ rules with forbidden := ← flagArgument rules args }, none)
  | "KEEPCASE" => do return ({ rules with keepCase := ← flagArgument rules args }, none)
  | "ONLYINCOMPOUND" => do return ({ rules with onlyInCompound := ← flagArgument rules args }, none)
  | "NOSUGGEST" => do let _ ← flagArgument rules args; return (rules, none)
  | "IGNORE" => do return ({ rules with ignored := ← onlyArgument args }, none)
  | "SET" | "TRY" | "KEY" => do let _ ← onlyArgument args; return (rules, none)
  | _ => return (rules, none)

/-! ## The reader -/

/-- What is known after some lines of an affix file. -/
structure RulesReader where
  rules : Rules
  table : Option OpenTable
deriving Repr

/-- Reads one line. While a table lacks rows, the line must be one of them. -/
def RulesReader.line (reader : RulesReader) (line : List Char) : Except LineFault RulesReader :=
  match Text.fields line, reader.table with
  | [], none => .ok reader
  | word :: args, none => do
    let (rules, announced) ← readDirective reader.rules (String.ofList word) args
    match announced with
    | some (table, count) => return ⟨rules, if count = 0 then none else some ⟨table, count, 1⟩⟩
    | none => return ⟨rules, none⟩
  | [], some t => .error (.rows t.count t.row)
  | word :: args, some t =>
    if String.ofList word = t.table.name then do
      let rules ← t.table.addRow reader.rules args
      return ⟨rules, if t.row < t.count then some { t with row := t.row + 1 } else none⟩
    else .error (.rows t.count t.row)

def Rules.read (text : String) : Except LexiconFault Rules := do
  let reader ← (contentLines text).foldlM
    (fun (reader : RulesReader) (n, line) => (reader.line line).mapError (⟨.affixes, some n, ·⟩))
    ⟨{}, none⟩
  match reader.table with
  | some t => throw ⟨.affixes, none, .rows t.count t.row⟩
  | none => return { reader.rules with affixes := reader.rules.affixes.reverse }

end ScriptSpelling.Lexicon
