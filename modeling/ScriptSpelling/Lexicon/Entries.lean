import Std.Data.HashMap
import ScriptSpelling.Lexicon.Rules
import ScriptSpelling.Text.Casing

/-!
# Lexicon entries

The entry file of a lexicon starts with a count. Each further line holds a word, and after a slash
its flags; a tab, or spaces before a field such as `po:noun`, end the word as well.
-/

namespace ScriptSpelling.Lexicon

/-- What the lexicon says of a word. -/
structure Entry where
  flags : List Flag
  /-- Whether the entry stands for a word of unusual case and is met by capitals only. -/
  hidden : Bool := false
deriving Repr, DecidableEq

/-- Whether a flag that the rules may define is among the entry's flags. -/
def hasFlag (flags : List Flag) (flag : Option Flag) : Bool :=
  match flag with
  | some f => flags.contains f
  | none => false

/-- The entries by word. Several entries of one word are kept in their order. -/
abbrev Entries := Std.HashMap String (List Entry)

def Entries.of (entries : Entries) (word : List Char) : List Entry :=
  entries.getD (String.ofList word) []

/-- Adds an entry behind those of the same word. -/
def Entries.add (entries : Entries) (word : List Char) (entry : Entry) : Entries :=
  entries.insert (String.ofList word) (entries.of word ++ [entry])

/-- Whether spaces and a field name of two small letters and a colon come next. -/
def startsField (cs : List Char) : Bool :=
  match cs.dropWhile (· == ' ') with
  | a :: b :: ':' :: _ => a.isLower && b.isLower
  | _ => false

/-- The word at the start of a line, and the text of its flags if there is a slash. -/
def cutWord : List Char → List Char × Option (List Char)
  | [] => ([], none)
  | '\\' :: '/' :: rest => ('/' :: (cutWord rest).1, (cutWord rest).2)
  | '/' :: rest => ([], some (rest.takeWhile (!Text.isBlank ·)))
  | '\t' :: _ => ([], none)
  | c :: rest =>
    if c = ' ' && startsField rest then ([], none) else (c :: (cutWord rest).1, (cutWord rest).2)

/-- Whether a line of the entry file is passed over: it is blank, or starts with a slash. -/
def isSkipped (line : List Char) : Bool :=
  (Text.trimChars line).isEmpty || (line.head? == some '/' && line.length > 1)

/-- Adds a word with its flags. A word of mixed case, or one in capitals with flags, is also
entered with only its first letter in uppercase, as a hidden entry. -/
def Entries.addWord (entries : Entries) (rules : Rules) (word : List Char) (flags : List Flag) :
    Entries :=
  let word := word.filter (!rules.ignored.contains ·)
  let entries := entries.add word { flags }
  let casing := Text.Casing.of word
  let unusual := casing == .camel || casing == .pascal || (casing == .capitals && !flags.isEmpty)
  if unusual && !hasFlag flags rules.forbidden then
    entries.add (Text.titleChars word) { flags, hidden := true }
  else entries

def Entries.addLine (entries : Entries) (rules : Rules) (line : List Char) :
    Except LineFault Entries := do
  if isSkipped line then return entries
  let (word, flags) := cutWord line
  let flags ← match flags with
    | some cs => rules.flagSet cs
    | none => .ok []
  return entries.addWord rules word flags

def Entries.read (rules : Rules) (text : String) : Except LexiconFault Entries := do
  match contentLines text with
  | [] => throw ⟨.entries, none, .arguments 1 0⟩
  | (n, first) :: more =>
    match Text.fields first with
    | [] => throw ⟨.entries, some n, .arguments 1 0⟩
    | count :: _ =>
      let _ ← (readCount count).mapError (⟨.entries, some n, ·⟩)
      more.foldlM
        (fun (entries : Entries) (n, line) =>
          (entries.addLine rules line).mapError (⟨.entries, some n, ·⟩))
        ∅

end ScriptSpelling.Lexicon
