import ScriptSpelling.Exempt.GlobalNames
import ScriptSpelling.Text.Blank
import ScriptSpelling.Text.Casing

/-!
# Exempt words

A `SkipSet` holds the words that are never reported. Words are stored trimmed and in lowercase, so
membership does not depend on case; blank words are not stored.
-/

namespace ScriptSpelling

/-- A case-insensitive set of exempt words. -/
structure SkipSet where
  /-- The stored words: trimmed, in lowercase and without repeats. -/
  words : List String
  nodup : words.Nodup

namespace SkipSet

/-- Jargon that is too common in scripts to be worth a report. -/
def jargon : List String := [
  "$http", "$httpBackend", "argc", "argv", "bool", "const", "ctrl", "dcl", "disney", "esprima",
  "esquery", "fs", "html", "http", "js", "jshint", "json", "lodash", "lint", "ng", "ngcookies",
  "nginject", "param", "ui", "url", "Vm", "vm", "wdpr", "_"]

def empty : SkipSet := ⟨[], .nil⟩

/-- Membership is that of the stored words. -/
instance : Membership String SkipSet := ⟨fun s word => word ∈ s.words⟩

/-- One set is part of another if it stores no other words. -/
instance : HasSubset SkipSet := ⟨fun s t => ∀ word, word ∈ s → word ∈ t⟩

instance (word : String) (s : SkipSet) : Decidable (word ∈ s) :=
  inferInstanceAs (Decidable (word ∈ s.words))

/-- The form in which a word is stored. -/
def entry (word : String) : String := Text.lowercase (Text.trim word)

/-- Whether the set stores exactly this text. -/
def stores (s : SkipSet) (entry : String) : Bool := s.words.contains entry

/-- The set with one more word; a blank word changes nothing. -/
def insert (s : SkipSet) (word : String) : SkipSet :=
  if (Text.trim word).isEmpty then s
  else if h : entry word ∈ s.words then s
  else ⟨entry word :: s.words, List.nodup_cons.2 ⟨h, s.nodup⟩⟩

/-- The set with all the given words as well. -/
def withWords (s : SkipSet) (words : List String) : SkipSet := words.foldl insert s

/-- The common jargon and every known global name. -/
def builtin : SkipSet := empty.withWords (jargon ++ GlobalNames.all)

def isExempt (s : SkipSet) (word : String) : Bool := s.stores (Text.lowercase word)

/-- Whether the whole text of an identifier is exempt. -/
def isExemptWhole (s : SkipSet) (raw : String) : Bool := s.isExempt (Text.trim raw)

/-- Whether any of the words is exempt. -/
def intersects (s : SkipSet) (words : List String) : Bool := words.any s.isExempt

def size (s : SkipSet) : Nat := s.words.length

def isEmpty (s : SkipSet) : Bool := s.words.isEmpty

end SkipSet

end ScriptSpelling
