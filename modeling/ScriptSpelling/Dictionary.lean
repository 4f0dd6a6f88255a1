import Std.Data.HashSet
import ScriptSpelling.Lexicon.Lookup
import ScriptSpelling.Text.Order

/-!
# Dictionaries

A dictionary is the union of its sources: it knows a word if any source knows it. A source is a
lexicon of affix rules and entries, or a plain list of words that is compared in lowercase. The
lexicons are kept one by one; the words of all lists are merged into one set, which is built from
them in ascending order.

What reads and asks a lexicon, and what builds and asks the set, are the `Engines` of a union. Of a
`Dictionary` only the answers count, so it may come from a union with any engines; `Dictionary.load`
takes those of this library.
-/

namespace ScriptSpelling

/-- A source of words, already in memory. -/
inductive DictionarySource where
  /-- An affix file and its entry file. -/
  | lexicon (affixes entries : String)
  /-- A plain list of words. -/
  | wordList (text : String)
deriving Repr, DecidableEq

/-! ## Word lists -/

namespace WordList

def beforeSlash (line : List Char) : List Char := line.takeWhile (· != '/')

/-- The word on a line, or `none` for a blank line, a comment, a line without a word before the
slash, and a count on the first line. -/
def entryOfLine? (isFirst : Bool) (line : List Char) : Option (List Char) :=
  let line := Text.trimChars line
  if line.isEmpty || line.head? == some '#' then none
  else if isFirst && line.all Char.isDigit then none
  else
    let word := Text.trimChars (beforeSlash line)
    if word.isEmpty then none else some (Text.lowerChars word)

/-- The words of a list, in lowercase and in order. -/
def entries (text : String) : List String :=
  ((Text.lines text.toList).zipIdx.filterMap fun (line, i) => entryOfLine? (i == 0) line).map
    String.ofList

def ofWords (words : List String) : String := String.intercalate "\n" words

end WordList

/-! ## The union -/

/-- The union of lexicons and word lists. -/
structure Union (Lex Words : Type) where
  lexicons : List Lex
  /-- The words of the lists, in lowercase. -/
  words : Words

/-- Why a union cannot be built. -/
inductive UnionFault (LexFault WordsFault : Type) where
  /-- There is no source. -/
  | noSource
  /-- A lexicon is malformed. -/
  | lexicon (fault : LexFault)
  /-- The set of the listed words cannot be built. -/
  | wordList (fault : WordsFault)
deriving Repr, DecidableEq

/-- What lexicons and sets of words are made and asked by. -/
structure Engines (Lex LexFault Words WordsFault : Type) where
  /-- The lexicon that an affix file and an entry file describe. -/
  readLexicon (affixes entries : String) : Except LexFault Lex
  /-- Whether the lexicon knows the word. -/
  asksLexicon (lexicon : Lex) (word : String) : Bool
  /-- The fault of a lexicon in words. -/
  lexiconText (fault : LexFault) : String
  /-- The set of the words, which come in ascending order. -/
  collect (words : List String) : Except WordsFault Words
  /-- Whether the word is in the set. -/
  contains (words : Words) (word : String) : Bool
  /-- The fault of a set in words. -/
  wordsText (fault : WordsFault) : String

def listedWords (sources : List DictionarySource) : List String :=
  sources.flatMap fun
    | .lexicon _ _ => []
    | .wordList text => WordList.entries text

namespace Engines

variable {Lex LexFault Words WordsFault : Type} (e : Engines Lex LexFault Words WordsFault)

def message : UnionFault LexFault WordsFault → String
  | .noSource => "No dictionary configured"
  | .lexicon fault => "Failed to parse dictionary: " ++ e.lexiconText fault
  | .wordList fault => "Failed to build word list: " ++ e.wordsText fault

/-- The lexicons among the sources, in order, or the fault of the first malformed one. -/
def readLexicons : List DictionarySource → Except LexFault (List Lex)
  | [] => .ok []
  | .lexicon affixes entries :: rest => do
    let lex ← e.readLexicon affixes entries
    return lex :: (← readLexicons rest)
  | .wordList _ :: rest => readLexicons rest

/-- The union made from the sources. -/
def load (sources : List DictionarySource) :
    Except (UnionFault LexFault WordsFault) (Union Lex Words) :=
  if sources.isEmpty then .error .noSource
  else do
    let lexicons ← (e.readLexicons sources).mapError .lexicon
    let words ← (e.collect (Text.ascending (listedWords sources))).mapError .wordList
    return ⟨lexicons, words⟩

/-- Whether any source knows the word. -/
def knows (d : Union Lex Words) (word : String) : Bool :=
  d.lexicons.any (e.asksLexicon · word) || e.contains d.words (Text.lowercase word)

/-- The engines of this library. A hash set takes words in any order. -/
def inMemory : Engines Lexicon Lexicon.LexiconFault (Std.HashSet String) Empty where
  readLexicon := Lexicon.read
  asksLexicon := Lexicon.knows
  lexiconText := Lexicon.LexiconFault.message
  collect words := .ok (.ofList words)
  contains words word := words.contains word
  wordsText := Empty.elim

end Engines

/-! ## Dictionaries -/

/-- What words are checked against: it says of each word whether it is known. -/
structure Dictionary where
  knows : String → Bool

namespace Engines

variable {Lex LexFault Words WordsFault : Type} (e : Engines Lex LexFault Words WordsFault)

def dictionary (u : Union Lex Words) : Dictionary := ⟨e.knows u⟩

/-- The dictionary made from the sources. -/
def loadDictionary (sources : List DictionarySource) :
    Except (UnionFault LexFault WordsFault) Dictionary :=
  (e.load sources).map e.dictionary

end Engines

/-- Why a dictionary cannot be built. -/
abbrev DictionaryFault := UnionFault Lexicon.LexiconFault Empty

def DictionaryFault.message (fault : DictionaryFault) : String := Engines.inMemory.message fault

namespace Dictionary

/-- The dictionary made from the sources by the engines of this library. -/
def load (sources : List DictionarySource) : Except DictionaryFault Dictionary :=
  Engines.inMemory.loadDictionary sources

def ofWords (words : List String) : Except DictionaryFault Dictionary :=
  load [.wordList (WordList.ofWords words)]

end Dictionary

end ScriptSpelling
