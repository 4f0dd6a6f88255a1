import ScriptSpelling.Lexicon.Entries

/-!
# Looking up words

A word is known to a lexicon when it is an entry or is made from one by affixes, possibly after a
change of case, and is not forbidden; or when it is a number; or when it can be broken at marks
such as the hyphen into words that are known.
-/

namespace ScriptSpelling

/-- An affix file and an entry file, read. -/
structure Lexicon where
  rules : Lexicon.Rules
  entries : Lexicon.Entries

namespace Lexicon

/-! ## Forms -/

/-- The form without the affix, if the word has it and the rest meets its condition. -/
def Affix.strip? (a : Affix) (word : List Char) : Option (List Char) :=
  match a.side with
  | .front =>
    if a.add.isPrefixOf word then
      let stem := a.strip ++ word.drop a.add.length
      if startsWithTests a.condition stem then some stem else none
    else none
  | .back =>
    if a.add.isSuffixOf word then
      let stem := word.take (word.length - a.add.length) ++ a.strip
      if endsWithTests a.condition stem then some stem else none
    else none

/-- The affixes of a side that the word can have, each with the form without it. -/
def strippings (lex : Lexicon) (side : Side) (word : List Char) : List (Affix × List Char) :=
  lex.rules.affixes.filterMap fun a =>
    if a.side = side then (a.strip? word).map ((a, ·)) else none

/-- Whether an affix may occur at all in a word that is no compound. -/
def Affix.stands (lex : Lexicon) (a : Affix) : Bool :=
  !hasFlag a.continuation lex.rules.onlyInCompound

/-- Whether a form may end with this affix as its last one. -/
def Affix.completes (lex : Lexicon) (a : Affix) : Bool :=
  a.stands lex && !hasFlag a.continuation lex.rules.needAffix

/-- The first entry of the stem with the wanted flags. -/
def stemEntry (lex : Lexicon) (skipHidden : Bool) (wanted : List Flag → Bool) (stem : List Char) :
    Option Entry :=
  (lex.entries.of stem).find? fun entry =>
    wanted entry.flags && !hasFlag entry.flags lex.rules.onlyInCompound &&
      !(skipHidden && entry.hidden)

def plainEntry (lex : Lexicon) (skipHidden : Bool) (word : List Char) : Option Entry :=
  lex.stemEntry skipHidden (fun flags => !hasFlag flags lex.rules.needAffix) word

/-- The entry from which one affix makes the word. -/
def affixedEntry (lex : Lexicon) (skipHidden : Bool) (side : Side) (word : List Char) :
    Option Entry :=
  (lex.strippings side word).findSome? fun (a, stem) =>
    if a.completes lex then lex.stemEntry skipHidden (·.contains a.flag) stem else none

/-- The entry from which an affix at each end makes the word. One of the two may be allowed by the
other instead of by the entry. -/
def circledEntry (lex : Lexicon) (skipHidden : Bool) (word : List Char) : Option Entry :=
  (lex.strippings .front word).findSome? fun (p, inner) =>
    if p.completes lex then
      (lex.strippings .back inner).findSome? fun (s, stem) =>
        let needsOuter := hasFlag s.continuation lex.rules.needAffix
        let allowed (flags : List Flag) : Bool :=
          (flags.contains s.flag && (flags.contains p.flag || s.continuation.contains p.flag)) ||
            (!needsOuter && flags.contains p.flag &&
              (flags.contains s.flag || p.continuation.contains s.flag))
        if s.stands lex then lex.stemEntry skipHidden allowed stem else none
    else none

/-- The entry from which two endings make the word: the outer one is allowed by the inner. -/
def twiceEndedEntry (lex : Lexicon) (skipHidden : Bool) (word : List Char) : Option Entry :=
  (lex.strippings .back word).findSome? fun (outer, inner) =>
    if outer.completes lex then
      (lex.strippings .back inner).findSome? fun (s, stem) =>
        if s.stands lex && s.continuation.contains outer.flag then
          lex.stemEntry skipHidden (·.contains s.flag) stem
        else none
    else none

/-- The entry from which two endings and a beginning make the word. -/
def circledTwiceEntry (lex : Lexicon) (skipHidden : Bool) (word : List Char) : Option Entry :=
  (lex.strippings .front word).findSome? fun (p, rest) =>
    if p.completes lex then
      (lex.strippings .back rest).findSome? fun (outer, inner) =>
        if outer.stands lex then
          (lex.strippings .back inner).findSome? fun (s, stem) =>
            if s.stands lex && s.continuation.contains outer.flag then
              lex.stemEntry skipHidden (fun flags =>
                flags.contains s.flag &&
                  (flags.contains p.flag || s.continuation.contains p.flag)) stem
            else none
        else none
    else none

/-- The entry that makes the word, just as it is written. -/
def entryOf (lex : Lexicon) (skipHidden : Bool) (word : List Char) : Option Entry :=
  (lex.plainEntry skipHidden word).or <|
  (lex.affixedEntry skipHidden .back word).or <|
  (lex.affixedEntry skipHidden .front word).or <|
  (lex.circledEntry skipHidden word).or <|
  (lex.twiceEndedEntry skipHidden word).or <|
  lex.circledTwiceEntry skipHidden word

/-! ## Case -/

/-- The entry, unless its word must keep its case. -/
def unlessKept (lex : Lexicon) (entry : Option Entry) : Option Entry :=
  entry.filter fun e => !hasFlag e.flags lex.rules.keepCase

/-- The parts of a word up to and after its first apostrophe, if something follows it. -/
def atApostrophe? (word : List Char) : Option (List Char × List Char) :=
  match word.dropWhile (· != '\'') with
  | _ :: c :: rest => some (word.takeWhile (· != '\'') ++ ['\''], c :: rest)
  | _ => none

/-- The entry of a word in capitals: as it is, with a capital after an apostrophe, with one
capital, or in lowercase. -/
def capitalsEntry (lex : Lexicon) (word : List Char) : Option Entry :=
  let joined : Option Entry :=
    match atApostrophe? word with
    | some (front, back) =>
      (lex.entryOf false (Text.lowerChars front ++ Text.titleChars back)).or
        (lex.entryOf false (Text.titleChars front ++ Text.titleChars back))
    | none => none
  (lex.entryOf false word).or <|
  joined.or <|
  (lex.unlessKept (lex.entryOf false (Text.titleChars word))).or <|
  lex.unlessKept (lex.entryOf false (Text.lowerChars word))

/-- The entry of a word with one capital at its start: as it is, or in lowercase. A form that is
forbidden as it is has no entry. -/
def titleEntry (lex : Lexicon) (word : List Char) : Option Entry :=
  match lex.entryOf true word with
  | some entry => if hasFlag entry.flags lex.rules.forbidden then none else some entry
  | none => lex.unlessKept (lex.entryOf false (Text.lowerChars word))

/-- The entry of a word in any case that it may be written in. -/
def casedEntry (lex : Lexicon) (word : List Char) : Option Entry :=
  match Text.Casing.of word with
  | .small | .camel | .pascal => lex.entryOf false word
  | .title => lex.titleEntry word
  | .capitals => lex.capitalsEntry word

/-! ## Breaking -/

/-- The parts before and after the first occurrence of a pattern. -/
def cutAt? (pattern : List Char) : List Char → Option (List Char × List Char)
  | [] => none
  | c :: rest =>
    if pattern.isPrefixOf (c :: rest) then some ([], (c :: rest).drop pattern.length)
    else (cutAt? pattern rest).map fun (front, back) => (c :: front, back)

/-- A break pattern: where it applies, and the mark itself. -/
inductive BreakPattern where
  | atStart (mark : List Char)
  | atEnd (mark : List Char)
  | between (mark : List Char)
deriving Repr, DecidableEq

/-- The pattern that a row of the break table writes. -/
def BreakPattern.ofRow? (row : List Char) : Option BreakPattern :=
  match row with
  | [] | ['^'] | ['$'] => none
  | '^' :: mark => some (.atStart mark)
  | _ => if row.getLast? = some '$' then some (.atEnd row.dropLast) else some (.between row)

/-- Tries the patterns in turn, first those at the start, then those at the end, then the others,
and asks `known` of each part. -/
def breaks (rows : List (List Char)) (known : List Char → Bool) (word : List Char) : Bool :=
  let patterns := rows.filterMap BreakPattern.ofRow?
  let atStart := patterns.any fun
    | .atStart mark => mark.isPrefixOf word && known (word.drop mark.length)
    | _ => false
  let atEnd := patterns.any fun
    | .atEnd mark => mark.isSuffixOf word && known (word.take (word.length - mark.length))
    | _ => false
  let between := patterns.any fun
    | .between mark =>
      match cutAt? mark word with
      | some (front, back) => !front.isEmpty && !back.isEmpty && known front && known back
      | none => false
    | _ => false
  atStart || atEnd || between

/-- Whether the word has an entry that is not forbidden or, when it has none, can be broken at
most `depth` times into such words. -/
def knowsBroken (lex : Lexicon) : Nat → List Char → Bool
  | depth, word =>
    match lex.casedEntry word with
    | some entry => !hasFlag entry.flags lex.rules.forbidden
    | none =>
      match depth with
      | 0 => false
      | depth + 1 => breaks lex.rules.breaks (lex.knowsBroken depth) word

/-! ## Whole words -/

/-- Replaces, from left to right, the longest conversion that applies at each place. -/
def convert (table : List (List Char × List Char)) : Nat → List Char → List Char
  | _, [] => []
  | 0, cs => cs
  | fuel + 1, c :: rest =>
    let best := table.foldl
      (fun (best : Option (List Char × List Char)) row =>
        if row.1.isPrefixOf (c :: rest) && (best.map (·.1.length)).getD 0 < row.1.length
        then some row else best)
      none
    match best with
    | some (source, target) => target ++ convert table fuel ((c :: rest).drop source.length)
    | none => c :: convert table fuel rest

/-- Whether digits follow, with single marks between groups of them. -/
def isDigitGroups : Bool → List Char → Bool
  | afterDigit, [] => afterDigit
  | afterDigit, c :: rest =>
    if c.isDigit then isDigitGroups true rest
    else afterDigit && (c = '.' || c = ',' || c = '-') && isDigitGroups false rest

/-- Whether the word is a number, possibly with a minus sign. -/
def isNumber : List Char → Bool
  | '-' :: rest => isDigitGroups false rest
  | cs => isDigitGroups false cs

/-- The most bytes that a word may have. -/
def maxBytes : Nat := 360

/-- How often a word is broken at most. -/
def maxBreaks : Nat := 9

def knows (lex : Lexicon) (word : String) : Bool :=
  if word.utf8ByteSize > maxBytes then false
  else
    let cs := convert lex.rules.conversions word.utf8ByteSize word.toList
    if cs.isEmpty then true
    else
      let undotted := (cs.reverse.dropWhile (· == '.')).reverse
      let clean (w : List Char) : List Char := w.filter (!lex.rules.ignored.contains ·)
      isNumber undotted || lex.knowsBroken maxBreaks (clean undotted) ||
        (undotted.length < cs.length && lex.knowsBroken maxBreaks (clean undotted ++ ['.']))

/-- Reads the two files of a lexicon, the affix file first. -/
def read (affixes entries : String) : Except LexiconFault Lexicon := do
  let rules ← Rules.read affixes
  let entries ← Entries.read rules entries
  return ⟨rules, entries⟩

end Lexicon

end ScriptSpelling
