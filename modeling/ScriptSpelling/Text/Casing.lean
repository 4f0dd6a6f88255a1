import ScriptSpelling.Text.CaseData

/-!
# Case mapping

Full Unicode case mapping of a text, independent of any language: a character may become several
(`İ` becomes `i` with a dot above), and a capital sigma becomes a final sigma at the end of a
word. `Casing` sorts words by how they are capitalized.
-/

namespace ScriptSpelling.Text

/-- The lowercase form of one character, apart from its surroundings. -/
def lowerChar (c : Char) : List Char :=
  let n := c.toNat
  if n < 0x80 then
    if 0x41 ≤ n && n ≤ 0x5A then [Char.ofNat (n + 0x20)] else [c]
  else if n = 0x130 then ['i', '\u0307']
  else
    match shift? CaseData.toLower n with
    | some m => [Char.ofNat m]
    | none => [c]

def upperChar (c : Char) : List Char :=
  let n := c.toNat
  if n < 0x80 then
    if 0x61 ≤ n && n ≤ 0x7A then [Char.ofNat (n - 0x20)] else [c]
  else
    match CaseData.toUpperLong.lookup n with
    | some ms => ms.map Char.ofNat
    | none =>
      match shift? CaseData.toUpper n with
      | some m => [Char.ofNat m]
      | none => [c]

def isUpper (c : Char) : Bool :=
  let n := c.toNat
  if n < 0x80 then 0x41 ≤ n && n ≤ 0x5A else inRuns CaseData.uppercase n

def isLower (c : Char) : Bool :=
  let n := c.toNat
  if n < 0x80 then 0x61 ≤ n && n ≤ 0x7A else inRuns CaseData.lowercase n

def isCased (c : Char) : Bool :=
  let n := c.toNat
  if n < 0x80 then (0x41 ≤ n && n ≤ 0x5A) || (0x61 ≤ n && n ≤ 0x7A) else inRuns CaseData.cased n

def isCaseIgnorable (c : Char) : Bool := inRuns CaseData.caseIgnorable c.toNat

/-- Whether a cased character comes first, looking through case-ignorable ones. -/
def meetsCased (cs : List Char) : Bool :=
  match cs.dropWhile isCaseIgnorable with
  | c :: _ => isCased c
  | [] => false

/-- The lowercase form of `c` between the characters `before` (nearest first) and `after`. A
capital sigma is final when a cased character comes before it and none after it. -/
def lowerBetween (before : List Char) (c : Char) (after : List Char) : List Char :=
  if c = 'Σ' then [if meetsCased before && !meetsCased after then 'ς' else 'σ'] else lowerChar c

/-- The lowercase form of a text of which `before` (nearest first) was already read. -/
def lowerFrom (before : List Char) : List Char → List Char
  | [] => []
  | c :: rest => lowerBetween before c rest ++ lowerFrom (c :: before) rest

/-- The lowercase form of a text. -/
def lowerChars (cs : List Char) : List Char := lowerFrom [] cs

def lowercase (s : String) : String := String.ofList (lowerChars s.toList)

/-- The text with its first character in uppercase and the others in lowercase. -/
def titleChars : List Char → List Char
  | [] => []
  | c :: rest => upperChar c ++ lowerChars rest

inductive Casing where
  /-- No uppercase character. -/
  | small
  /-- Only the first character is uppercase. -/
  | title
  /-- Uppercase characters and no lowercase one. -/
  | capitals
  /-- Mixed, with an uppercase first character. -/
  | pascal
  /-- Mixed, with another first character. -/
  | camel
deriving Repr, DecidableEq

/-- How the word is capitalized. A single uppercase letter counts as `title`. -/
def Casing.of (word : List Char) : Casing :=
  let upper := word.countP isUpper
  let lower := word.countP isLower
  let first := (word.head?.map isUpper).getD false
  if upper == 0 then .small
  else if first && upper == 1 then .title
  else if lower == 0 then .capitals
  else if first then .pascal
  else .camel

end ScriptSpelling.Text
