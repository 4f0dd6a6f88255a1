import ScriptSpelling.Check
import ScriptSpelling.Proofs.Escapes

/-!
# The runtime value of a string literal

When a script runs, the value of a string literal is a sequence of 16-bit code units. `Item` lists
what the body of a literal is made of in the language, `Spelling` is a whole literal, and
`Spelling.units` is its value. A value without unpaired surrogates is the UTF-16 form of a text
(`Spelling.Denotes`), and this text is what the checker should see.

The decoder reads item by item (`unescape_item`). It misses two forms: an escape that names one
half of a surrogate pair, which stands for no character of its own, and a line continuation over
U+2028 or U+2029. All other items are read as the text of which they are the UTF-16 form, and the
two forms are read as something longer. So the decoder gives the denoted text exactly if neither
form occurs, and then the findings for a literal depend on its value alone (`value?_eq_iff_direct`).
-/

namespace ScriptSpelling

namespace Literal

/-! ## UTF-16 -/

def codeUnits (n : Nat) : List Nat :=
  if n < 0x10000 then [n] else [0xD800 + (n - 0x10000) / 0x400, 0xDC00 + (n - 0x10000) % 0x400]

def utf16 (cs : List Char) : List Nat := cs.flatMap fun c => codeUnits c.toNat

theorem codeUnits_of_lt {n : Nat} (h : n < 0x10000) : codeUnits n = [n] := if_pos h

theorem lt_of_mem_codeUnits {n : Nat} (h : n ≤ 0x10FFFF) : ∀ u ∈ codeUnits n, u < 0x10000 := by
  intro u hu
  unfold codeUnits at hu
  split at hu <;> simp only [List.mem_cons, List.not_mem_nil, or_false] at hu <;> omega

theorem utf16_append (cs ds : List Char) : utf16 (cs ++ ds) = utf16 cs ++ utf16 ds :=
  List.flatMap_append

theorem length_le_length_utf16 : ∀ cs : List Char, cs.length ≤ (utf16 cs).length
  | [] => Nat.le_refl _
  | c :: cs => by
      have ih := length_le_length_utf16 cs
      have hunits : 1 ≤ (codeUnits c.toNat).length := by
        unfold codeUnits
        split <;> simp
      rw [utf16, List.flatMap_cons, List.length_append, List.length_cons, ← utf16]
      omega

/-- Different characters are told apart by their code units, whatever follows. -/
theorem codeUnits_append_inj {c d : Char} {us vs : List Nat}
    (h : codeUnits c.toNat ++ us = codeUnits d.toNat ++ vs) : c = d ∧ us = vs := by
  have hc : c.toNat < 0xD800 ∨ 0xDFFF < c.toNat ∧ c.toNat < 0x110000 := c.valid
  have hd : d.toNat < 0xD800 ∨ 0xDFFF < d.toNat ∧ d.toNat < 0x110000 := d.valid
  unfold codeUnits at h
  split at h <;> split at h <;>
    simp only [List.cons_append, List.nil_append, List.cons.injEq] at h
  · exact ⟨Char.toNat_inj.mp h.1, h.2⟩
  · omega
  · omega
  · exact ⟨Char.toNat_inj.mp (by omega), h.2.2⟩

theorem utf16_injective : ∀ {cs ds : List Char}, utf16 cs = utf16 ds → cs = ds
  | [], [], _ => rfl
  | [], d :: ds, h => by
      have hlength := length_le_length_utf16 (d :: ds)
      rw [← h] at hlength
      exact absurd hlength (by simp [utf16])
  | c :: cs, [], h => by
      have hlength := length_le_length_utf16 (c :: cs)
      rw [h] at hlength
      exact absurd hlength (by simp [utf16])
  | c :: cs, d :: ds, h => by
      rw [utf16, utf16, List.flatMap_cons, List.flatMap_cons] at h
      obtain ⟨rfl, htail⟩ := codeUnits_append_inj h
      rw [utf16_injective htail]

def isHigh (u : Nat) : Bool := 0xD800 ≤ u && u ≤ 0xDBFF

def isLow (u : Nat) : Bool := 0xDC00 ≤ u && u ≤ 0xDFFF

/-- No half of a surrogate pair stands without the other. -/
def isPaired : List Nat → Bool
  | [] => true
  | [u] => !isHigh u && !isLow u
  | u :: v :: rest =>
    if isHigh u then isLow v && isPaired rest else !isLow u && isPaired (v :: rest)

theorem utf16_ofNat {n : Nat} (h : n.isValidChar) : utf16 [Char.ofNat n] = codeUnits n := by
  rw [utf16, List.flatMap_singleton, Char.ofNat, dif_pos h]
  rfl

theorem utf16_ofNat_of_not_surrogate {u : Nat} (h : u < 0x10000) (hhigh : isHigh u = false)
    (hlow : isLow u = false) : utf16 [Char.ofNat u] = [u] := by
  have hvalid : u.isValidChar := by
    simp only [isHigh, isLow, Bool.and_eq_false_iff, decide_eq_false_iff_not] at hhigh hlow
    rw [Nat.isValidChar]
    omega
  rw [utf16_ofNat hvalid, codeUnits_of_lt h]

theorem utf16_ofNat_of_pair {u v : Nat} (hhigh : isHigh u = true) (hlow : isLow v = true) :
    utf16 [Char.ofNat (0x10000 + (u - 0xD800) * 0x400 + (v - 0xDC00))] = [u, v] := by
  simp only [isHigh, isLow, Bool.and_eq_true, decide_eq_true_eq] at hhigh hlow
  have hvalid : (0x10000 + (u - 0xD800) * 0x400 + (v - 0xDC00)).isValidChar :=
    .inr (by omega)
  rw [utf16_ofNat hvalid, codeUnits, if_neg (by omega), List.cons.injEq, List.cons.injEq]
  exact ⟨by omega, by omega, rfl⟩

/-- Units without an unpaired surrogate are the UTF-16 form of a text. -/
theorem exists_utf16_eq : ∀ {us : List Nat}, (∀ u ∈ us, u < 0x10000) → isPaired us = true →
    ∃ cs, utf16 cs = us
  | [], _, _ => ⟨[], rfl⟩
  | [u], hus, h => by
      rw [isPaired, Bool.and_eq_true, Bool.not_eq_true', Bool.not_eq_true'] at h
      exact ⟨_, utf16_ofNat_of_not_surrogate (hus u (List.mem_cons_self ..)) h.1 h.2⟩
  | u :: v :: rest, hus, h => by
      obtain ⟨hu, htail⟩ := List.forall_mem_cons.mp hus
      obtain ⟨hv, hrest⟩ := List.forall_mem_cons.mp htail
      rw [isPaired] at h
      cases hhigh : isHigh u with
      | true =>
          rw [hhigh, if_pos rfl, Bool.and_eq_true] at h
          obtain ⟨cs, hcs⟩ := exists_utf16_eq hrest h.2
          refine ⟨Char.ofNat (0x10000 + (u - 0xD800) * 0x400 + (v - 0xDC00)) :: cs, ?_⟩
          rw [← List.singleton_append, utf16_append, utf16_ofNat_of_pair hhigh h.1, hcs]
          rfl
      | false =>
          rw [hhigh, if_neg Bool.false_ne_true, Bool.and_eq_true, Bool.not_eq_true'] at h
          obtain ⟨cs, hcs⟩ := exists_utf16_eq htail h.2
          refine ⟨Char.ofNat u :: cs, ?_⟩
          rw [← List.singleton_append, utf16_append, utf16_ofNat_of_not_surrogate hu hhigh h.1, hcs]
          rfl

/-! ## Literals -/

def lineTerminators : List (List Char) := lineEnds ++ [['\u2028'], ['\u2029']]

/-- An item of the body of a string literal between the quotation marks `q`. -/
inductive Item (q : Quote) where
  /-- A character that is written as it is. -/
  | plain (c : Char) (hquote : c ≠ q.char) (h : c ∉ ['\\', '\n', '\r'])
  /-- The escape of a control character by a letter. -/
  | control (letter c : Char) (h : (letter, c) ∈ controls)
  /-- An escape by two hexadecimal digits. -/
  | byte (a b : HexDigit)
  /-- An escape by four hexadecimal digits. -/
  | unit (a b c d : HexDigit)
  /-- An escape by any number of hexadecimal digits in braces, up to the last code point. -/
  | braced (ds : List HexDigit) (hne : ds ≠ []) (h : HexDigit.number ds ≤ 0x10FFFF)
  /-- A backslash before a character that stands for itself; of the digits, only 8 and 9 do. -/
  | identity (c : Char) (h : c ∉ reserved) (hdigit : c.isDigit = true → c = '8' ∨ c = '9')
  /-- A backslash before a line end, which stands for nothing. -/
  | continuation (lineEnd : List Char) (h : lineEnd ∈ lineTerminators)

namespace Item

variable {q : Quote}

def written : Item q → List Char
  | plain c _ _ => [c]
  | control letter _ _ => ['\\', letter]
  | byte a b => '\\' :: 'x' :: [a, b].map HexDigit.char
  | unit a b c d => '\\' :: 'u' :: [a, b, c, d].map HexDigit.char
  | braced ds _ _ => '\\' :: 'u' :: '{' :: (ds.map HexDigit.char ++ ['}'])
  | identity c _ _ => ['\\', c]
  | continuation lineEnd _ => '\\' :: lineEnd

def units : Item q → List Nat
  | plain c _ _ => codeUnits c.toNat
  | control _ c _ => codeUnits c.toNat
  | byte a b => [HexDigit.number [a, b]]
  | unit a b c d => [HexDigit.number [a, b, c, d]]
  | braced ds _ _ => codeUnits (HexDigit.number ds)
  | identity c _ _ => codeUnits c.toNat
  | continuation _ _ => []

/-- The item is none of the two forms that the decoder misses: it does not name half of a
surrogate pair, and it does not continue the text over U+2028 or U+2029. -/
def Direct : Item q → Prop
  | unit a b c d => (HexDigit.number [a, b, c, d]).isValidChar
  | braced ds _ _ => (HexDigit.number ds).isValidChar
  | continuation lineEnd _ => lineEnd ∈ lineEnds
  | plain _ _ _ | control _ _ _ | byte _ _ | identity _ _ _ => True

instance : DecidablePred (Direct (q := q))
  | unit _ _ _ _ | braced _ _ _ => inferInstanceAs (Decidable (Nat.isValidChar _))
  | continuation _ _ => inferInstanceAs (Decidable (_ ∈ _))
  | plain _ _ _ | control _ _ _ | byte _ _ | identity _ _ _ => inferInstanceAs (Decidable True)

/-- What the decoder reads the item as. -/
def decoded : Item q → List Char
  | plain c _ _ => [c]
  | control _ c _ => [c]
  | byte a b => [Char.ofNat (HexDigit.number [a, b])]
  | unit a b c d => codePoint 'u' ([a, b, c, d].map HexDigit.char)
  | braced ds _ _ => codePoint 'u' (ds.map HexDigit.char)
  | identity c _ _ => [c]
  | continuation lineEnd _ => if lineEnd ∈ lineEnds then [] else lineEnd

end Item

/-! ## The decoder on an item -/

theorem unescape_item {q : Quote} (i : Item q) {rest : List Char}
    (hrest : rest.head? ≠ some '\n') :
    unescape (i.written ++ rest) = i.decoded ++ unescape rest := by
  cases i with
  | plain c hquote h =>
      have hc : c ≠ '\\' := fun heq => h (by simp [heq])
      exact unescape_cons_of_ne hc rest
  | control letter c h => exact unescape_control h rest
  | byte a b => exact unescape_piece (.byte a b) hrest
  | unit a b c d => exact unescape_unit a b c d rest
  | braced ds hne h =>
      show unescape ('\\' :: 'u' :: '{' :: (ds.map HexDigit.char ++ ['}'] ++ rest)) = _
      rw [List.append_assoc, List.singleton_append, unescape_braced (brace_not_mem_map_char ds)]
      rfl
  | identity c h hdigit =>
      cases hc : c.isDigit with
      | false => exact unescape_piece (.identity c h hc) hrest
      | true => rcases hdigit hc with rfl | rfl <;> rfl
  | continuation lineEnd h =>
      show unescape ('\\' :: (lineEnd ++ rest)) = _
      rcases List.mem_append.mp h with hline | hother
      · rw [unescape_continuation hline hrest, Item.decoded, if_pos hline]
        rfl
      · simp only [List.mem_cons, List.not_mem_nil, or_false] at hother
        rcases hother with rfl | rfl <;> rfl

theorem head_item_ne {q : Quote} (i : Item q) (rest : List Char) :
    (i.written ++ rest).head? ≠ some '\n' := by
  cases i with
  | plain c hquote h =>
      intro heq
      obtain rfl : c = '\n' := Option.some.inj heq
      exact h (by decide)
  | control _ _ _ | byte _ _ | unit _ _ _ _ | braced _ _ _ | identity _ _ _
  | continuation _ _ => simp [Item.written]

/-! ## What is read, and the value -/

theorem number_lt : ∀ ds : List HexDigit, HexDigit.number ds < 16 ^ ds.length
  | [] => by decide
  | d :: ds => by
      have ih := number_lt ds
      have hd := d.value.isLt
      have hmul : (d.value.val + 1) * 16 ^ ds.length ≤ 16 * 16 ^ ds.length :=
        Nat.mul_le_mul_right _ hd
      rw [Nat.add_mul, Nat.one_mul] at hmul
      rw [HexDigit.number_cons, List.length_cons, Nat.pow_succ']
      omega

/-- Digits that name half of a surrogate pair are left as they are. -/
theorem codePoint_of_not_valid (letter : Char) {ds : List HexDigit} (hne : ds ≠ [])
    (h : ¬ (HexDigit.number ds).isValidChar) :
    codePoint letter (ds.map HexDigit.char) = letter :: ds.map HexDigit.char := by
  rw [codePoint, HexDigit.hexNumber?_map_char hne, word?_bind_scalar?, scalar?, dif_neg h]

namespace Item

variable {q : Quote}

/-- An item of no missed form is read as the text with its code units. -/
theorem utf16_decoded {i : Item q} (h : i.Direct) : utf16 i.decoded = i.units := by
  cases i with
  | plain c _ _ | control _ c _ | identity c _ _ => exact List.flatMap_singleton ..
  | byte a b =>
      have hlt : HexDigit.number [a, b] < 0x10000 :=
        Nat.lt_of_lt_of_le (number_lt [a, b]) (by simp)
      rw [decoded, utf16_ofNat (number_pair_valid a b), codeUnits_of_lt hlt]
      rfl
  | unit a b c d =>
      have hlt : HexDigit.number [a, b, c, d] < 0x10000 := by
        simpa using number_lt [a, b, c, d]
      rw [decoded, codePoint_map_char 'u' (List.cons_ne_nil _ _) h, utf16_ofNat h,
        codeUnits_of_lt hlt]
      rfl
  | braced ds hne hmax =>
      rw [decoded, codePoint_map_char 'u' hne h, utf16_ofNat h]
      rfl
  | continuation lineEnd hend =>
      have hlineEnd : lineEnd ∈ lineEnds := h
      rw [decoded, if_pos hlineEnd]
      rfl

/-- An item of a missed form is read as a text with more code units than it stands for. -/
theorem length_units_lt {i : Item q} (h : ¬ i.Direct) :
    i.units.length < (utf16 i.decoded).length := by
  refine Nat.lt_of_lt_of_le ?_ (length_le_length_utf16 _)
  cases i with
  | plain _ _ _ | control _ _ _ | byte _ _ | identity _ _ _ => exact absurd trivial h
  | unit a b c d =>
      rw [decoded, codePoint_of_not_valid 'u' (List.cons_ne_nil _ _) h]
      simp [units]
  | braced ds hne hmax =>
      have hlt : HexDigit.number ds < 0x10000 := by
        have hnot : ¬ (HexDigit.number ds).isValidChar := h
        rw [Nat.isValidChar] at hnot
        omega
      have hpos : 0 < ds.length := List.length_pos_iff.mpr hne
      rw [decoded, codePoint_of_not_valid 'u' hne h, units, codeUnits_of_lt hlt]
      simpa using hpos
  | continuation lineEnd hend =>
      have hlineEnd : lineEnd ∉ lineEnds := h
      rw [decoded, if_neg hlineEnd]
      simp only [lineTerminators, List.mem_append, hlineEnd, false_or, List.mem_cons,
        List.not_mem_nil, or_false] at hend
      rcases hend with rfl | rfl <;> simp [units]

theorem lt_of_mem_units (i : Item q) : ∀ u ∈ i.units, u < 0x10000 := by
  have hchar : ∀ c : Char, c.toNat ≤ 0x10FFFF := by
    intro c
    have hc : c.toNat < 0xD800 ∨ 0xDFFF < c.toNat ∧ c.toNat < 0x110000 := c.valid
    omega
  intro u hu
  cases i with
  | plain c _ _ | control _ c _ | identity c _ _ => exact lt_of_mem_codeUnits (hchar c) u hu
  | byte a b =>
      obtain rfl := List.mem_singleton.mp hu
      exact Nat.lt_of_lt_of_le (number_lt [a, b]) (by simp)
  | unit a b c d =>
      obtain rfl := List.mem_singleton.mp hu
      simpa using number_lt [a, b, c, d]
  | braced ds _ hmax => exact lt_of_mem_codeUnits hmax u hu
  | continuation _ _ => cases hu

theorem length_units_le (i : Item q) : i.units.length ≤ (utf16 i.decoded).length := by
  by_cases h : i.Direct
  · rw [utf16_decoded h]
  · exact Nat.le_of_lt (length_units_lt h)

end Item

/-! ## Whole literals -/

/-- A string literal of the language, without octal escapes. -/
structure Spelling where
  quote : Quote
  items : List (Item quote)
  /-- No digit follows the escape of the null character: the two would be an octal escape. -/
  no_octal : items.IsChain fun left right =>
    left.written = ['\\', '0'] → ∀ c ∈ right.written.head?, c.isDigit = false

namespace Spelling

def text (l : Spelling) : String :=
  String.ofList (l.quote.char :: l.items.flatMap Item.written ++ [l.quote.char])

/-- The value of the literal when the script runs. -/
def units (l : Spelling) : List Nat := l.items.flatMap Item.units

/-- The value is the UTF-16 form of the text; a value with an unpaired surrogate denotes none. -/
def Denotes (l : Spelling) (s : String) : Prop := l.units = utf16 s.toList

def Direct (l : Spelling) : Prop := ∀ i ∈ l.items, i.Direct

instance (l : Spelling) : Decidable l.Direct :=
  inferInstanceAs (Decidable (∀ i ∈ l.items, i.Direct))

theorem value?_text (l : Spelling) :
    value? l.text = some (String.ofList (l.items.flatMap Item.decoded)) := by
  have hread : unescape (l.items.flatMap Item.written ++ [])
      = l.items.flatMap Item.decoded ++ unescape [] :=
    unescape_flatMap (fun i _ hrest => unescape_item i hrest) head_item_ne (by simp) l.items
  have hnil : unescape [] = [] := rfl
  rw [hnil, List.append_nil, List.append_nil] at hread
  rw [value?, text, String.toList_ofList, body?_quoted, Option.map_some, hread]

theorem utf16_decoded {q : Quote} : ∀ {items : List (Item q)}, (∀ i ∈ items, i.Direct) →
    utf16 (items.flatMap Item.decoded) = items.flatMap Item.units
  | [], _ => rfl
  | i :: items, h => by
      obtain ⟨hi, hitems⟩ := List.forall_mem_cons.mp h
      rw [List.flatMap_cons, utf16_append, Item.utf16_decoded hi, utf16_decoded hitems,
        List.flatMap_cons]

theorem length_units_le {q : Quote} : ∀ items : List (Item q),
    (items.flatMap Item.units).length ≤ (utf16 (items.flatMap Item.decoded)).length
  | [] => Nat.le_refl _
  | i :: items => by
      rw [List.flatMap_cons, List.flatMap_cons, utf16_append, List.length_append,
        List.length_append]
      exact Nat.add_le_add i.length_units_le (length_units_le items)

/-- One missed form makes the whole text longer: nothing makes up for it. -/
theorem direct_of_length_eq {q : Quote} : ∀ {items : List (Item q)},
    (items.flatMap Item.units).length = (utf16 (items.flatMap Item.decoded)).length →
      ∀ i ∈ items, i.Direct
  | [], _ => by simp
  | i :: items, h => by
      rw [List.flatMap_cons, List.flatMap_cons, utf16_append, List.length_append,
        List.length_append] at h
      have hle := i.length_units_le
      have hle' := length_units_le items
      refine List.forall_mem_cons.mpr ⟨?_, direct_of_length_eq (by omega)⟩
      by_contra hnot
      have hlt := Item.length_units_lt hnot
      omega

theorem exists_denotes {l : Spelling} (h : isPaired l.units = true) : ∃ s, l.Denotes s := by
  have hunits : ∀ u ∈ l.units, u < 0x10000 := by
    intro u hu
    obtain ⟨i, -, hi⟩ := List.mem_flatMap.mp hu
    exact i.lt_of_mem_units u hi
  obtain ⟨cs, hcs⟩ := exists_utf16_eq hunits h
  refine ⟨String.ofList cs, ?_⟩
  rw [Denotes, String.toList_ofList, hcs]

theorem value?_text_iff {l : Spelling} {s : String} (h : l.Denotes s) :
    value? l.text = some s ↔ l.Direct := by
  rw [value?_text, Option.some.injEq]
  constructor
  · intro hs
    refine direct_of_length_eq ?_
    have hunits : l.items.flatMap Item.units = utf16 s.toList := h
    rw [hunits, ← hs, String.toList_ofList]
  · intro hdirect
    have hunits : utf16 (l.items.flatMap Item.decoded) = utf16 s.toList :=
      (utf16_decoded hdirect).trans h
    rw [utf16_injective hunits, String.ofList_toList]

end Spelling

end Literal

theorem Checker.checkNode_congr (c : Checker) {category : Category} {node node' : Syntax.SourceNode}
    (htext : category.text? node = category.text? node') (hline : node.line = node'.line) :
    c.checkNode category node = c.checkNode category node' := by
  have hfinding : ∀ display word, c.finding? category node display word
      = c.finding? category node' display word := by
    intro display word
    simp only [finding?, hline]
  have hfindings : ∀ display, c.finding? category node display
      = c.finding? category node' display := fun display => funext (hfinding display)
  simp only [checkNode, htext, hfindings]

namespace Literal

/-- **The value decides.** Let two literals have the same value, without unpaired surrogates. It
denotes a text, and the decoder reads a literal as this text exactly if the literal names no half
of a surrogate pair by an escape of its own and is not continued over U+2028 or U+2029. So where
one of them has neither form, the two are read alike exactly if the other has neither form, and
nodes with them on one line then have the same findings. -/
theorem value?_eq_iff_direct (l l' : Spelling) (hunits : l.units = l'.units)
    (hpaired : isPaired l.units = true) :
    (∃ s, l.Denotes s ∧ (value? l.text = some s ↔ l.Direct))
      ∧ (l'.Direct → (value? l.text = value? l'.text ↔ l.Direct))
      ∧ (l.Direct → l'.Direct →
          ∀ (c : Checker) (kind kind' : String) (line column column' : Nat),
            c.checkNode .string ⟨kind, l.text, line, column⟩
              = c.checkNode .string ⟨kind', l'.text, line, column'⟩) := by
  obtain ⟨s, hs⟩ := Spelling.exists_denotes hpaired
  have hs' : l'.Denotes s := hunits.symm.trans hs
  have halike : l'.Direct → (value? l.text = value? l'.text ↔ l.Direct) := by
    intro hdirect'
    rw [(Spelling.value?_text_iff hs').mpr hdirect']
    exact Spelling.value?_text_iff hs
  refine ⟨⟨s, hs, Spelling.value?_text_iff hs⟩, halike, ?_⟩
  intro hdirect hdirect' c kind kind' line column column'
  exact c.checkNode_congr ((halike hdirect').mpr hdirect) rfl

/-- A letter by its code, and as it is before a continuation. -/
theorem value?_eq_iff_direct_letter :
    ∃ l l' : Spelling, l.text = "'\\x41'" ∧ l'.text = "\"A\\\r\"" ∧ l.units = l'.units
      ∧ isPaired l.units = true ∧ (∃ s, l.Denotes s ∧ value? l.text = some s)
      ∧ value? l.text = value? l'.text := by
  obtain ⟨⟨s, hs, hvalue⟩, halike, -⟩ := value?_eq_iff_direct
    ⟨.single, [.byte ⟨4, false⟩ ⟨1, false⟩], by decide⟩
    ⟨.double, [.plain 'A' (by decide) (by decide), .continuation ['\r'] (by decide)], by decide⟩
    (by decide) (by decide)
  exact ⟨_, _, by decide, by decide, by decide, by decide, ⟨s, hs, hvalue.mpr (by decide)⟩,
    (halike (by decide)).mpr (by decide)⟩

/-- The two missed forms: a pair of escapes for the halves of a surrogate pair, and a continuation
over U+2028. Each literal has the value of one without the form, and is read differently. -/
theorem value?_ne_of_same_units :
    (∃ l l' : Spelling, l.text = "'\\uD83D\\uDE00'" ∧ l'.text = "'😀'" ∧ l.units = l'.units
        ∧ isPaired l.units = true
        ∧ value? l.text = some "uD83DuDE00" ∧ value? l'.text = some "😀")
      ∧ ∃ l l' : Spelling, l.text = "'a\\\u2028b'" ∧ l'.text = "'ab'" ∧ l.units = l'.units
        ∧ isPaired l.units = true
        ∧ value? l.text = some "a\u2028b" ∧ value? l'.text = some "ab" := by
  constructor
  · refine ⟨⟨.single, [.unit ⟨13, true⟩ ⟨8, false⟩ ⟨3, false⟩ ⟨13, true⟩,
      .unit ⟨13, true⟩ ⟨14, true⟩ ⟨0, false⟩ ⟨0, false⟩], by decide⟩,
      ⟨.single, [.plain '😀' (by decide) (by decide)], by decide⟩, ?_⟩
    decide
  · refine ⟨⟨.single, [.plain 'a' (by decide) (by decide), .continuation ['\u2028'] (by decide),
      .plain 'b' (by decide) (by decide)], by decide⟩,
      ⟨.single, [.plain 'a' (by decide) (by decide), .plain 'b' (by decide) (by decide)],
        by decide⟩, ?_⟩
    decide

end Literal

end ScriptSpelling
