import ScriptSpelling.Proofs.RuntimeValue

/-!
# Numeric escapes, well-formed or not

An escape that names a character by its code is read by a decoder that checks little: it takes the
digits that are there, up to a brace or to the number it wants, and asks whether they are a number
of 32 bits and whether that number is the code of a character. If so it writes the character, and
otherwise the letter of the escape and the digits as they are.

For an escape in braces with digits only, this does what it should, however many digits there are:
no number that does not fit is taken for another one that does (`unescape_braced_number`). For an
escape that is malformed it should always keep the text, and does not: too few digits are a number
all the same, and so are digits after a plus sign. `unescape_malformed` says exactly which malformed
escapes are kept, and what the others are read as.

Both statements put the escape after any text in which no escape is open. Such a text is made of
symbols (`Symbol`); what comes after it is read as if it stood alone (`unescape_symbols_append`).
-/

namespace ScriptSpelling.Literal

/-! ## Texts without an open escape -/

/-- A character that is written as it is, or a complete escape. Unlike a piece, a symbol may be a
quotation mark or a line end, and its number need not name a character. A backslash before a line
end is a short escape as well; after CR, an LF may still be read as part of it. -/
inductive Symbol where
  | plain (c : Char) (h : c ≠ '\\')
  | short (c : Char) (h : c ∉ ['x', 'u'])
  | byte (a b : HexDigit)
  | unit (a b c d : HexDigit)
  | braced (ds : List HexDigit) (h : ds ≠ [])

def Symbol.written : Symbol → List Char
  | plain c _ => [c]
  | short c _ => ['\\', c]
  | byte a b => '\\' :: 'x' :: [a, b].map HexDigit.char
  | unit a b c d => '\\' :: 'u' :: [a, b, c, d].map HexDigit.char
  | braced ds _ => '\\' :: 'u' :: '{' :: (ds.map HexDigit.char ++ ['}'])

namespace Reading

/-- No escape is open, except that an LF may still belong to the line end before it. -/
def Idle (r : Reading) : Prop := r = plain ∨ r = afterReturn

theorem run_backslash {r : Reading} (h : r.Idle) (cs : List Char) :
    r.run ('\\' :: cs) = unescape ('\\' :: cs) := by
  rcases h with rfl | rfl <;> rfl

theorem idle_step {r : Reading} (h : r.Idle) {c : Char} (hc : c ≠ '\\') : (r.step c).2.Idle := by
  have hbegin : (begin c).2 = plain := by rw [begin, if_neg hc]
  rcases h with rfl | rfl
  · exact .inl hbegin
  · rw [step]
    split
    · exact .inl rfl
    · exact .inl hbegin

theorem idle_escape {c : Char} (h : c ∉ ['x', 'u']) : (escape c).2.Idle := by
  unfold escape
  split <;> first | exact .inl rfl | exact .inr rfl | exact absurd (by decide) h

/-- A symbol is read to its end, and no escape is open then. -/
theorem run_symbol {r : Reading} (h : r.Idle) (s : Symbol) :
    ∃ out r', Idle r' ∧ ∀ rest, r.run (s.written ++ rest) = out ++ r'.run rest := by
  cases s with
  | plain c hc => exact ⟨_, _, idle_step h hc, fun rest => run_cons r c rest⟩
  | short c hc =>
      refine ⟨(escape c).1, (escape c).2, idle_escape hc, fun rest => ?_⟩
      show r.run ('\\' :: c :: rest) = _
      rw [run_backslash h, unescape_cons_backslash, run_cons, step]
  | byte a b =>
      refine ⟨codePoint 'x' ([a, b].map HexDigit.char), plain, .inl rfl, fun rest => ?_⟩
      show r.run ('\\' :: 'x' :: ([a, b].map HexDigit.char ++ rest)) = _
      rw [run_backslash h, unescape_cons_backslash, run_cons]
      exact run_digits 'x' rest [a, b] [] (List.cons_ne_nil _ _)
  | unit a b c d =>
      refine ⟨codePoint 'u' ([a, b, c, d].map HexDigit.char), plain, .inl rfl, fun rest => ?_⟩
      show r.run ('\\' :: 'u' :: ([a, b, c, d].map HexDigit.char ++ rest)) = _
      rw [run_backslash h, unescape_unit]
      rfl
  | braced ds hne =>
      refine ⟨codePoint 'u' (ds.map HexDigit.char), plain, .inl rfl, fun rest => ?_⟩
      show r.run ('\\' :: 'u' :: '{' :: (ds.map HexDigit.char ++ ['}'] ++ rest)) = _
      rw [run_backslash h, List.append_assoc, List.singleton_append,
        unescape_braced (brace_not_mem_map_char ds)]
      rfl

theorem run_symbols (rest : List Char) : ∀ (symbols : List Symbol) {r : Reading}, r.Idle →
    r.run (symbols.flatMap Symbol.written ++ '\\' :: rest)
      = r.run (symbols.flatMap Symbol.written) ++ unescape ('\\' :: rest)
  | [], r, h => by
      have hfinish : r.run [] = [] := by rcases h with rfl | rfl <;> rfl
      rw [List.flatMap_nil, List.nil_append, run_backslash h, hfinish, List.nil_append]
  | s :: symbols, r, h => by
      obtain ⟨out, r', hr', hread⟩ := run_symbol h s
      rw [List.flatMap_cons, List.append_assoc, hread, hread, run_symbols rest symbols hr',
        List.append_assoc]

end Reading

open Reading

/-- An escape after complete symbols is read as if it stood alone. -/
theorem unescape_symbols_append (symbols : List Symbol) (rest : List Char) :
    unescape (symbols.flatMap Symbol.written ++ '\\' :: rest)
      = unescape (symbols.flatMap Symbol.written) ++ unescape ('\\' :: rest) :=
  run_symbols rest symbols (.inl rfl)

/-! ## Texts that write a number -/

theorem hexDigit?_eq_none {c : Char} (h : 0x67 ≤ c.toNat) : hexDigit? c = none := by
  unfold hexDigit?
  dsimp only
  rw [if_neg (by omega), if_neg (by omega), if_neg (by omega)]

theorem HexDigit.exists_char_eq {c : Char} (h : hexDigit? c ≠ none) :
    ∃ d : HexDigit, d.char = c := by
  have hall : ∀ n < 0x67, hexDigit? (Char.ofNat n) ≠ none →
      ∃ v : Fin 16, ∃ b : Bool, HexDigit.char ⟨v, b⟩ = Char.ofNat n := by decide
  have hlt : c.toNat < 0x67 := by
    by_contra hge
    exact h (hexDigit?_eq_none (by omega))
  obtain ⟨v, b, hc⟩ := hall c.toNat hlt (by rwa [Char.ofNat_toNat])
  exact ⟨⟨v, b⟩, by rwa [Char.ofNat_toNat] at hc⟩

theorem exists_of_hexFrom? : ∀ {cs : List Char} {acc n : Nat}, hexFrom? acc cs = some n →
    ∃ ds : List HexDigit, cs = ds.map HexDigit.char
  | [], _, _, _ => ⟨[], rfl⟩
  | c :: cs, acc, n, h => by
      rw [hexFrom?] at h
      split at h
      · rename_i v hv
        obtain ⟨ds, rfl⟩ := exists_of_hexFrom? h
        obtain ⟨d, rfl⟩ : ∃ d : HexDigit, d.char = c :=
          HexDigit.exists_char_eq (hv ▸ Option.some_ne_none v)
        exact ⟨d :: ds, rfl⟩
      · cases h

theorem exists_of_hexWordFrom? {cs : List Char} {w : UInt32} (h : hexWordFrom? 0 cs = some w) :
    ∃ ds, cs = ds.map HexDigit.char ∧ HexDigit.number ds = w.toNat := by
  rw [hexWordFrom?_eq] at h
  obtain ⟨n, hn, hw⟩ := Option.bind_eq_some_iff.mp h
  obtain ⟨ds, rfl⟩ := exists_of_hexFrom? hn
  rw [HexDigit.hexFrom?_map_char, UInt32.toNat_zero, Nat.zero_mul, Nat.zero_add] at hn
  obtain rfl := Option.some.inj hn
  refine ⟨ds, rfl, ?_⟩
  rw [word?] at hw
  split at hw
  · rename_i hfits
    obtain rfl := Option.some.inj hw
    exact (UInt32.toNat_ofNat_of_lt' hfits).symm
  · cases hw

/-- The text writes the code of the character: in hexadecimal digits, perhaps after a plus sign. -/
def Writes (cs : List Char) (c : Char) : Prop :=
  ∃ ds : List HexDigit, ds ≠ [] ∧ c.toNat = HexDigit.number ds
    ∧ (cs = ds.map HexDigit.char ∨ cs = '+' :: ds.map HexDigit.char)

theorem exists_of_hexNumber? {cs : List Char} {w : UInt32} (h : hexNumber? cs = some w) :
    ∃ ds : List HexDigit, ds ≠ [] ∧ HexDigit.number ds = w.toNat
      ∧ (cs = ds.map HexDigit.char ∨ cs = '+' :: ds.map HexDigit.char) := by
  rw [hexNumber?.eq_def] at h
  split at h
  · cases h
  · cases h
  · rename_i digits hdigits
    obtain ⟨ds, rfl, hnumber⟩ := exists_of_hexWordFrom? h
    exact ⟨ds, by rintro rfl; exact hdigits rfl, hnumber, .inr rfl⟩
  · rename_i hempty hsign hplus
    obtain ⟨ds, rfl, hnumber⟩ := exists_of_hexWordFrom? h
    exact ⟨ds, by rintro rfl; exact hempty rfl, hnumber, .inl rfl⟩

theorem hexNumber?_plus {cs : List Char} (h : cs ≠ []) :
    hexNumber? ('+' :: cs) = hexWordFrom? 0 cs := by
  obtain ⟨c, more, rfl⟩ := List.exists_cons_of_ne_nil h
  rfl

theorem hexNumber?_of_writes {cs : List Char} {c : Char} (h : Writes cs c) :
    hexNumber? cs = word? c.toNat := by
  obtain ⟨ds, hne, hnumber, rfl | rfl⟩ := h
  · rw [hnumber, HexDigit.hexNumber?_map_char hne]
  · rw [hnumber, hexNumber?_plus (by simpa using hne), HexDigit.hexWordFrom?_map_char]

theorem scalar?_eq_some_iff {n : Nat} {c : Char} : scalar? n = some c ↔ c.toNat = n := by
  constructor
  · intro h
    by_cases hvalid : n.isValidChar
    · rw [scalar?, dif_pos hvalid] at h
      obtain rfl := Option.some.inj h
      rfl
    · rw [scalar?, dif_neg hvalid] at h
      cases h
  · rintro rfl
    exact (scalar?_of_valid c.valid).trans (congrArg some (Char.ofNat_toNat c))

theorem codePoint_of_writes {letter : Char} {cs : List Char} {c : Char} (h : Writes cs c) :
    codePoint letter cs = [c] := by
  rw [codePoint, hexNumber?_of_writes h, word?_bind_scalar?, scalar?_eq_some_iff.mpr rfl]

theorem codePoint_of_not_writes {letter : Char} {cs : List Char} (h : ∀ c, ¬ Writes cs c) :
    codePoint letter cs = letter :: cs := by
  rw [codePoint]
  split
  · rename_i c hc
    obtain ⟨w, hw, hscalar⟩ := Option.bind_eq_some_iff.mp hc
    obtain ⟨ds, hne, hnumber, htext⟩ := exists_of_hexNumber? hw
    have hcode := (scalar?_eq_some_iff.mp hscalar).trans hnumber.symm
    exact absurd ⟨ds, hne, hcode, htext⟩ (h c)
  · rfl

theorem Writes.ne_nil {cs : List Char} {c : Char} (h : Writes cs c) : cs ≠ [] := by
  obtain ⟨ds, hne, -, rfl | rfl⟩ := h
  · simpa using hne
  · exact List.cons_ne_nil _ _

theorem codePoint_eq_singleton_iff {letter c : Char} {cs : List Char} (hne : cs ≠ []) :
    codePoint letter cs = [c] ↔ Writes cs c := by
  constructor
  · intro h
    by_cases hwrites : ∃ d, Writes cs d
    · obtain ⟨d, hd⟩ := hwrites
      rw [codePoint_of_writes hd] at h
      exact List.singleton_inj.mp h ▸ hd
    · rw [codePoint_of_not_writes (not_exists.mp hwrites)] at h
      exact absurd (List.cons.inj h).2 hne
  · exact codePoint_of_writes

theorem codePoint_eq_kept_iff {letter : Char} {cs : List Char} :
    codePoint letter cs = letter :: cs ↔ ∀ c, ¬ Writes cs c := by
  constructor
  · intro h c hc
    rw [codePoint_of_writes hc] at h
    exact hc.ne_nil (List.cons.inj h).2.symm
  · exact codePoint_of_not_writes

theorem exists_toNat_eq_iff {n : Nat} :
    (∃ c : Char, c.toNat = n) ↔ n ≤ 0x10FFFF ∧ ¬ (0xD800 ≤ n ∧ n ≤ 0xDFFF) := by
  constructor
  · rintro ⟨c, rfl⟩
    have hvalid : c.toNat < 0xD800 ∨ 0xDFFF < c.toNat ∧ c.toNat < 0x110000 := c.valid
    omega
  · intro h
    have hvalid : n.isValidChar := by
      rw [Nat.isValidChar]
      omega
    exact ⟨Char.ofNat n, scalar?_eq_some_iff.mp (scalar?_of_valid hvalid)⟩

/-! ## Digits in braces -/

theorem map_char_ne_plus (ds : List HexDigit) (cs : List Char) :
    ds.map HexDigit.char ≠ '+' :: cs := by
  intro h
  cases ds with
  | nil => cases h
  | cons d ds => exact d.char_ne (by decide) (List.cons.inj h).1

theorem number_eq_of_map_char_eq {ds es : List HexDigit}
    (h : ds.map HexDigit.char = es.map HexDigit.char) :
    HexDigit.number ds = HexDigit.number es := by
  have hread := HexDigit.hexFrom?_map_char ds 0
  rw [h, HexDigit.hexFrom?_map_char] at hread
  simpa using hread.symm

theorem writes_map_char_iff {ds : List HexDigit} (hne : ds ≠ []) {c : Char} :
    Writes (ds.map HexDigit.char) c ↔ c.toNat = HexDigit.number ds := by
  constructor
  · rintro ⟨es, -, hnumber, htext | htext⟩
    · rw [hnumber, number_eq_of_map_char_eq htext]
    · exact absurd htext (map_char_ne_plus ds _)
  · intro hnumber
    exact ⟨ds, hne, hnumber, .inl rfl⟩

/-- **Digits in braces.** After complete symbols, take an escape with any number of digits in
braces. It is read as a character exactly if this character has the number as its code, and what
comes before and after is read as if it stood alone. There is such a character unless the number is
above the last code point or half of a surrogate pair; if there is none, the letter and the digits
are kept. -/
theorem unescape_braced_number (before : List Symbol) (ds : List HexDigit) (hne : ds ≠ [])
    (after : List Char) :
    (∀ c : Char, unescape (before.flatMap Symbol.written
          ++ '\\' :: 'u' :: '{' :: (ds.map HexDigit.char ++ '}' :: after))
        = unescape (before.flatMap Symbol.written) ++ [c] ++ unescape after
        ↔ c.toNat = HexDigit.number ds)
      ∧ ((∃ c : Char, c.toNat = HexDigit.number ds)
          ↔ HexDigit.number ds ≤ 0x10FFFF
            ∧ ¬ (0xD800 ≤ HexDigit.number ds ∧ HexDigit.number ds ≤ 0xDFFF))
      ∧ ((¬ ∃ c : Char, c.toNat = HexDigit.number ds) →
          unescape (before.flatMap Symbol.written
            ++ '\\' :: 'u' :: '{' :: (ds.map HexDigit.char ++ '}' :: after))
          = unescape (before.flatMap Symbol.written) ++ 'u' :: ds.map HexDigit.char
            ++ unescape after) := by
  have hread : unescape (before.flatMap Symbol.written
        ++ '\\' :: 'u' :: '{' :: (ds.map HexDigit.char ++ '}' :: after))
      = unescape (before.flatMap Symbol.written) ++ codePoint 'u' (ds.map HexDigit.char)
        ++ unescape after := by
    rw [unescape_symbols_append, unescape_braced (brace_not_mem_map_char ds), List.append_assoc]
  refine ⟨fun c => ?_, exists_toNat_eq_iff, fun hnone => ?_⟩
  · rw [hread, List.append_cancel_right_eq, List.append_cancel_left_eq,
      codePoint_eq_singleton_iff (by simpa using hne), writes_map_char_iff hne]
  · have hkept : codePoint 'u' (ds.map HexDigit.char) = 'u' :: ds.map HexDigit.char :=
      codePoint_eq_kept_iff.mpr fun c hc => hnone ⟨c, (writes_map_char_iff hne).mp hc⟩
    rw [hread, hkept]

def HexDigit.smalls (values : List (Fin 16)) : List HexDigit := values.map (HexDigit.mk · false)

/-- A number that differs from the code of a letter by the bound of 32 bits is not taken for this
letter, and zeros in front of the code do not matter. -/
theorem unescape_braced_number_bound :
    (HexDigit.smalls [1, 0, 0, 0, 0, 0, 0, 4, 1] ≠ []
        ∧ HexDigit.number (HexDigit.smalls [1, 0, 0, 0, 0, 0, 0, 4, 1]) = 2 ^ 32 + 'A'.toNat
        ∧ unescape ([Symbol.short '\r' (by decide)].flatMap Symbol.written
            ++ '\\' :: 'u' :: '{'
              :: ((HexDigit.smalls [1, 0, 0, 0, 0, 0, 0, 4, 1]).map HexDigit.char
                ++ '}' :: "\nB".toList)) = "u100000041\nB".toList)
      ∧ HexDigit.smalls [0, 0, 0, 0, 0, 0, 0, 4, 1] ≠ []
      ∧ unescape ([Symbol.short '\r' (by decide)].flatMap Symbol.written
          ++ '\\' :: 'u' :: '{' :: ((HexDigit.smalls [0, 0, 0, 0, 0, 0, 0, 4, 1]).map HexDigit.char
            ++ '}' :: "\nB".toList)) = "A\nB".toList := by
  have hover := unescape_braced_number [.short '\r' (by decide)]
    (HexDigit.smalls [1, 0, 0, 0, 0, 0, 0, 4, 1]) (by decide) "\nB".toList
  have hzeros := unescape_braced_number [.short '\r' (by decide)]
    (HexDigit.smalls [0, 0, 0, 0, 0, 0, 0, 4, 1]) (by decide) "\nB".toList
  have hnone : ¬ ∃ c : Char,
      c.toNat = HexDigit.number (HexDigit.smalls [1, 0, 0, 0, 0, 0, 0, 4, 1]) :=
    fun h => absurd (hover.2.1.mp h) (by decide)
  exact ⟨⟨by decide, by decide, (hover.2.2 hnone).trans (by decide)⟩, by decide,
    ((hzeros.1 'A').mpr (by decide)).trans (by decide)⟩

/-! ## Malformed escapes -/

/-- A numeric escape that the language does not allow: it has too few digits, or braces with
nothing between them or with something else than digits. -/
inductive Malformed where
  | byte (ds : List HexDigit) (h : ds.length < 2)
  | unit (ds : List HexDigit) (h : ds.length < 4)
  | braced (cs : List Char) (hclose : '}' ∉ cs) (h : cs = [] ∨ ∃ c ∈ cs, ∀ d : HexDigit, d.char ≠ c)

namespace Malformed

def letter : Malformed → Char
  | byte _ _ => 'x'
  | unit _ _ | braced _ _ _ => 'u'

/-- What should be kept besides the letter. -/
def text : Malformed → List Char
  | byte ds _ | unit ds _ => ds.map HexDigit.char
  | braced cs _ _ => cs

def written : Malformed → List Char
  | byte ds _ => '\\' :: 'x' :: ds.map HexDigit.char
  | unit ds _ => '\\' :: 'u' :: ds.map HexDigit.char
  | braced cs _ _ => '\\' :: 'u' :: '{' :: (cs ++ ['}'])

/-- The escape ends where the text goes on: without its braces, there are no more digits and no
brace opens. -/
def EndsBefore : Malformed → List Char → Prop
  | byte _ _, rest => ∀ d : HexDigit, rest.head? ≠ some d.char
  | unit ds _, rest =>
    (∀ d : HexDigit, rest.head? ≠ some d.char) ∧ (ds = [] → rest.head? ≠ some '{')
  | braced _ _ _, _ => True

/-- The malformed escapes that are recognized: those without a digit where digits are wanted, and
those in braces unless a plus sign and the code of a character stand there. -/
def Recognized : Malformed → Prop
  | byte ds _ | unit ds _ => ds = []
  | braced cs _ _ =>
      ∀ ds, ds ≠ [] → (HexDigit.number ds).isValidChar → cs ≠ '+' :: ds.map HexDigit.char

end Malformed

namespace Reading

/-- A numeric escape that may take more digits is over before a character that is none. -/
theorem run_short_digits (letter : Char) {rest : List Char}
    (hrest : ∀ d : HexDigit, rest.head? ≠ some d.char) :
    ∀ (ds : List HexDigit) (left : Nat) (seen : List Char), ds.length < left →
      run (digits letter left seen) (ds.map HexDigit.char ++ rest)
        = codePoint letter (seen.reverse ++ ds.map HexDigit.char) ++ unescape rest
  | [], left, seen, _ => by
      rw [List.map_nil, List.nil_append, List.append_nil]
      cases rest with
      | nil => exact (List.append_nil _).symm
      | cons c rest =>
          have hdigit : hexDigit? c = none := by
            by_contra hne
            obtain ⟨d, rfl⟩ := HexDigit.exists_char_eq hne
            exact hrest d rfl
          have hstep : step (digits letter left seen) c
              = (codePoint letter seen.reverse ++ (begin c).1, (begin c).2) := by
            rw [step, digit, hdigit]
            rfl
          rw [run_cons, hstep, unescape, run_cons, step, List.append_assoc]
  | d :: ds, left, seen, hlen => by
      rw [List.length_cons] at hlen
      have ih := run_short_digits letter hrest ds (left - 1) (d.char :: seen) (by omega)
      have hstep : step (digits letter left seen) d.char
          = ([], digits letter (left - 1) (d.char :: seen)) := by
        rw [step, digit, HexDigit.hexDigit?_char, if_pos Option.isSome_some, if_neg (by omega)]
      rw [List.map_cons, List.cons_append, run_cons, hstep, ih]
      simp

end Reading

namespace Malformed

/-- The decoder makes no difference between malformed escapes and others. -/
theorem unescape_append (before : List Symbol) (m : Malformed) {rest : List Char}
    (h : m.EndsBefore rest) :
    unescape (before.flatMap Symbol.written ++ (m.written ++ rest))
      = unescape (before.flatMap Symbol.written)
        ++ (codePoint m.letter m.text ++ unescape rest) := by
  cases m with
  | byte ds hlen =>
      have hread := run_short_digits 'x' h ds 2 [] hlen
      show unescape (_ ++ '\\' :: 'x' :: (ds.map HexDigit.char ++ rest)) = _
      rw [unescape_symbols_append, unescape_cons_backslash, run_cons]
      exact congrArg _ hread
  | unit ds hlen =>
      have hread := run_short_digits 'u' h.1 ds 4 [] hlen
      show unescape (_ ++ '\\' :: 'u' :: (ds.map HexDigit.char ++ rest)) = _
      rw [← run_unicode (head?_map_char_ne ds h.2)] at hread
      rw [unescape_symbols_append, unescape_cons_backslash, run_cons]
      exact congrArg _ hread
  | braced cs hclose hcs =>
      show unescape (_ ++ '\\' :: 'u' :: '{' :: (cs ++ ['}'] ++ rest)) = _
      rw [unescape_symbols_append, List.append_assoc, List.singleton_append, unescape_braced hclose]
      rfl

theorem exists_writes_map_char {ds : List HexDigit} (hne : ds ≠ []) (hlen : ds.length < 4) :
    ∃ c, Writes (ds.map HexDigit.char) c := by
  -- Three digits stay below the surrogates, so there is a character with this code.
  have hnumber : HexDigit.number ds < 16 ^ 3 :=
    Nat.lt_of_lt_of_le (number_lt ds) (Nat.pow_le_pow_right (by omega) (by omega))
  obtain ⟨c, hc⟩ := exists_toNat_eq_iff.mpr
    (⟨by omega, by omega⟩ : HexDigit.number ds ≤ 0x10FFFF
      ∧ ¬ (0xD800 ≤ HexDigit.number ds ∧ HexDigit.number ds ≤ 0xDFFF))
  exact ⟨c, (writes_map_char_iff hne).mpr hc⟩

theorem eq_nil_iff_not_writes {ds : List HexDigit} (hlen : ds.length < 4) :
    ds = [] ↔ ∀ c, ¬ Writes (ds.map HexDigit.char) c := by
  constructor
  · rintro rfl c hc
    exact hc.ne_nil rfl
  · intro h
    by_contra hne
    obtain ⟨c, hc⟩ := exists_writes_map_char hne hlen
    exact h c hc

theorem recognized_iff (m : Malformed) : m.Recognized ↔ ∀ c, ¬ Writes m.text c := by
  cases m with
  | byte ds hlen => exact eq_nil_iff_not_writes (by omega)
  | unit ds hlen => exact eq_nil_iff_not_writes hlen
  | braced cs hclose hcs =>
      constructor
      · rintro h c ⟨ds, hne, hnumber, rfl | rfl⟩
        -- Digits alone are not malformed, so the number has a plus sign before it.
        · rcases hcs with hnil | ⟨c, hmem, hother⟩
          · exact hne (List.map_eq_nil_iff.mp hnil)
          · obtain ⟨d, -, hd⟩ := List.mem_map.mp hmem
            exact hother d hd
        · exact h ds hne (hnumber ▸ c.valid) rfl
      · rintro h ds hne hvalid rfl
        exact h _ ⟨ds, hne, scalar?_eq_some_iff.mp (scalar?_of_valid hvalid), .inr rfl⟩

end Malformed

/-- **Malformed escapes.** After complete symbols, take a malformed escape that ends where the text
goes on. It keeps its letter and its text exactly if it is one of those that are recognized; any
other is read as the character whose code its digits write. Either way, what comes before and after
is read as if it stood alone. -/
theorem unescape_malformed (before : List Symbol) (m : Malformed) (after : List Char)
    (hends : m.EndsBefore after) :
    (unescape (before.flatMap Symbol.written ++ (m.written ++ after))
        = unescape (before.flatMap Symbol.written) ++ (m.letter :: m.text ++ unescape after)
        ↔ m.Recognized)
      ∧ (¬ m.Recognized → ∃ c, Writes m.text c
          ∧ unescape (before.flatMap Symbol.written ++ (m.written ++ after))
            = unescape (before.flatMap Symbol.written) ++ ([c] ++ unescape after)) := by
  rw [m.unescape_append before hends, List.append_cancel_left_eq, List.append_cancel_right_eq,
    codePoint_eq_kept_iff, m.recognized_iff]
  refine ⟨Iff.rfl, fun hnot => ?_⟩
  obtain ⟨c, hc⟩ := not_forall_not.mp hnot
  exact ⟨c, hc, by rw [codePoint_of_writes hc]⟩

def shortByte : Malformed := .byte (HexDigit.smalls [4]) (by decide)

def shortUnit : Malformed := .unit (HexDigit.smalls [4, 1]) (by decide)

def signed (sign : Char) (h : hexDigit? sign = none) (hne : '}' ≠ sign) : Malformed :=
  .braced [sign, '4', '1'] (by simp [hne]) (.inr ⟨sign, by simp, fun d => d.char_ne h⟩)

/-- Two digits of four before a letter that is no digit are read as a character; digits after a
minus sign in braces are kept. -/
theorem unescape_malformed_before_letter :
    (shortUnit.EndsBefore ['g']
        ∧ unescape ([Symbol.short 'n' (by decide)].flatMap Symbol.written
          ++ (shortUnit.written ++ ['g'])) = "\nAg".toList)
      ∧ unescape ([Symbol.short 'n' (by decide)].flatMap Symbol.written
          ++ ((signed '-' (by decide) (by decide)).written ++ ['g'])) = "\nu-41g".toList := by
  have hends : shortUnit.EndsBefore ['g'] :=
    ⟨fun d heq => d.char_ne (by decide) (Option.some.inj heq).symm, nofun⟩
  obtain ⟨c, hc, hread⟩ :=
    (unescape_malformed [.short 'n' (by decide)] shortUnit ['g'] hends).2 nofun
  obtain rfl : c = 'A' :=
    Char.toNat_inj.mp (((writes_map_char_iff (by decide)).mp hc).trans (by decide))
  have hsign := (unescape_malformed [.short 'n' (by decide)] (signed '-' (by decide) (by decide))
    ['g'] trivial).1.mpr fun _ _ _ heq => absurd (List.cons.inj heq).1 (by decide)
  exact ⟨⟨hends, hread.trans (by decide)⟩, hsign.trans (by decide)⟩

/-- At the end of a text, one digit of two, two digits of four, and digits after a plus sign in
braces are not kept. -/
theorem unescape_malformed_ne_kept :
    (shortByte.EndsBefore [] ∧ unescape (shortByte.written ++ []) = ['\x04']
        ∧ shortByte.letter :: shortByte.text = ['x', '4'])
      ∧ (shortUnit.EndsBefore [] ∧ unescape (shortUnit.written ++ []) = ['A']
        ∧ shortUnit.letter :: shortUnit.text = ['u', '4', '1'])
      ∧ unescape ((signed '+' (by decide) (by decide)).written ++ []) = ['A']
      ∧ (signed '+' (by decide) (by decide)).letter :: (signed '+' (by decide) (by decide)).text
        = ['u', '+', '4', '1'] :=
  ⟨⟨fun _ => nofun, by decide, by decide⟩, ⟨⟨fun _ => nofun, nofun⟩, by decide, by decide⟩,
    by decide, by decide⟩

end ScriptSpelling.Literal
