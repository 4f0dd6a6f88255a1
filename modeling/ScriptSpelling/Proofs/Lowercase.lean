import Mathlib.Data.List.Basic
import ScriptSpelling.Proofs.Lines
import ScriptSpelling.Proofs.Words

/-!
# Lowercase is reached in one step

The lowercase form of a text is its own lowercase form (`lowerChars_lowerChars`), and of a text
without white space at its ends it has none either (`Trimmed.lowerChars`). Both are read off the
characters that come out of the mapping: each is its own lowercase form, and white space only if it
was mapped to itself (`mem_lowerChar`). A capital sigma is looked at with what stands around it, but
it is the only such character, and it does not come out of the mapping; so a second pass finds
nothing to look at.

That a character that comes out is not mapped on is a fact about the table of the mapping: no run of
it holds an image of another or of its own. Runs are compared by their ends first, and point by
point only where they overlap (`CodeShift.misses`).
-/

namespace ScriptSpelling.Text

/-! ## The table -/

/-- No image of the shift `s` is a code point that `t` moves. -/
def CodeShift.misses (s t : CodeShift) : Bool :=
  Nat.blt (s.target + (s.run.last - s.run.first)) t.run.first || Nat.blt t.run.last s.target
    || (List.range (s.run.last - s.run.first + 1)).all fun i =>
      i % s.run.step != 0 || !t.run.contains (s.target + i)

theorem CodeShift.image?_eq_some_iff {s : CodeShift} {n m : Nat} :
    s.image? n = some m ↔ s.run.contains n = true ∧ s.target + (n - s.run.first) = m := by
  rw [CodeShift.image?]
  split <;> simp [*]

theorem CodeRun.contains_iff {r : CodeRun} {n : Nat} :
    r.contains n = true ↔ r.first ≤ n ∧ n ≤ r.last ∧ (n - r.first) % r.step = 0 := by
  simp [CodeRun.contains, and_assoc]

theorem CodeShift.image?_eq_none_of_misses {s t : CodeShift} (h : s.misses t = true) {n m : Nat}
    (himage : s.image? n = some m) : t.image? m = none := by
  obtain ⟨hrun, rfl⟩ := CodeShift.image?_eq_some_iff.mp himage
  obtain ⟨hfirst, hlast, hstep⟩ := CodeRun.contains_iff.mp hrun
  have hnot : t.run.contains (s.target + (n - s.run.first)) = false := by
    simp only [CodeShift.misses, Bool.or_eq_true, Nat.blt_eq, List.all_eq_true] at h
    rcases h with (hbelow | habove) | hpoints
    · rw [← Bool.not_eq_true, CodeRun.contains_iff]
      omega
    · rw [← Bool.not_eq_true, CodeRun.contains_iff]
      omega
    · have hpoint := hpoints (n - s.run.first) (List.mem_range.mpr (by omega))
      simpa [hstep] using hpoint
  rw [CodeShift.image?, hnot]
  rfl

theorem misses_toLower : (CaseData.toLower.all fun s => CaseData.toLower.all s.misses) = true := by
  decide +kernel

/-- What a shift of the table leads to is a character, no capital of ASCII and no white space. -/
theorem images_toLower : ∀ s ∈ CaseData.toLower, ∀ i ∈ List.range (s.run.last - s.run.first + 1),
    (s.target + i).isValidChar ∧ (s.target + i < 0x41 ∨ 0x5A < s.target + i)
      ∧ s.target + i ≠ 0x130 ∧ isBlank (Char.ofNat (s.target + i)) = false := by
  decide +kernel

theorem shift?_image {n m : Nat} (h : shift? CaseData.toLower n = some m) :
    shift? CaseData.toLower m = none := by
  obtain ⟨s, hs, himage⟩ := List.exists_of_findSome?_eq_some h
  rw [shift?, List.findSome?_eq_none_iff]
  intro t ht
  have hmisses := List.all_eq_true.mp (List.all_eq_true.mp misses_toLower s hs) t ht
  exact CodeShift.image?_eq_none_of_misses hmisses himage

/-! ## Characters that come out -/

/-- A character of the table's images is its own lowercase form, and not white space. -/
theorem lowerChar_of_shift {n m : Nat} (h : shift? CaseData.toLower n = some m) :
    lowerChar (Char.ofNat m) = [Char.ofNat m] ∧ isBlank (Char.ofNat m) = false := by
  obtain ⟨s, hs, himage⟩ := List.exists_of_findSome?_eq_some h
  obtain ⟨hrun, hm⟩ := CodeShift.image?_eq_some_iff.mp himage
  obtain ⟨hfirst, hlast, -⟩ := CodeRun.contains_iff.mp hrun
  have himages := images_toLower s hs (n - s.run.first) (List.mem_range.mpr (by omega))
  rw [hm] at himages
  obtain ⟨hvalid, hcapital, hdotted, hblank⟩ := himages
  refine ⟨?_, hblank⟩
  have hcode : (Char.ofNat m).toNat = m := by
    rw [Char.ofNat, dif_pos hvalid]
    rfl
  have hascii : ¬ (0x41 ≤ m ∧ m ≤ 0x5A) := by omega
  simp [lowerChar, hcode, hascii, hdotted, shift?_image h]

theorem lowerChar_of_ascii : ∀ n < 0x80, ((lowerChar (Char.ofNat n)).all fun d =>
    lowerChar d = [d] ∧ (d = Char.ofNat n ∨ isBlank d = false)) = true := by
  decide +kernel

/-- What comes out of the mapping is its own lowercase form, and white space only if it was so. -/
theorem mem_lowerChar {c d : Char} (h : d ∈ lowerChar c) :
    lowerChar d = [d] ∧ (d = c ∨ isBlank d = false) := by
  by_cases hascii : c.toNat < 0x80
  · rw [← Char.ofNat_toNat c] at h ⊢
    exact of_decide_eq_true (List.all_eq_true.mp (lowerChar_of_ascii c.toNat hascii) d h)
  by_cases hdotted : c.toNat = 0x130
  · have hlower : lowerChar c = ['i', '\u0307'] := by simp [lowerChar, hdotted]
    have hboth : ∀ d ∈ ['i', '\u0307'], lowerChar d = [d] ∧ isBlank d = false := by
      rw [List.forall_mem_cons, List.forall_mem_singleton]
      decide +kernel
    exact (hboth d (hlower ▸ h)).imp_right .inr
  cases hshift : shift? CaseData.toLower c.toNat with
  | none =>
      have hlower : lowerChar c = [c] := by simp [lowerChar, hascii, hdotted, hshift]
      obtain rfl : d = c := List.mem_singleton.mp (hlower ▸ h)
      exact ⟨hlower, .inl rfl⟩
  | some m =>
      have hlower : lowerChar c = [Char.ofNat m] := by simp [lowerChar, hascii, hdotted, hshift]
      obtain rfl : d = Char.ofNat m := List.mem_singleton.mp (hlower ▸ h)
      exact (lowerChar_of_shift hshift).imp_right .inr

theorem lowerChar_ne_nil (c : Char) : lowerChar c ≠ [] := by
  unfold lowerChar
  dsimp only
  split_ifs
  · exact List.cons_ne_nil _ _
  · exact List.cons_ne_nil _ _
  · exact List.cons_ne_nil _ _
  · split <;> exact List.cons_ne_nil _ _

/-- Both forms of a sigma are in lowercase, so the same holds for a character in a text. -/
theorem mem_lowerBetween {before after : List Char} {c d : Char}
    (h : d ∈ lowerBetween before c after) : lowerChar d = [d] ∧ (d = c ∨ isBlank d = false) := by
  rw [lowerBetween] at h
  split at h
  · have hsigmas : ∀ d ∈ ['ς', 'σ'], lowerChar d = [d] ∧ isBlank d = false := by
      rw [List.forall_mem_cons, List.forall_mem_singleton]
      decide +kernel
    refine (hsigmas d ?_).imp_right .inr
    rw [List.mem_singleton.mp h]
    split <;> simp
  · exact mem_lowerChar h

theorem lowerBetween_ne_nil (before : List Char) (c : Char) (after : List Char) :
    lowerBetween before c after ≠ [] := by
  rw [lowerBetween]
  split
  · exact List.cons_ne_nil _ _
  · exact lowerChar_ne_nil c

/-! ## Texts -/

theorem lowerChar_of_mem_lowerFrom {d : Char} : ∀ {cs before : List Char},
    d ∈ lowerFrom before cs → lowerChar d = [d]
  | [], _, h => nomatch h
  | c :: rest, before, h => by
      rw [lowerFrom, List.mem_append] at h
      rcases h with h | h
      · exact (mem_lowerBetween h).1
      · exact lowerChar_of_mem_lowerFrom h

theorem lowerChars_lowerChars (cs : List Char) : lowerChars (lowerChars cs) = lowerChars cs :=
  lowerFrom_of_lowered _ _ fun _ hd => lowerChar_of_mem_lowerFrom hd

theorem lowercase_lowercase (s : String) : lowercase (lowercase s) = lowercase s := by
  rw [lowercase, lowercase, String.toList_ofList, lowerChars_lowerChars]

theorem lowerChars_eq_nil_iff {cs : List Char} : lowerChars cs = [] ↔ cs = [] := by
  cases cs with
  | nil => exact iff_of_true rfl rfl
  | cons c rest => simp [lowerChars, lowerFrom, lowerBetween_ne_nil]

/-- A text ends with the lowercase form of its last character. -/
theorem exists_lowerFrom_concat (c : Char) : ∀ (cs before : List Char),
    ∃ front before', lowerFrom before (cs ++ [c]) = front ++ lowerBetween before' c []
  | [], before => ⟨[], before, by rw [List.nil_append, lowerFrom, lowerFrom, List.append_nil]; rfl⟩
  | d :: cs, before => by
      obtain ⟨front, before', heq⟩ := exists_lowerFrom_concat c cs (d :: before)
      refine ⟨lowerBetween before d (cs ++ [c]) ++ front, before', ?_⟩
      rw [List.cons_append, lowerFrom, heq, List.append_assoc]

/-- Lowercasing brings no white space to the ends of a text. -/
theorem Trimmed.lowerChars {cs : List Char} (h : Trimmed cs) : Trimmed (lowerChars cs) where
  head d hd := by
    cases cs with
    | nil => cases hd
    | cons c rest =>
        rw [Text.lowerChars, lowerFrom,
          List.head?_append_of_ne_nil _ (lowerBetween_ne_nil [] c rest)] at hd
        rcases (mem_lowerBetween (List.mem_of_mem_head? hd)).2 with rfl | hblank
        · exact h.head d rfl
        · exact hblank
  last d hd := by
    rcases List.eq_nil_or_concat' cs with rfl | ⟨front, c, rfl⟩
    · cases hd
    · obtain ⟨front', before, heq⟩ := exists_lowerFrom_concat c front []
      rw [Text.lowerChars, heq,
        List.getLast?_append_of_ne_nil _ (lowerBetween_ne_nil before c [])] at hd
      rcases (mem_lowerBetween (List.mem_of_mem_getLast? hd)).2 with rfl | hblank
      · exact h.last d (by simp)
      · exact hblank

end ScriptSpelling.Text
