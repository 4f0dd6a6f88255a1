import ScriptSpelling.Text.Blank
import ScriptSpelling.Text.Casing
import ScriptSpelling.Text.Words

/-!
# Letters and their lowercase forms

ASCII letters are told by their codes, and lowercasing moves a capital by a fixed distance and
leaves a small letter alone (`lowerChars_of_letters`). So a look-up that lowercases its argument
looks up a word of small letters as it stands (`lowercase_of_small`).
-/

namespace ScriptSpelling.Text

/-! ## Letters by their codes -/

theorem isSmall_iff {c : Char} : isSmall c = true ↔ 0x61 ≤ c.toNat ∧ c.toNat ≤ 0x7A := by
  simp only [isSmall, Bool.and_eq_true, decide_eq_true_eq]
  rfl

theorem isCapital_iff {c : Char} : isCapital c = true ↔ 0x41 ≤ c.toNat ∧ c.toNat ≤ 0x5A := by
  simp only [isCapital, Bool.and_eq_true, decide_eq_true_eq]
  rfl

/-- The small form of an ASCII letter. -/
def toSmall (c : Char) : Char := if isCapital c then Char.ofNat (c.toNat + 0x20) else c

theorem isLetter_iff {c : Char} : isLetter c = true ↔ isCapital c = true ∨ isSmall c = true := by
  rw [isLetter, Bool.or_eq_true]

theorem isSmall_toSmall {c : Char} (h : isLetter c = true) : isSmall (toSmall c) = true := by
  by_cases hcap : isCapital c = true
  · obtain ⟨hlo, hhi⟩ := isCapital_iff.mp hcap
    have hvalid : (c.toNat + 0x20).isValidChar := Or.inl (by omega)
    have hcode : (toSmall c).toNat = c.toNat + 0x20 := by
      rw [toSmall, if_pos hcap, Char.ofNat, dif_pos hvalid]
      rfl
    rw [isSmall_iff, hcode]
    omega
  · rw [toSmall, if_neg hcap]
    simpa [isLetter, hcap] using h

/-! ## Lowercase -/

theorem lowerChar_of_small {c : Char} (h : isSmall c = true) : lowerChar c = [c] := by
  obtain ⟨hlo, hhi⟩ := isSmall_iff.mp h
  have hascii : c.toNat < 0x80 := by omega
  have hcapital : ¬ c.toNat ≤ 0x5A := by omega
  rw [lowerChar]
  simp [hascii, hcapital]

theorem lowerChar_of_letter {c : Char} (h : isLetter c = true) : lowerChar c = [toSmall c] := by
  rcases isLetter_iff.mp h with hcapital | hsmall
  · obtain ⟨hlo, hhi⟩ := isCapital_iff.mp hcapital
    have hascii : c.toNat < 0x80 := by omega
    rw [lowerChar, toSmall, if_pos hcapital]
    simp [hascii, hlo, hhi]
  · have hnot : ¬ isCapital c = true := by
      rw [isCapital_iff]
      have := isSmall_iff.mp hsmall
      omega
    rw [lowerChar_of_small hsmall, toSmall, if_neg hnot]

/-- Only a sigma looks at what stands around it. -/
theorem lowerFrom_eq_map {f : Char → Char} : ∀ (cs before : List Char),
    (∀ c ∈ cs, c ≠ 'Σ' ∧ lowerChar c = [f c]) → lowerFrom before cs = cs.map f
  | [], _, _ => rfl
  | c :: rest, before, h => by
      obtain ⟨⟨hsigma, hc⟩, hrest⟩ := List.forall_mem_cons.mp h
      rw [lowerFrom, lowerBetween, if_neg hsigma, hc, lowerFrom_eq_map rest _ hrest]
      rfl

theorem lowerFrom_of_lowered (cs before : List Char) (h : ∀ c ∈ cs, lowerChar c = [c]) :
    lowerFrom before cs = cs := by
  rw [lowerFrom_eq_map (f := id) cs before, List.map_id]
  refine fun c hc => ⟨?_, h c hc⟩
  rintro rfl
  exact absurd (h _ hc) (by decide +kernel)

theorem lowerChars_of_letters {cs : List Char} (h : ∀ c ∈ cs, isLetter c = true) :
    lowerChars cs = cs.map toSmall := by
  refine lowerFrom_eq_map cs [] fun c hc => ⟨?_, lowerChar_of_letter (h c hc)⟩
  rintro rfl
  exact absurd (h _ hc) (by decide)

theorem lowercase_of_small {s : String} (h : ∀ c ∈ s.toList, isSmall c = true) :
    lowercase s = s := by
  rw [lowercase, lowerChars, lowerFrom_of_lowered _ _ fun c hc => lowerChar_of_small (h c hc),
    String.ofList_toList]

theorem exists_lowerChar_of_ascii {c : Char} (h : c.toNat < 0x80) : ∃ d, lowerChar c = [d] := by
  rw [lowerChar, if_pos h]
  split <;> exact ⟨_, rfl⟩

/-- A text that starts with an ASCII character starts with its lowercase form in lowercase. -/
theorem head?_lowerChars {c : Char} (h : c.toNat < 0x80) (rest : List Char) :
    (lowerChars (c :: rest)).head? = (lowerChar c).head? := by
  have hsigma : c ≠ 'Σ' := by
    rintro rfl
    revert h
    decide
  obtain ⟨d, hd⟩ := exists_lowerChar_of_ascii h
  rw [lowerChars, lowerFrom, lowerBetween, if_neg hsigma, hd]
  rfl

/-! ## Trimming -/

/-- A text that starts with a character which is not blank still does when it is trimmed. -/
theorem exists_trimChars_eq_cons {c : Char} (h : isBlank c = false) (rest : List Char) :
    ∃ more, trimChars (c :: rest) = c :: more := by
  have hstart : trimStart (c :: rest) = c :: rest := by simp [trimStart, h]
  have hlast : ((rest.reverse ++ [c]).dropWhile isBlank).getLast? = some c := by
    rw [List.dropWhile_append]
    split <;> simp [h]
  rw [trimChars, hstart, trimEnd, trimStart, List.reverse_cons]
  exact List.head?_eq_some_iff.mp (by rw [List.head?_reverse, hlast])

end ScriptSpelling.Text
