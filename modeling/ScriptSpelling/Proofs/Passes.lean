import ScriptSpelling.Proofs.Words

/-!
# The passes over a text

`wordsOf` goes over a text four times, and the first pass remembers the character before, the
second whether it is inside a run of other characters. Neither memory is seen in the fields that
come out (`fields_passes`): it only decides whether a space stands before the next character, and
the fields of a text do not depend on the spaces before it. So a text may be read character by
character from its end, and three equations say how: a character that is no letter is passed
over (`wordsOf_cons_of_not_letter`), a letter before a cut is a word of its own
(`wordsOf_cons_of_cut`), and any other letter goes in front of the word that starts next to it
(`wordsOf_cons_of_joined`).
-/

namespace ScriptSpelling.Text

/-! ## Cuts -/

/-- Whether a word ends between two adjacent characters. -/
def cutsBetween (a b : Char) : Bool := !isLetter a || !isLetter b || (isSmall a && isCapital b)

/-- Two adjacent characters belong together if both are letters and the case does not rise. -/
theorem cutsBetween_eq_false {a b : Char} :
    cutsBetween a b = false
      ↔ isLetter a = true ∧ isLetter b = true ∧ ¬ (isSmall a = true ∧ isCapital b = true) := by
  simp [cutsBetween, and_assoc]

theorem cutsBetween_letters {a b : Char} (ha : isLetter a = true) (hb : isLetter b = true) :
    cutsBetween a b = true ↔ isSmall a = true ∧ isCapital b = true := by
  simp [cutsBetween, ha, hb]

theorem cutsBetween_of_not_letter_right (a : Char) {b : Char} (h : isLetter b = false) :
    cutsBetween a b = true := by
  simp [cutsBetween, h]

/-! ## Fields -/

theorem fields_cons_of_blank {c : Char} (h : isBlank c = true) (cs : List Char) :
    fields (c :: cs) = fields cs := by
  rw [fields, if_pos h]

theorem fields_cons_of_end {c : Char} (h : isBlank c = false) {cs : List Char}
    (hend : cs.head?.all isBlank = true) : fields (c :: cs) = [c] :: fields cs := by
  rw [fields, if_neg (by simp [h]), if_pos hend]

theorem fields_cons_of_more {c : Char} (h : isBlank c = false) {cs : List Char}
    (hmore : cs.head?.all isBlank = false) :
    fields (c :: cs) = (fields cs).modifyHead (c :: ·) := by
  rw [fields, if_neg (by simp [h]), if_neg (by simp [hmore])]

theorem exists_fields_eq_cons {c : Char} (h : isBlank c = false) : ∀ cs : List Char,
    ∃ field more, fields (c :: cs) = (c :: field) :: more
  | [] => ⟨[], [], fields_cons_of_end h rfl⟩
  | d :: cs => by
      cases hd : isBlank d with
      | true => exact ⟨[], _, fields_cons_of_end h (by simp [hd])⟩
      | false =>
          obtain ⟨field, more, heq⟩ := exists_fields_eq_cons hd cs
          refine ⟨d :: field, more, ?_⟩
          rw [fields_cons_of_more h (by simp [hd]), heq]
          rfl

/-- A character in front of a text is a field of its own, or goes in front of the first one. -/
theorem fields_cons_cases {c : Char} (h : isBlank c = false) (cs : List Char) :
    fields (c :: cs) = [c] :: fields cs
      ∨ ∃ field more, fields cs = field :: more ∧ fields (c :: cs) = (c :: field) :: more := by
  cases hend : cs.head?.all isBlank with
  | true => exact .inl (fields_cons_of_end h hend)
  | false =>
      cases cs with
      | nil => cases hend
      | cons d cs =>
          have hd : isBlank d = false := by simpa using hend
          obtain ⟨field, more, heq⟩ := exists_fields_eq_cons hd cs
          refine .inr ⟨_, _, heq, ?_⟩
          rw [fields_cons_of_more h hend, heq]
          rfl

theorem mem_fields : ∀ {cs field : List Char} {c : Char}, field ∈ fields cs → c ∈ field →
    c ∈ cs ∧ isBlank c = false
  | [], field, c, hfield, _ => by cases hfield
  | b :: cs, field, c, hfield, hc => by
      have hlater : ∀ {f : List Char}, f ∈ fields cs → c ∈ f → c ∈ b :: cs ∧ isBlank c = false :=
        fun hf hcf => (mem_fields hf hcf).imp_left (List.mem_cons_of_mem _)
      cases hb : isBlank b with
      | true =>
          rw [fields_cons_of_blank hb] at hfield
          exact hlater hfield hc
      | false =>
          rcases fields_cons_cases hb cs with heq | ⟨first, more, hfields, heq⟩
          · rw [heq] at hfield
            rcases List.mem_cons.mp hfield with rfl | hrest
            · obtain rfl := List.mem_singleton.mp hc
              exact ⟨List.mem_cons_self, hb⟩
            · exact hlater hrest hc
          · rw [heq] at hfield
            rw [hfields] at hlater
            rcases List.mem_cons.mp hfield with rfl | hrest
            · rcases List.mem_cons.mp hc with rfl | hfirst
              · exact ⟨List.mem_cons_self, hb⟩
              · exact hlater List.mem_cons_self hfirst
            · exact hlater (List.mem_cons_of_mem _ hrest) hc

/-! ## Spaces -/

theorem isBlank_of_isLetter {c : Char} (h : isLetter c = true) : isBlank c = false := by
  have hcodes : 0x41 ≤ c.toNat ∧ c.toNat ≤ 0x7A := by
    rcases isLetter_iff.mp h with hcapital | hsmall
    · have := isCapital_iff.mp hcapital
      omega
    · have := isSmall_iff.mp hsmall
      omega
  simp only [isBlank, Bool.or_eq_false_iff, Bool.and_eq_false_iff, decide_eq_false_iff_not,
    beq_eq_false_iff_ne]
  omega

theorem isLetter_of_startsWord {before : Option Char} {c : Char}
    (h : startsWord before c = true) : isLetter c = true :=
  isLetter_iff.mpr (.inl (Bool.and_eq_true_iff.mp h).1)

theorem startsWord_letter {a b : Char} (ha : isLetter a = true) :
    startsWord (some a) b = true ↔ isSmall a = true ∧ isCapital b = true := by
  have hdigit : a.isDigit = false := by
    have hcodes : '0'.toNat = 0x30 ∧ '9'.toNat = 0x39 := ⟨rfl, rfl⟩
    rw [← Bool.not_eq_true, Char.isDigit_iff_toNat]
    rcases isLetter_iff.mp ha with hcapital | hsmall
    · have := isCapital_iff.mp hcapital
      omega
    · have := isSmall_iff.mp hsmall
      omega
  simp [startsWord, hdigit, and_comm]

theorem mem_spaceRuns : ∀ {within : Bool} {cs : List Char} {c : Char}, c ∈ spaceRuns within cs →
    isLetter c = true ∨ c = ' '
  | within, b :: cs, c, h => by
      rw [spaceRuns] at h
      split at h
      next hkept =>
        rcases List.mem_cons.mp h with rfl | hrest
        · simpa using hkept
        · exact mem_spaceRuns hrest
      next =>
        split at h
        next => exact mem_spaceRuns h
        next =>
          rcases List.mem_cons.mp h with rfl | hrest
          · exact .inr rfl
          · exact mem_spaceRuns hrest

/-! ## What the passes remember -/

/-- A letter comes through, with a space before it where it starts a word. -/
theorem passes_cons_of_letter {c : Char} (h : isLetter c = true) (within : Bool)
    (before : Option Char) (cs : List Char) :
    spaceRuns within (spaceStarts before (c :: cs))
      = if startsWord before c then ' ' :: c :: spaceRuns false (spaceStarts (some c) cs)
        else c :: spaceRuns false (spaceStarts (some c) cs) := by
  rw [spaceStarts]
  split <;> simp [spaceRuns, h]

/-- Any other character becomes a space or nothing, whatever came before it. -/
theorem passes_cons_of_not_letter {c : Char} (h : isLetter c = false) (within : Bool)
    (before : Option Char) (cs : List Char) :
    ∃ pad, (pad = [] ∨ pad = [' ']) ∧ spaceRuns within (spaceStarts before (c :: cs))
      = pad ++ spaceRuns (c != ' ') (spaceStarts (some c) cs) := by
  have hstart : startsWord before c = false := by
    rw [← Bool.not_eq_true]
    intro hstart
    rw [isLetter_of_startsWord hstart] at h
    cases h
  rw [spaceStarts, hstart, if_neg Bool.false_ne_true, spaceRuns, h]
  by_cases hspace : c = ' '
  · exact ⟨[' '], .inr rfl, by simp [hspace]⟩
  · have hother : (c != ' ') = true := by simp [hspace]
    rw [hother]
    cases within with
    | true => exact ⟨[], .inl rfl, by simp [hspace]⟩
    | false => exact ⟨[' '], .inr rfl, by simp [hspace]⟩

/-- The fields do not depend on what the passes remember. -/
theorem fields_passes (within : Bool) (before : Option Char) : ∀ cs : List Char,
    fields (spaceRuns within (spaceStarts before cs))
      = fields (spaceRuns false (spaceStarts none cs))
  | [] => rfl
  | c :: cs => by
      have hspace : isBlank ' ' = true := rfl
      cases hc : isLetter c with
      | true =>
          rw [passes_cons_of_letter hc, passes_cons_of_letter hc]
          split <;> split <;> simp only [fields_cons_of_blank hspace]
      | false =>
          obtain ⟨pad, hpad, heq⟩ := passes_cons_of_not_letter hc within before cs
          obtain ⟨pad', hpad', heq'⟩ := passes_cons_of_not_letter hc false none cs
          rw [heq, heq']
          rcases hpad with rfl | rfl <;> rcases hpad' with rfl | rfl <;>
            simp only [List.nil_append, List.singleton_append, fields_cons_of_blank hspace]

/-- What the passes make of a text that starts after the letter `a` starts with a space exactly
if the text is cut there. -/
theorem isBlank_head?_passes {a b : Char} (ha : isLetter a = true) (cs : List Char) :
    (spaceRuns false (spaceStarts (some a) (b :: cs))).head?.all isBlank = cutsBetween a b := by
  have hspace : isBlank ' ' = true := rfl
  cases hb : isLetter b with
  | true =>
      rw [passes_cons_of_letter hb]
      cases hstart : startsWord (some a) b with
      | true =>
          rw [(cutsBetween_letters ha hb).mpr ((startsWord_letter ha).mp hstart)]
          simp [hspace]
      | false =>
          have hjoined : cutsBetween a b = false := by
            rw [← Bool.not_eq_true, cutsBetween_letters ha hb, ← startsWord_letter ha, hstart]
            exact Bool.false_ne_true
          rw [hjoined]
          simp [isBlank_of_isLetter hb]
  | false =>
      have hstart : startsWord (some a) b = false := by
        rw [← Bool.not_eq_true, startsWord_letter ha]
        rintro ⟨-, hcapital⟩
        rw [isLetter_iff.mpr (.inl hcapital)] at hb
        cases hb
      rw [cutsBetween_of_not_letter_right a hb, spaceStarts, hstart, if_neg Bool.false_ne_true,
        spaceRuns, hb]
      by_cases hother : b = ' ' <;> simp [hother, hspace]

/-! ## Words from the left -/

theorem isLetter_of_mem_fields {cs field : List Char} {c : Char}
    (hfield : field ∈ fields (spaceRuns false cs)) (hc : c ∈ field) : isLetter c = true := by
  obtain ⟨hmem, hblank⟩ := mem_fields hfield hc
  rcases mem_spaceRuns hmem with hletter | rfl
  · exact hletter
  · exact absurd hblank (by decide)

/-- Words are fields of letters, so each letter is put in lowercase on its own. -/
theorem wordsOf_eq (cs : List Char) :
    wordsOf cs = (fields (spaceRuns false (spaceStarts none cs))).map (·.map toSmall) :=
  List.map_congr_left fun _ hfield =>
    lowerChars_of_letters fun _ hc => isLetter_of_mem_fields hfield hc

theorem wordsOf_cons_of_not_letter {c : Char} (h : isLetter c = false) (rest : List Char) :
    wordsOf (c :: rest) = wordsOf rest := by
  obtain ⟨pad, hpad, heq⟩ := passes_cons_of_not_letter h false none rest
  have hfields : fields (spaceRuns false (spaceStarts none (c :: rest)))
      = fields (spaceRuns false (spaceStarts none rest)) := by
    rw [heq, ← fields_passes (c != ' ') (some c) rest]
    rcases hpad with rfl | rfl
    · rfl
    · exact fields_cons_of_blank rfl _
  rw [wordsOf, hfields]
  rfl

theorem passes_letter {c : Char} (h : isLetter c = true) (rest : List Char) :
    spaceRuns false (spaceStarts none (c :: rest))
      = c :: spaceRuns false (spaceStarts (some c) rest) := by
  have hstart : startsWord none c = false := by simp [startsWord]
  rw [passes_cons_of_letter h, hstart, if_neg Bool.false_ne_true]

theorem wordsOf_cons_of_cut {c : Char} (h : isLetter c = true) {rest : List Char}
    (hcut : ∀ d ∈ rest.head?, cutsBetween c d = true) :
    wordsOf (c :: rest) = [toSmall c] :: wordsOf rest := by
  have hend : (spaceRuns false (spaceStarts (some c) rest)).head?.all isBlank = true := by
    cases rest with
    | nil => rfl
    | cons d rest => rw [isBlank_head?_passes h, hcut d rfl]
  rw [wordsOf_eq, passes_letter h, fields_cons_of_end (isBlank_of_isLetter h) hend, fields_passes,
    List.map_cons, ← wordsOf_eq]
  rfl

theorem wordsOf_cons_of_joined {c d : Char} (h : cutsBetween c d = false) (rest : List Char) :
    ∃ w more, wordsOf (d :: rest) = w :: more
      ∧ wordsOf (c :: d :: rest) = (toSmall c :: w) :: more := by
  obtain ⟨hc, hd, -⟩ := cutsBetween_eq_false.mp h
  have hmore : (spaceRuns false (spaceStarts (some c) (d :: rest))).head?.all isBlank = false := by
    rw [isBlank_head?_passes hc, h]
  obtain ⟨field, more, heq⟩ :=
    exists_fields_eq_cons (isBlank_of_isLetter hd) (spaceRuns false (spaceStarts (some d) rest))
  rw [← passes_letter hd] at heq
  refine ⟨(d :: field).map toSmall, more.map (·.map toSmall), ?_, ?_⟩
  · rw [wordsOf_eq, heq]
    rfl
  · rw [wordsOf_eq, passes_letter hc, fields_cons_of_more (isBlank_of_isLetter hc) hmore,
      fields_passes, heq]
    rfl

end ScriptSpelling.Text
