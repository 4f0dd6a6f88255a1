import Mathlib.Data.List.Pairwise
import ScriptSpelling.Proofs.LetterRuns

/-!
# The words of a compound name

A name is made of words in small letters, each written in a letter case of its own, with any
characters that are no letters between them, before the first and after the last (`Compound`).
Its words are recovered unless two of them run together: where nothing stands between two words,
the left one must end in a small letter and the right one start with a capital
(`Compound.Parted`). Otherwise the two are read as one word, which is longer than the left one, so
the condition is exact (`normalize_compound`).
-/

namespace ScriptSpelling.Text

/-! ## Letter cases -/

/-- What holds of the 26 letters one by one holds of every small letter. -/
theorem forall_isSmall {P : Char → Prop} (h : ∀ i : Fin 26, P (Char.ofNat (0x61 + i))) {c : Char}
    (hc : isSmall c = true) : P c := by
  obtain ⟨hlo, hhi⟩ := isSmall_iff.mp hc
  have hletter := h ⟨c.toNat - 0x61, by omega⟩
  have hcode : 0x61 + (c.toNat - 0x61) = c.toNat := by omega
  rwa [hcode, Char.ofNat_toNat] at hletter

theorem isCapital_toUpper {c : Char} (h : isSmall c = true) : isCapital c.toUpper = true :=
  forall_isSmall (P := fun c => isCapital c.toUpper = true) (by decide) h

theorem toSmall_toUpper {c : Char} (h : isSmall c = true) : toSmall c.toUpper = c :=
  forall_isSmall (P := fun c => toSmall c.toUpper = c) (by decide) h

theorem not_isSmall_of_isCapital {c : Char} (h : isCapital c = true) : isSmall c = false := by
  have hcapital := isCapital_iff.mp h
  rw [← Bool.not_eq_true, isSmall_iff]
  omega

theorem toSmall_of_isSmall {c : Char} (h : isSmall c = true) : toSmall c = c := by
  rw [toSmall, if_neg]
  intro hcapital
  rw [not_isSmall_of_isCapital hcapital] at h
  cases h

theorem map_toSmall_of_isSmall {cs : List Char} (h : ∀ c ∈ cs, isSmall c = true) :
    cs.map toSmall = cs :=
  (List.map_congr_left fun c hc => toSmall_of_isSmall (h c hc)).trans (List.map_id _)

theorem map_toSmall_map_toUpper {cs : List Char} (h : ∀ c ∈ cs, isSmall c = true) :
    (cs.map Char.toUpper).map toSmall = cs := by
  rw [List.map_map]
  exact (List.map_congr_left fun c hc => toSmall_toUpper (h c hc)).trans (List.map_id _)

/-- The case does not rise where only small letters follow. -/
theorem pairwise_cons_of_isSmall (c : Char) {cs : List Char} (h : ∀ d ∈ cs, isSmall d = true) :
    (c :: cs).Pairwise fun a b => ¬ (isSmall a = true ∧ isCapital b = true) := by
  have hright : ∀ a b : Char, b ∈ cs → ¬ (isSmall a = true ∧ isCapital b = true) := by
    rintro a b hb ⟨-, hcapital⟩
    have hsmall := h b hb
    rw [not_isSmall_of_isCapital hcapital] at hsmall
    cases hsmall
  exact List.pairwise_cons.mpr ⟨hright c,
    List.pairwise_of_forall_mem_list fun a _ b hb => hright a b hb⟩

theorem pairwise_map_toUpper {cs : List Char} (h : ∀ c ∈ cs, isSmall c = true) :
    (cs.map Char.toUpper).Pairwise fun a b => ¬ (isSmall a = true ∧ isCapital b = true) := by
  refine List.pairwise_of_forall_mem_list fun a ha b _ hrise => ?_
  obtain ⟨e, he, rfl⟩ := List.mem_map.mp ha
  rw [not_isSmall_of_isCapital (isCapital_toUpper (h e he))] at hrise
  cases hrise.1

/-- How a word is written: as in `word`, as in `Word`, or as in `WORD`. -/
inductive LetterCase where
  | small
  | capitalized
  | capitals
deriving Repr, DecidableEq

/-- The small letters of a word as they are written. -/
def LetterCase.write : LetterCase → List Char → List Char
  | small, cs => cs
  | capitalized, cs => cs.modifyHead Char.toUpper
  | capitals, cs => cs.map Char.toUpper

/-- A word: at least one letter, all of them small. -/
structure Word where
  letters : List Char
  nonempty : letters ≠ []
  small : ∀ c ∈ letters, isSmall c = true

def Word.text (w : Word) : String := String.ofList w.letters

structure WrittenWord where
  word : Word
  letterCase : LetterCase

namespace WrittenWord

def chars (w : WrittenWord) : List Char := w.letterCase.write w.word.letters

def EndsSmall (w : WrittenWord) : Prop := ∃ c ∈ w.chars.getLast?, isSmall c = true

def StartsCapital (w : WrittenWord) : Prop := ∃ c ∈ w.chars.head?, isCapital c = true

/-- The ways to write a word: a first letter in either case and the others small, or capitals. -/
theorem chars_cases (w : WrittenWord) :
    ∃ c cs, w.word.letters = c :: cs ∧ (∀ d ∈ c :: cs, isSmall d = true)
      ∧ ((w.letterCase = .small ∧ w.chars = c :: cs)
        ∨ (w.letterCase = .capitalized ∧ w.chars = c.toUpper :: cs)
        ∨ (w.letterCase = .capitals ∧ w.chars = (c :: cs).map Char.toUpper)) := by
  obtain ⟨⟨letters, hne, hsmall⟩, letterCase⟩ := w
  cases letters with
  | nil => exact absurd rfl hne
  | cons c cs =>
      refine ⟨c, cs, rfl, hsmall, ?_⟩
      cases letterCase with
      | small => exact .inl ⟨rfl, rfl⟩
      | capitalized => exact .inr (.inl ⟨rfl, rfl⟩)
      | capitals => exact .inr (.inr ⟨rfl, rfl⟩)

theorem chars_ne_nil (w : WrittenWord) : w.chars ≠ [] := by
  obtain ⟨c, cs, -, -, ⟨-, hw⟩ | ⟨-, hw⟩ | ⟨-, hw⟩⟩ := w.chars_cases <;>
    exact hw ▸ List.cons_ne_nil _ _

theorem isLetter_of_mem_chars {w : WrittenWord} {d : Char} (h : d ∈ w.chars) :
    isLetter d = true := by
  rw [isLetter_iff]
  obtain ⟨c, cs, -, hsmall, ⟨-, hw⟩ | ⟨-, hw⟩ | ⟨-, hw⟩⟩ := w.chars_cases <;> rw [hw] at h
  · exact .inr (hsmall d h)
  · rcases List.mem_cons.mp h with rfl | hd
    · exact .inl (isCapital_toUpper (hsmall c (List.mem_cons_self ..)))
    · exact .inr (hsmall d (List.mem_cons_of_mem _ hd))
  · obtain ⟨e, he, rfl⟩ := List.mem_map.mp h
    exact .inl (isCapital_toUpper (hsmall e he))

theorem map_toSmall_chars (w : WrittenWord) : w.chars.map toSmall = w.word.letters := by
  obtain ⟨c, cs, hletters, hsmall, ⟨-, hw⟩ | ⟨-, hw⟩ | ⟨-, hw⟩⟩ := w.chars_cases <;>
    rw [hletters, hw]
  · exact map_toSmall_of_isSmall hsmall
  · obtain ⟨hc, hcs⟩ := List.forall_mem_cons.mp hsmall
    rw [List.map_cons, toSmall_toUpper hc, map_toSmall_of_isSmall hcs]
  · exact map_toSmall_map_toUpper hsmall

/-- No cut falls into a written word: no capital stands after a small letter. -/
theorem isChain_chars (w : WrittenWord) :
    w.chars.IsChain fun a b => cutsBetween a b = false := by
  have hcase : w.chars.Pairwise fun a b => ¬ (isSmall a = true ∧ isCapital b = true) := by
    obtain ⟨c, cs, -, hsmall, ⟨-, hw⟩ | ⟨-, hw⟩ | ⟨-, hw⟩⟩ := w.chars_cases <;> rw [hw]
    · exact pairwise_cons_of_isSmall c (List.forall_mem_cons.mp hsmall).2
    · exact pairwise_cons_of_isSmall _ (List.forall_mem_cons.mp hsmall).2
    · exact pairwise_map_toUpper hsmall
  refine (hcase.imp_of_mem fun ha hb h => ?_).isChain
  exact cutsBetween_eq_false.mpr ⟨isLetter_of_mem_chars ha, isLetter_of_mem_chars hb, h⟩

/-- Only a word in small letters and a capitalized one with a second letter end in a small
letter. -/
theorem endsSmall_iff (w : WrittenWord) :
    w.EndsSmall ↔ w.letterCase = .small
      ∨ (w.letterCase = .capitalized ∧ 1 < w.word.letters.length) := by
  have hlast : ∀ {l : List Char} (hl : l ≠ []), (∀ d ∈ l, isSmall d = true) →
      ∃ d ∈ l.getLast?, isSmall d = true :=
    fun hl h => ⟨_, List.getLast?_eq_some_getLast hl, h _ (List.getLast_mem hl)⟩
  obtain ⟨c, cs, hletters, hsmall, ⟨hcase, hw⟩ | ⟨hcase, hw⟩ | ⟨hcase, hw⟩⟩ := w.chars_cases <;>
    rw [EndsSmall, hw, hcase, hletters]
  · exact iff_of_true (hlast (List.cons_ne_nil c cs) hsmall) (.inl rfl)
  · obtain ⟨hc, hcs⟩ := List.forall_mem_cons.mp hsmall
    cases cs with
    | nil => simp [not_isSmall_of_isCapital (isCapital_toUpper hc)]
    | cons d cs =>
        rw [List.getLast?_cons_cons]
        exact iff_of_true (hlast (List.cons_ne_nil d cs) hcs) (.inr ⟨rfl, by simp⟩)
  · refine iff_of_false ?_ (by simp)
    rintro ⟨d, hd, hsmallLast⟩
    obtain ⟨e, he, rfl⟩ := List.mem_map.mp (List.mem_of_getLast? (Option.mem_def.mp hd))
    rw [not_isSmall_of_isCapital (isCapital_toUpper (hsmall e he))] at hsmallLast
    cases hsmallLast

end WrittenWord

/-! ## Compounds -/

/-- A name: words with gaps, which may be empty, before each and after the last. -/
structure Compound where
  /-- The words, each with the characters before it. -/
  parts : List (Gap × WrittenWord)
  /-- The characters after the last word. -/
  after : Gap

namespace Compound

def partChars (p : Gap × WrittenWord) : List Char := p.1.chars ++ p.2.chars

def text (n : Compound) : String :=
  String.ofList (n.parts.flatMap partChars ++ n.after.chars)

def words (n : Compound) : List String := n.parts.map fun p => p.2.word.text

/-- Two neighbours do not run together: something stands between them, or the case rises from the
last letter of the left one to the first of the right one. -/
def Parted (left right : Gap × WrittenWord) : Prop :=
  right.1.chars = [] → left.2.EndsSmall ∧ right.2.StartsCapital

def Separated (n : Compound) : Prop := n.parts.IsChain Parted

end Compound

/-! ## Reading a compound -/

theorem wordsOf_gap_append (cs : List Char) : ∀ {gap : List Char},
    (∀ c ∈ gap, isLetter c = false) → wordsOf (gap ++ cs) = wordsOf cs
  | [], _ => rfl
  | c :: gap, hgap => by
      obtain ⟨hc, hrest⟩ := List.forall_mem_cons.mp hgap
      rw [List.cons_append, wordsOf_cons_of_not_letter hc, wordsOf_gap_append cs hrest]

theorem wordsOf_gap (gap : Gap) : wordsOf gap.chars = [] := by
  have h := wordsOf_gap_append [] gap.not_letter
  rwa [List.append_nil] at h

theorem WrittenWord.reads (w : WrittenWord) : Reads w.chars [w.word.letters] := by
  obtain ⟨cs, c, hsplit⟩ : ∃ cs c, w.chars = cs ++ [c] :=
    ⟨_, _, (List.dropLast_append_getLast w.chars_ne_nil).symm⟩
  have hletter : isLetter c = true := w.isLetter_of_mem_chars (by rw [hsplit]; simp)
  have hlast : Reads [c] [[toSmall c]] := .start hletter (by simp) .nil
  have hread := hlast.prepend cs (hsplit ▸ w.isChain_chars)
  have hword : cs.map toSmall ++ [toSmall c] = w.word.letters := by
    rw [← w.map_toSmall_chars, hsplit, List.map_append, List.map_singleton]
  rwa [hword, ← hsplit] at hread

namespace Compound

/-- A part that is cut off from the rest is read as its word. -/
theorem wordsOf_part_of_cut (p : Gap × WrittenWord) {rest : List Char}
    (hcut : ∀ a ∈ p.2.chars.getLast?, ∀ b ∈ rest.head?, cutsBetween a b = true) :
    wordsOf (partChars p ++ rest) = p.2.word.letters :: wordsOf rest := by
  rw [partChars, List.append_assoc, wordsOf_gap_append _ p.1.not_letter]
  exact (p.2.reads.append (reads_wordsOf rest) hcut).eq_wordsOf.symm

/-- A part that is not cut off from the letter after it is read into a longer word. -/
theorem wordsOf_part_of_joined (p : Gap × WrittenWord) {b : Char} (rest : List Char)
    (hjoined : ∀ a ∈ p.2.chars.getLast?, cutsBetween a b = false) :
    ∃ w more, w ≠ [] ∧ wordsOf (partChars p ++ b :: rest) = (p.2.word.letters ++ w) :: more := by
  have hchain : (p.2.chars ++ [b]).IsChain fun a b => cutsBetween a b = false := by
    refine List.isChain_append.mpr ⟨p.2.isChain_chars, List.isChain_singleton b, ?_⟩
    intro a ha c hc
    obtain rfl : b = c := by simpa using hc
    exact hjoined a ha
  have hb : isLetter b = true := by
    have hlast := List.getLast?_eq_some_getLast p.2.chars_ne_nil
    exact (cutsBetween_eq_false.mp (hjoined _ hlast)).2.1
  have hrest := reads_wordsOf (b :: rest)
  cases hwords : wordsOf (b :: rest) with
  | nil =>
      -- The letter `b` is in some word.
      have hletters := hrest.length_flatten
      rw [hwords, List.countP_cons_of_pos hb] at hletters
      simp at hletters
  | cons w more =>
      rw [hwords] at hrest
      refine ⟨w, more, (hrest.small w (List.mem_cons_self ..)).1, ?_⟩
      rw [partChars, List.append_assoc, wordsOf_gap_append _ p.1.not_letter,
        ← (hrest.prepend p.2.chars hchain).eq_wordsOf, p.2.map_toSmall_chars]

/-- Two neighbours do not run together exactly if what follows the left one is cut off from it. -/
theorem parted_or_joined (left right : Gap × WrittenWord) (rest : List Char) :
    (Parted left right
        ∧ ∀ a ∈ left.2.chars.getLast?, ∀ b ∈ (partChars right ++ rest).head?,
            cutsBetween a b = true)
      ∨ (¬ Parted left right
        ∧ ∃ b tail, partChars right ++ rest = b :: tail
            ∧ ∀ a ∈ left.2.chars.getLast?, cutsBetween a b = false) := by
  obtain ⟨⟨gap, hgap⟩, word⟩ := right
  cases gap with
  | cons g gap =>
      refine .inl ⟨fun hnil => absurd hnil (List.cons_ne_nil g gap), fun a _ b hb => ?_⟩
      obtain rfl : g = b := Option.some.inj hb
      exact cutsBetween_of_not_letter_right a (hgap g (List.mem_cons_self ..))
  | nil =>
      obtain ⟨b, tail, hword⟩ := List.exists_cons_of_ne_nil word.chars_ne_nil
      obtain ⟨a, ha⟩ : ∃ a, left.2.chars.getLast? = some a :=
        ⟨_, List.getLast?_eq_some_getLast left.2.chars_ne_nil⟩
      have hletter : isLetter a = true :=
        left.2.isLetter_of_mem_chars (List.mem_of_getLast? ha)
      have hletter' : isLetter b = true :=
        word.isLetter_of_mem_chars (by rw [hword]; exact List.mem_cons_self ..)
      have hparted : Parted left (⟨[], hgap⟩, word) ↔ cutsBetween a b = true := by
        rw [cutsBetween_letters hletter hletter']
        simp [Parted, WrittenWord.EndsSmall, WrittenWord.StartsCapital, ha, hword]
      have hlast : ∀ c ∈ left.2.chars.getLast?, a = c := by
        intro c hc
        rw [ha] at hc
        exact Option.some.inj hc
      rw [hparted, partChars, hword]
      cases hcut : cutsBetween a b with
      | true =>
          refine .inl ⟨rfl, fun c hc d hd => ?_⟩
          obtain rfl := hlast c hc
          obtain rfl : b = d := Option.some.inj hd
          exact hcut
      | false =>
          refine .inr ⟨Bool.false_ne_true, b, tail ++ rest, rfl, fun c hc => ?_⟩
          obtain rfl := hlast c hc
          exact hcut

/-- The words are recovered exactly if no two neighbours run together. -/
theorem wordsOf_parts_iff : ∀ (parts : List (Gap × WrittenWord)) (after : Gap),
    wordsOf (parts.flatMap partChars ++ after.chars) = parts.map (fun p => p.2.word.letters)
      ↔ parts.IsChain Parted
  | [], after => iff_of_true (wordsOf_gap after) List.isChain_nil
  | [p], after => by
      refine iff_of_true ?_ (List.isChain_singleton p)
      have hcut : ∀ a ∈ p.2.chars.getLast?, ∀ b ∈ after.chars.head?, cutsBetween a b = true :=
        fun a _ b hb => cutsBetween_of_not_letter_right a
          (after.not_letter b (List.mem_of_head? (Option.mem_def.mp hb)))
      rw [List.flatMap_singleton, wordsOf_part_of_cut p hcut, wordsOf_gap after]
      rfl
  | p :: q :: parts, after => by
      have ih := wordsOf_parts_iff (q :: parts) after
      rw [List.flatMap_cons, List.append_assoc, List.isChain_cons_cons, ← ih, List.map_cons,
        List.flatMap_cons, List.append_assoc]
      rcases parted_or_joined p q (parts.flatMap partChars ++ after.chars) with
        ⟨hparted, hcut⟩ | ⟨hnot, b, tail, htext, hjoined⟩
      · rw [wordsOf_part_of_cut p hcut, List.cons.injEq]
        simp [hparted]
      · obtain ⟨w, more, hne, hwords⟩ := wordsOf_part_of_joined p tail hjoined
        rw [htext, hwords, List.cons.injEq]
        refine iff_of_false (fun h => ?_) (fun h => hnot h.1)
        simp [hne] at h

theorem normalize_text_iff (n : Compound) : normalize n.text = n.words ↔ n.Separated := by
  have hwords : n.words = (n.parts.map fun p => p.2.word.letters).map String.ofList := by
    rw [words, List.map_map]
    rfl
  rw [normalize, text, String.toList_ofList, hwords,
    (List.map_injective_iff.mpr fun _ _ => String.ofList_injective).eq_iff, wordsOf_parts_iff]
  rfl

end Compound

/-! ## Words that are normalized again -/

theorem exists_words (raw : String) : ∃ ws : List Word, normalize raw = ws.map Word.text := by
  refine ⟨(normalize raw).pmap (fun word h => ⟨word.toList, ?_, h.2⟩)
    fun _ hword => mem_normalize hword, ?_⟩
  · exact fun hnil => h.1 (String.toList_eq_nil_iff.mp hnil)
  · rw [List.map_pmap]
    exact (List.pmap_eq_self.mpr fun _ _ => String.ofList_toList).symm

namespace Compound

def spacedPart (w : Word) : Gap × WrittenWord :=
  (⟨[' '], List.forall_mem_singleton.mpr rfl⟩, ⟨w, .small⟩)

/-- Words in small letters with a space between neighbours. -/
def spaced : List Word → Compound
  | [] => ⟨[], .empty⟩
  | w :: more => ⟨(.empty, ⟨w, .small⟩) :: more.map spacedPart, .empty⟩

theorem words_spaced : ∀ ws : List Word, (spaced ws).words = ws.map Word.text
  | [] => rfl
  | w :: more => by
      rw [words, spaced, List.map_cons, List.map_map, List.map_cons]
      rfl

/-- Words with a gap between any two neighbours do not run together. -/
theorem separated_spaced : ∀ ws : List Word, (spaced ws).Separated
  | [] => List.isChain_nil
  | w :: more => by
      have hparted : ∀ p, ∀ q ∈ more.map spacedPart, Parted p q := by
        intro p q hq hnil
        obtain ⟨v, -, rfl⟩ := List.mem_map.mp hq
        cases hnil
      exact (List.pairwise_cons.mpr ⟨hparted _,
        List.pairwise_of_forall_mem_list fun p _ q hq => hparted p q hq⟩).isChain

theorem text_spaced_cons (w : Word) (more : List Word) :
    (spaced (w :: more)).text
      = String.ofList (w.letters ++ more.flatMap fun v => ' ' :: v.letters) := by
  have hafter : (spaced (w :: more)).after.chars = [] := rfl
  rw [text, hafter, List.append_nil, spaced, List.flatMap_cons, List.flatMap_map]
  rfl

theorem text_spaced : ∀ ws : List Word, (spaced ws).text = " ".intercalate (ws.map Word.text)
  | [] => rfl
  | [w] => by
      rw [text_spaced_cons, List.flatMap_nil, List.append_nil]
      rfl
  | w :: v :: more => by
      have hspace : " " = String.ofList [' '] := rfl
      rw [List.map_cons, List.map_cons, String.intercalate_cons_cons, ← List.map_cons,
        ← text_spaced (v :: more), text_spaced_cons, text_spaced_cons, Word.text, hspace,
        ← String.ofList_append, ← String.ofList_append, List.flatMap_cons]
      simp

end Compound

/-- **Words of a compound.** The words of a compound name are recovered, from left to right,
exactly if no two neighbours run together; a word ends in a small letter unless it is all in
capitals or a capital alone. Each word of a text is its own only word, and the words of a text
with spaces between them have the same words again. -/
theorem normalize_compound :
    (∀ n : Compound, normalize n.text = n.words ↔ n.Separated)
      ∧ (∀ w : WrittenWord, w.EndsSmall ↔ w.letterCase = .small
          ∨ (w.letterCase = .capitalized ∧ 1 < w.word.letters.length))
      ∧ (∀ raw, ∀ word ∈ normalize raw, normalize word = [word])
      ∧ ∀ raw, normalize (" ".intercalate (normalize raw)) = normalize raw := by
  have hspaced : ∀ ws : List Word,
      normalize (" ".intercalate (ws.map Word.text)) = ws.map Word.text := by
    intro ws
    rw [← Compound.text_spaced, ← Compound.words_spaced]
    exact (Compound.normalize_text_iff _).mpr (Compound.separated_spaced ws)
  refine ⟨Compound.normalize_text_iff, WrittenWord.endsSmall_iff, ?_, ?_⟩
  · intro raw word hword
    obtain ⟨ws, hws⟩ := exists_words raw
    rw [hws] at hword
    obtain ⟨w, -, rfl⟩ := List.mem_map.mp hword
    exact hspaced [w]
  · intro raw
    obtain ⟨ws, hws⟩ := exists_words raw
    rw [hws]
    exact hspaced ws

/-- The name `parseHTML_size$`: nothing stands between its first two words. -/
def Compound.parseHTML : Compound where
  parts := [
    (.empty, ⟨⟨['p', 'a', 'r', 's', 'e'], nofun, List.all_eq_true.mp rfl⟩, .small⟩),
    (.empty, ⟨⟨['h', 't', 'm', 'l'], nofun, List.all_eq_true.mp rfl⟩, .capitals⟩),
    (⟨['_'], List.forall_mem_singleton.mpr rfl⟩,
      ⟨⟨['s', 'i', 'z', 'e'], nofun, List.all_eq_true.mp rfl⟩, .small⟩)]
  after := ⟨['$'], List.forall_mem_singleton.mpr rfl⟩

/-- A run of capitals after a small letter is a word, and is read as itself. -/
theorem normalize_compound_capitals :
    Compound.parseHTML.text = "parseHTML_size$"
      ∧ Compound.parseHTML.words = ["parse", "html", "size"]
      ∧ Compound.parseHTML.Separated
      ∧ normalize Compound.parseHTML.text = Compound.parseHTML.words
      ∧ "html" ∈ normalize Compound.parseHTML.text
      ∧ normalize "html" = ["html"] := by
  have hseparated : Compound.parseHTML.Separated := by
    -- The first two words meet at `eH`, and a gap stands before the third.
    refine .cons_cons (fun _ => ⟨⟨'e', rfl, rfl⟩, ⟨'H', rfl, rfl⟩⟩)
      (.cons_cons ?_ (.singleton _))
    rintro ⟨⟩
  have hread := (normalize_compound.1 Compound.parseHTML).mpr hseparated
  have hword : "html" ∈ normalize Compound.parseHTML.text := hread ▸ by decide
  exact ⟨rfl, rfl, hseparated, hread, hword, normalize_compound.2.2.1 _ _ hword⟩

/-- Capitals run together with the word after them. -/
example : normalize "HTMLParser" = ["htmlparser"] := by decide

end ScriptSpelling.Text
