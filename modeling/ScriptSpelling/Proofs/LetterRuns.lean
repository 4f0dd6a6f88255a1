import Mathlib.Data.List.Chain
import ScriptSpelling.Proofs.Passes

/-!
# Words are the letter runs of a text

The words of a text can be read in one pass from the right (`Reads`): a character that is no
letter is passed over, a letter before a cut is a word of its own, and any other letter goes in
front of the word that starts next to it. This reads what `wordsOf` gives and nothing else
(`reads_wordsOf`, `Reads.eq_wordsOf`), and what follows is proved by induction on it.

The main statement, `isSplitting_iff`, does not mention any pass. It says which list of words
belongs to a text by the letters of the text alone (`IsSplitting`) and that there is one such
list only.
-/

namespace ScriptSpelling.Text

/-! ## The pass -/

/-- The words of a text, read from its end to its start. -/
inductive Reads : List Char → List (List Char) → Prop
  | nil : Reads [] []
  /-- A character that is no letter belongs to no word. -/
  | skip {c : Char} {rest : List Char} {ws : List (List Char)} (hc : isLetter c = false)
      (h : Reads rest ws) : Reads (c :: rest) ws
  /-- A letter is a word of its own if the text is cut after it. -/
  | start {c : Char} {rest : List Char} {ws : List (List Char)} (hc : isLetter c = true)
      (hcut : ∀ d ∈ rest.head?, cutsBetween c d = true) (h : Reads rest ws) :
      Reads (c :: rest) ([toSmall c] :: ws)
  /-- Any other letter belongs to the word of the letter after it. -/
  | extend {c d : Char} {rest w : List Char} {ws : List (List Char)}
      (hcut : cutsBetween c d = false) (h : Reads (d :: rest) (w :: ws)) :
      Reads (c :: d :: rest) ((toSmall c :: w) :: ws)

theorem reads_wordsOf : ∀ cs : List Char, Reads cs (wordsOf cs)
  | [] => .nil
  | c :: rest => by
      have ih := reads_wordsOf rest
      cases hc : isLetter c with
      | false =>
          rw [wordsOf_cons_of_not_letter hc]
          exact .skip hc ih
      | true =>
          by_cases hcut : ∀ d ∈ rest.head?, cutsBetween c d = true
          · rw [wordsOf_cons_of_cut hc hcut]
            exact .start hc hcut ih
          · push Not at hcut
            obtain ⟨d, hd, hjoined⟩ := hcut
            rw [ne_eq, Bool.not_eq_true] at hjoined
            obtain ⟨tail, rfl⟩ := List.head?_eq_some_iff.mp (Option.mem_def.mp hd)
            obtain ⟨w, more, hrest, hwords⟩ := wordsOf_cons_of_joined hjoined tail
            rw [hwords]
            rw [hrest] at ih
            exact .extend hjoined ih

theorem Reads.eq_wordsOf {cs : List Char} {ws : List (List Char)} (h : Reads cs ws) :
    ws = wordsOf cs := by
  induction h with
  | nil => rfl
  | skip hc _ ih => rw [wordsOf_cons_of_not_letter hc, ih]
  | start hc hcut _ ih => rw [wordsOf_cons_of_cut hc hcut, ih]
  | @extend c d rest w ws hcut _ ih =>
      obtain ⟨w', more, hrest, hwords⟩ := wordsOf_cons_of_joined hcut rest
      obtain ⟨rfl, rfl⟩ := List.cons.inj (ih.trans hrest)
      exact hwords.symm

/-! ## What the pass keeps -/

/-- The words hold the letters of the text, in order and in lowercase. -/
theorem Reads.flatten_eq {cs : List Char} {ws : List (List Char)} (h : Reads cs ws) :
    ws.flatten = (cs.filter isLetter).map toSmall := by
  induction h with
  | nil => rfl
  | skip hc _ ih => rw [ih, List.filter_cons, hc]; rfl
  | start hc _ _ ih => rw [List.flatten_cons, ih, List.filter_cons, if_pos hc]; rfl
  | extend hcut _ ih =>
      have hc := (cutsBetween_eq_false.mp hcut).1
      rw [List.flatten_cons] at ih
      rw [List.flatten_cons, List.cons_append, ih, List.filter_cons_of_pos hc]
      rfl

theorem Reads.length_flatten {cs : List Char} {ws : List (List Char)} (h : Reads cs ws) :
    ws.flatten.length = cs.countP isLetter := by
  rw [h.flatten_eq, List.length_map, List.countP_eq_length_filter]

/-- Two texts with a cut between them are read one after the other. -/
theorem Reads.append {xs ys : List Char} {ws vs : List (List Char)} (h : Reads xs ws)
    (h' : Reads ys vs) (hcut : ∀ a ∈ xs.getLast?, ∀ b ∈ ys.head?, cutsBetween a b = true) :
    Reads (xs ++ ys) (ws ++ vs) := by
  induction h with
  | nil => exact h'
  | @skip c rest ws hc _ ih =>
      refine .skip hc (ih fun a ha => hcut a ?_)
      cases rest with
      | nil => cases ha
      | cons d rest => rwa [List.getLast?_cons_cons]
  | @start c rest ws hc hnext _ ih =>
      cases rest with
      | nil => exact .start hc (hcut c rfl) (ih fun a ha => by cases ha)
      | cons d rest =>
          refine .start hc hnext (ih fun a ha => hcut a ?_)
          rwa [List.getLast?_cons_cons]
  | @extend c d rest w ws hjoined _ ih =>
      refine .extend hjoined (ih fun a ha => hcut a ?_)
      rwa [List.getLast?_cons_cons]

/-- Letters that belong together go in front of the word that starts after them. -/
theorem Reads.prepend {d : Char} {rest w : List Char} {ws : List (List Char)}
    (h : Reads (d :: rest) (w :: ws)) : ∀ cs : List Char,
      (cs ++ [d]).IsChain (fun a b => cutsBetween a b = false) →
        Reads (cs ++ d :: rest) ((cs.map toSmall ++ w) :: ws)
  | [], _ => h
  | [c], hchain => .extend (List.isChain_cons_cons.mp hchain).1 h
  | c :: c' :: cs, hchain => by
      obtain ⟨hjoined, htail⟩ := List.isChain_cons_cons.mp hchain
      have ih := h.prepend (c' :: cs) htail
      rw [List.cons_append, List.map_cons, List.cons_append] at ih
      exact .extend hjoined ih

theorem Reads.small {cs : List Char} {ws : List (List Char)} (h : Reads cs ws) :
    ∀ w ∈ ws, w ≠ [] ∧ ∀ c ∈ w, isSmall c = true := by
  induction h with
  | nil => exact fun w hw => by cases hw
  | skip _ _ ih => exact ih
  | start hc _ _ ih =>
      exact List.forall_mem_cons.mpr
        ⟨⟨List.cons_ne_nil _ _, List.forall_mem_singleton.mpr (isSmall_toSmall hc)⟩, ih⟩
  | extend hcut _ ih =>
      obtain ⟨⟨-, hw⟩, hws⟩ := List.forall_mem_cons.mp ih
      have hc : isLetter _ = true := (cutsBetween_eq_false.mp hcut).1
      exact List.forall_mem_cons.mpr
        ⟨⟨List.cons_ne_nil _ _, List.forall_mem_cons.mpr ⟨isSmall_toSmall hc, hw⟩⟩, hws⟩

theorem mem_normalize {raw word : String} (h : word ∈ normalize raw) :
    word ≠ "" ∧ ∀ c ∈ word.toList, isSmall c = true := by
  obtain ⟨w, hw, rfl⟩ := List.mem_map.mp h
  obtain ⟨hne, hsmall⟩ := (reads_wordsOf raw.toList).small w hw
  rw [String.toList_ofList]
  refine ⟨fun hempty => hne ?_, hsmall⟩
  rw [← String.toList_ofList (l := w), hempty, String.toList_empty]

/-! ## Letters of one word -/

/-- One of the words holds both the letter with the index `k` and the letter after it, where the
letters of all words are counted through. -/
def Together (ws : List (List Char)) (k : Nat) : Prop :=
  ∃ before w after, ws = before ++ w :: after
    ∧ before.flatten.length ≤ k ∧ k + 1 < before.flatten.length + w.length

theorem together_cons_add {w : List Char} {ws : List (List Char)} {k : Nat} :
    Together (w :: ws) (w.length + k) ↔ Together ws k := by
  constructor
  · rintro ⟨before, v, after, heq, hlo, hhi⟩
    cases before with
    | nil =>
        obtain ⟨rfl, rfl⟩ := List.cons.inj heq
        simp only [List.flatten_nil, List.length_nil] at hhi
        omega
    | cons u before =>
        obtain ⟨rfl, rfl⟩ := List.cons.inj heq
        rw [List.flatten_cons, List.length_append] at hlo hhi
        exact ⟨before, v, after, rfl, by omega, by omega⟩
  · rintro ⟨before, v, after, rfl, hlo, hhi⟩
    refine ⟨w :: before, v, after, rfl, ?_, ?_⟩ <;>
      rw [List.flatten_cons, List.length_append] <;> omega

/-- Where a word ends, the letters before and after the end do not belong together. -/
theorem not_together_append {ws vs : List (List Char)} {k : Nat} (h : ws.flatten.length = k + 1) :
    ¬ Together (ws ++ vs) k := by
  rintro ⟨before, w, after, heq, hlo, hhi⟩
  rcases List.append_eq_append_iff.mp heq with ⟨mid, rfl, -⟩ | ⟨mid, rfl, hmid⟩
  · rw [List.flatten_append, List.length_append] at hlo
    omega
  · cases mid with
    | nil =>
        rw [List.append_nil] at h
        omega
    | cons v mid =>
        obtain ⟨rfl, -⟩ := List.cons.inj hmid
        rw [List.flatten_append, List.flatten_cons, List.length_append, List.length_append] at h
        omega

/-- A letter in front of a word moves all letters by one place. -/
theorem Together.cons_letter {w : List Char} {ws : List (List Char)} {k : Nat} (c : Char) :
    Together (w :: ws) k → Together ((c :: w) :: ws) (k + 1) := by
  rintro ⟨before, v, after, heq, hlo, hhi⟩
  cases before with
  | nil =>
      obtain ⟨rfl, rfl⟩ := List.cons.inj heq
      refine ⟨[], c :: w, ws, rfl, ?_, ?_⟩
      · exact Nat.zero_le _
      · rw [List.length_cons]
        omega
  | cons u before =>
      obtain ⟨rfl, rfl⟩ := List.cons.inj heq
      rw [List.flatten_cons, List.length_append] at hlo hhi
      refine ⟨(c :: w) :: before, v, after, rfl, ?_, ?_⟩ <;>
        rw [List.flatten_cons, List.length_append, List.length_cons] <;> omega

/-- Adjacent letters without a cut between them are read into one word. -/
theorem Reads.together {cs : List Char} {ws : List (List Char)} (h : Reads cs ws) {a b : Char}
    (hjoined : cutsBetween a b = false) : ∀ {before after : List Char},
      cs = before ++ a :: b :: after → Together ws (before.countP isLetter) := by
  induction h with
  | nil => exact fun heq => by simp at heq
  | @skip c rest ws hc _ ih =>
      intro before after heq
      cases before with
      | nil =>
          obtain ⟨rfl, -⟩ := List.cons.inj heq
          rw [(cutsBetween_eq_false.mp hjoined).1] at hc
          cases hc
      | cons u before =>
          obtain ⟨rfl, hrest⟩ := List.cons.inj heq
          rw [List.countP_cons_of_neg (by simp [hc])]
          exact ih hrest
  | @start c rest ws hc hcut _ ih =>
      intro before after heq
      cases before with
      | nil =>
          obtain ⟨rfl, rfl⟩ := List.cons.inj heq
          rw [hcut b rfl] at hjoined
          cases hjoined
      | cons u before =>
          obtain ⟨rfl, hrest⟩ := List.cons.inj heq
          rw [List.countP_cons_of_pos hc, Nat.add_comm]
          exact together_cons_add.mpr (ih hrest)
  | @extend c d rest w ws hcut h ih =>
      intro before after heq
      cases before with
      | nil =>
          have hlength : 0 < w.length :=
            List.length_pos_iff.mpr (h.small w (List.mem_cons_self ..)).1
          refine ⟨[], toSmall c :: w, ws, rfl, Nat.zero_le _, ?_⟩
          simpa using hlength
      | cons u before =>
          obtain ⟨rfl, hrest⟩ := List.cons.inj heq
          rw [List.countP_cons_of_pos (cutsBetween_eq_false.mp hcut).1]
          exact (ih hrest).cons_letter _

/-! ## Splittings -/

/-- The words belong to the text: they are non-empty and consist of small letters; together they
are the letters of the text, in order and in lowercase; and two letters of the text with no
letter between them are in one word exactly if they are adjacent and the case does not rise. -/
structure IsSplitting (raw : String) (words : List String) : Prop where
  nonempty : ∀ word ∈ words, word ≠ ""
  small : ∀ word ∈ words, ∀ c ∈ word.toList, isSmall c = true
  letters : words.flatMap String.toList = (raw.toList.filter isLetter).map toSmall
  together : ∀ (before : List Char) (a : Char) (gap : List Char) (b : Char) (after : List Char),
    raw.toList = before ++ a :: (gap ++ b :: after) → isLetter a = true → isLetter b = true →
      (∀ c ∈ gap, isLetter c = false) →
        (Together (words.map String.toList) (before.countP isLetter)
          ↔ gap = [] ∧ ¬ (isSmall a = true ∧ isCapital b = true))

theorem toList_normalize (raw : String) :
    (normalize raw).map String.toList = wordsOf raw.toList := by
  simp [normalize, Function.comp_def]

theorem together_wordsOf_iff {before gap after : List Char} {a b : Char} (ha : isLetter a = true)
    (hb : isLetter b = true) (hgap : ∀ c ∈ gap, isLetter c = false) :
    Together (wordsOf (before ++ a :: (gap ++ b :: after))) (before.countP isLetter)
      ↔ gap = [] ∧ ¬ (isSmall a = true ∧ isCapital b = true) := by
  by_cases hjoined : gap = [] ∧ ¬ (isSmall a = true ∧ isCapital b = true)
  · obtain ⟨rfl, hcase⟩ := hjoined
    have hcut : cutsBetween a b = false := cutsBetween_eq_false.mpr ⟨ha, hb, hcase⟩
    exact iff_of_true ((reads_wordsOf _).together hcut rfl) ⟨rfl, hcase⟩
  · refine iff_of_false ?_ hjoined
    -- A word ends with `a`, so the text is read in two parts.
    have hcut : ∀ d ∈ (gap ++ b :: after).head?, cutsBetween a d = true := by
      intro d hd
      cases gap with
      | nil =>
          obtain rfl : b = d := by simpa using hd
          rw [cutsBetween_letters ha hb]
          by_contra hcase
          exact hjoined ⟨rfl, hcase⟩
      | cons c gap =>
          obtain rfl : c = d := by simpa using hd
          exact cutsBetween_of_not_letter_right a (hgap c (List.mem_cons_self ..))
    have hlast : ∀ c ∈ (before ++ [a]).getLast?, ∀ d ∈ (gap ++ b :: after).head?,
        cutsBetween c d = true := by
      intro c hc d hd
      obtain rfl : a = c := by simpa using hc
      exact hcut d hd
    have hread := (reads_wordsOf (before ++ [a])).append (reads_wordsOf (gap ++ b :: after)) hlast
    have htext : before ++ a :: (gap ++ b :: after) = before ++ [a] ++ (gap ++ b :: after) := by
      simp
    rw [htext, ← hread.eq_wordsOf]
    refine not_together_append ?_
    rw [(reads_wordsOf _).length_flatten, List.countP_append, List.countP_singleton, if_pos ha]

theorem isSplitting_normalize (raw : String) : IsSplitting raw (normalize raw) where
  nonempty word hword := (mem_normalize hword).1
  small word hword := (mem_normalize hword).2
  letters := by
    rw [List.flatMap_def, toList_normalize]
    exact (reads_wordsOf _).flatten_eq
  together before a gap b after heq ha hb hgap := by
    rw [toList_normalize, heq]
    exact together_wordsOf_iff ha hb hgap

theorem exists_next_letter : ∀ {cs : List Char} {k : Nat}, k + 1 < cs.countP isLetter →
    ∃ before a gap b after, cs = before ++ a :: (gap ++ b :: after) ∧ isLetter a = true
      ∧ isLetter b = true ∧ (∀ c ∈ gap, isLetter c = false) ∧ before.countP isLetter = k
  | [], k, h => by simp at h
  | c :: cs, k, h => by
      by_cases hc : isLetter c = true
      · rw [List.countP_cons_of_pos hc] at h
        cases k with
        | zero =>
            have hsome : (cs.find? isLetter).isSome = true := by
              rw [List.find?_isSome]
              exact List.countP_pos_iff.mp (by omega)
            obtain ⟨b, hfind⟩ := Option.isSome_iff_exists.mp hsome
            obtain ⟨hb, gap, after, rfl, hgap⟩ := List.find?_eq_some_iff_append.mp hfind
            exact ⟨[], c, gap, b, after, rfl, hc, hb, fun d hd => by simpa using hgap d hd, rfl⟩
        | succ k =>
            obtain ⟨before, a, gap, b, after, rfl, ha, hb, hgap, hk⟩ :=
              exists_next_letter (Nat.lt_of_succ_lt_succ h)
            refine ⟨c :: before, a, gap, b, after, rfl, ha, hb, hgap, ?_⟩
            rw [List.countP_cons_of_pos hc, hk]
      · rw [List.countP_cons_of_neg hc] at h
        obtain ⟨before, a, gap, b, after, rfl, ha, hb, hgap, hk⟩ := exists_next_letter h
        refine ⟨c :: before, a, gap, b, after, rfl, ha, hb, hgap, ?_⟩
        rw [List.countP_cons_of_neg hc, hk]

/-- If the same letters belong together, no first word is shorter than another. -/
theorem length_le_of_together {w v : List Char} {ws vs : List (List Char)} (hw : w ≠ [])
    (hflat : (w :: ws).flatten = (v :: vs).flatten)
    (h : ∀ k, k + 1 < (w :: ws).flatten.length → (Together (w :: ws) k ↔ Together (v :: vs) k)) :
    v.length ≤ w.length := by
  by_contra hlt
  have hpos : 0 < w.length := List.length_pos_iff.mpr hw
  obtain ⟨k, hk⟩ : ∃ k, w.length = k + 1 := ⟨w.length - 1, by omega⟩
  have hlength : [w].flatten.length = k + 1 := by simp [hk]
  have hends : ¬ Together ([w] ++ ws) k := not_together_append hlength
  have hgoes : Together (v :: vs) k := by
    refine ⟨[], v, vs, rfl, Nat.zero_le _, ?_⟩
    rw [List.flatten_nil, List.length_nil]
    omega
  have htotal : k + 1 < (w :: ws).flatten.length := by
    rw [hflat, List.flatten_cons, List.length_append]
    omega
  exact hends ((h k htotal).mpr hgoes)

/-- Lists of non-empty words with the same letters are equal if the same letters belong
together. -/
theorem eq_of_together : ∀ {ws vs : List (List Char)}, (∀ w ∈ ws, w ≠ []) → (∀ v ∈ vs, v ≠ []) →
    ws.flatten = vs.flatten →
      (∀ k, k + 1 < ws.flatten.length → (Together ws k ↔ Together vs k)) → ws = vs
  | [], [], _, _, _, _ => rfl
  | [], v :: vs, _, hvs, hflat, _ => by
      have hv : v = [] := (List.append_eq_nil_iff.mp hflat.symm).1
      exact absurd hv (hvs v (List.mem_cons_self ..))
  | w :: ws, [], hws, _, hflat, _ => by
      have hw : w = [] := (List.append_eq_nil_iff.mp hflat).1
      exact absurd hw (hws w (List.mem_cons_self ..))
  | w :: ws, v :: vs, hws, hvs, hflat, h => by
      have hle : v.length ≤ w.length :=
        length_le_of_together (hws w (List.mem_cons_self ..)) hflat h
      have hge : w.length ≤ v.length :=
        length_le_of_together (hvs v (List.mem_cons_self ..)) hflat.symm
          fun k hk => (h k (hflat ▸ hk)).symm
      have hlength : w.length = v.length := Nat.le_antisymm hge hle
      obtain ⟨rfl, htail⟩ := List.append_inj hflat hlength
      refine congrArg (w :: ·) (eq_of_together (fun u hu => hws u (List.mem_cons_of_mem _ hu))
        (fun u hu => hvs u (List.mem_cons_of_mem _ hu)) htail fun k hk => ?_)
      have hk' : w.length + k + 1 < (w :: ws).flatten.length := by
        rw [List.flatten_cons, List.length_append]
        omega
      rw [← together_cons_add, h _ hk', together_cons_add]

theorem IsSplitting.eq {raw : String} {words words' : List String} (h : IsSplitting raw words)
    (h' : IsSplitting raw words') : words = words' := by
  have hne : ∀ {ws : List String}, (∀ word ∈ ws, word ≠ "") →
      ∀ w ∈ ws.map String.toList, w ≠ [] := by
    intro ws hws w hw
    obtain ⟨word, hword, rfl⟩ := List.mem_map.mp hw
    exact fun hnil => hws word hword (String.toList_eq_nil_iff.mp hnil)
  have hflat : (words.map String.toList).flatten = (raw.toList.filter isLetter).map toSmall := by
    rw [← List.flatMap_def, h.letters]
  have hflat' : (words'.map String.toList).flatten = (raw.toList.filter isLetter).map toSmall := by
    rw [← List.flatMap_def, h'.letters]
  refine List.map_injective_iff.mpr (fun _ _ => String.toList_inj.mp)
    (eq_of_together (hne h.nonempty) (hne h'.nonempty) (hflat.trans hflat'.symm) fun k hk => ?_)
  rw [hflat, List.length_map, ← List.countP_eq_length_filter] at hk
  obtain ⟨before, a, gap, b, after, heq, ha, hb, hgap, rfl⟩ := exists_next_letter hk
  rw [h.together before a gap b after heq ha hb hgap,
    h'.together before a gap b after heq ha hb hgap]

/-! ## Words in their text -/

/-- Characters that are no letters. -/
structure Gap where
  chars : List Char
  not_letter : ∀ c ∈ chars, isLetter c = false

def Gap.empty : Gap := ⟨[], fun _ => nofun⟩

/-- A segment of letters, and the characters up to the next segment. -/
structure Run where
  letters : List Char
  nonempty : letters ≠ []
  letter : ∀ c ∈ letters, isLetter c = true
  gap : Gap

def Run.chars (r : Run) : List Char := r.letters ++ r.gap.chars

def Run.word (r : Run) : String := String.ofList (r.letters.map toSmall)

theorem Reads.exists_runs {cs : List Char} {ws : List (List Char)} (h : Reads cs ws) :
    ∃ (gap : Gap) (runs : List Run), cs = gap.chars ++ runs.flatMap Run.chars
      ∧ ws = runs.map fun r => r.letters.map toSmall := by
  induction h with
  | nil => exact ⟨.empty, [], rfl, rfl⟩
  | @skip c rest ws hc _ ih =>
      obtain ⟨gap, runs, rfl, rfl⟩ := ih
      exact ⟨⟨c :: gap.chars, List.forall_mem_cons.mpr ⟨hc, gap.not_letter⟩⟩, runs, rfl, rfl⟩
  | @start c rest ws hc _ _ ih =>
      obtain ⟨gap, runs, rfl, rfl⟩ := ih
      exact ⟨.empty, ⟨[c], List.cons_ne_nil c [], List.forall_mem_singleton.mpr hc, gap⟩ :: runs,
        rfl, rfl⟩
  | @extend c d rest w ws hcut _ ih =>
      obtain ⟨hc, hd, -⟩ := cutsBetween_eq_false.mp hcut
      obtain ⟨⟨gap, hgap⟩, runs, htext, hwords⟩ := ih
      -- The text starts with a letter, so no gap comes before its first run.
      cases gap with
      | cons e gap =>
          obtain rfl : d = e := (List.cons.inj htext).1
          rw [hgap d (List.mem_cons_self ..)] at hd
          cases hd
      | nil =>
          cases runs with
          | nil => simp at hwords
          | cons r runs =>
              obtain ⟨rfl, rfl⟩ := List.cons.inj hwords
              refine ⟨.empty, ⟨c :: r.letters, List.cons_ne_nil c r.letters,
                List.forall_mem_cons.mpr ⟨hc, r.letter⟩, r.gap⟩ :: runs, ?_, rfl⟩
              rw [htext]
              rfl

/-- **Words are letter runs.** The words of a text are its one splitting. Each of them is the
lowercase form of a segment of the text; the segments are disjoint and come in the order of the
words, and all that lies before, between and after them are characters that are no letters. -/
theorem isSplitting_iff (raw : String) :
    (∀ words, IsSplitting raw words ↔ words = normalize raw)
      ∧ ∃ (gap : Gap) (runs : List Run), raw.toList = gap.chars ++ runs.flatMap Run.chars
          ∧ normalize raw = runs.map Run.word := by
  constructor
  · intro words
    constructor
    · exact fun h => h.eq (isSplitting_normalize raw)
    · rintro rfl
      exact isSplitting_normalize raw
  · obtain ⟨gap, runs, htext, hwords⟩ := (reads_wordsOf raw.toList).exists_runs
    refine ⟨gap, runs, htext, ?_⟩
    rw [normalize, hwords, List.map_map]
    rfl

end ScriptSpelling.Text
