import Mathlib.Data.Fin.Tuple.Sort
import ScriptSpelling.Proofs.ReportOrder

/-!
# Sorting by line

A report is sorted by a key, the line, of which many findings have the same and some have none.
What a sort by a key does is settled by two facts: the keys ascend, and the elements with any one
key are those of the list, in their old order (`filter_sortByKey`). Two lists of which both hold are
the same (`eq_of_filter_key_eq`), so lists are sorted alike exactly if they agree key by key, and
the laws of sorting follow by looking at one key at a time.

Seen from the places of a list, the sort is a permutation of them (`sortByKey_eq_ofFn`). It is the
only one that puts findings without a line first and lines in ascending order, and leaves the order
within a line alone (`Report.Arranges`). So there is one list of the findings in that order
(`Report.Arranged`), the report. The main statement is `Report.byLine_arranges`.
-/

namespace ScriptSpelling

/-! ## Sorting by a key -/

section SortByKey

variable {α β : Type} [LinearOrder β] {key : α → β}

/-- The elements in ascending order of their keys. -/
def sortByKey (key : α → β) (l : List α) : List α := l.mergeSort fun a b => key a ≤ key b

theorem key_le_trans (key : α → β) (a b c : α) (hab : decide (key a ≤ key b) = true)
    (hbc : decide (key b ≤ key c) = true) : decide (key a ≤ key c) = true := by
  rw [decide_eq_true_eq] at *
  exact hab.trans hbc

theorem key_le_total (key : α → β) (a b : α) :
    (decide (key a ≤ key b) || decide (key b ≤ key a)) = true := by
  rw [Bool.or_eq_true, decide_eq_true_eq, decide_eq_true_eq]
  exact le_total _ _

theorem perm_sortByKey (l : List α) : (sortByKey key l).Perm l := List.mergeSort_perm _ _

theorem pairwise_sortByKey (l : List α) :
    (sortByKey key l).Pairwise fun a b => key a ≤ key b :=
  (List.pairwise_mergeSort (key_le_trans key) (key_le_total key) l).imp of_decide_eq_true

theorem sortByKey_of_pairwise {l : List α} (h : l.Pairwise fun a b => key a ≤ key b) :
    sortByKey key l = l :=
  List.mergeSort_of_pairwise (h.imp decide_eq_true)

theorem filter_sortByKey (l : List α) (k : β) :
    (sortByKey key l).filter (fun a => key a = k) = l.filter fun a => key a = k := by
  have hsame : (l.filter fun a => key a = k).Pairwise fun a b => decide (key a ≤ key b) = true := by
    refine List.pairwise_of_forall_mem_list fun a ha b hb => ?_
    have hkeys : key a = k ∧ key b = k := by simp_all
    rw [hkeys.1, hkeys.2]
    exact decide_eq_true le_rfl
  have hkept : (l.filter fun a => key a = k).Sublist (sortByKey key l) :=
    List.sublist_mergeSort (key_le_trans key) (key_le_total key) hsame List.filter_sublist
  have hfilter : ((l.filter fun a => key a = k).filter fun a => key a = k).Sublist
      ((sortByKey key l).filter fun a => key a = k) := hkept.filter _
  rw [List.filter_filter] at hfilter
  simp only [Bool.and_self] at hfilter
  exact (hfilter.eq_of_length ((perm_sortByKey l).filter _).length_eq.symm).symm

theorem key_le_of_mem {a b : α} {l : List α}
    (h : (b :: l).Pairwise fun a b => key a ≤ key b) (ha : a ∈ b :: l) : key b ≤ key a := by
  rcases List.mem_cons.mp ha with rfl | ha
  · exact le_rfl
  · exact List.rel_of_pairwise_cons h ha

/-- Lists with ascending keys are the same if they agree key by key. -/
theorem eq_of_filter_key_eq : ∀ {l l' : List α}, (l.Pairwise fun a b => key a ≤ key b) →
    (l'.Pairwise fun a b => key a ≤ key b) →
    (∀ k, (l.filter fun a => key a = k) = l'.filter fun a => key a = k) → l = l'
  | [], [], _, _, _ => rfl
  | [], b :: l', _, _, h => by simpa using h (key b)
  | a :: l, [], _, _, h => by simpa using h (key a)
  | a :: l, b :: l', hl, hl', h => by
      have hmem (c : α) : c ∈ a :: l ↔ c ∈ b :: l' := by
        have hc : c ∈ (a :: l).filter (fun d => key d = key c)
          ↔ c ∈ (b :: l').filter fun d => key d = key c := by rw [h]
        simpa using hc
      -- Each list starts with an element of the least key, and both have the same elements.
      have hkey : key a = key b :=
        le_antisymm (key_le_of_mem hl ((hmem b).mpr List.mem_cons_self))
          (key_le_of_mem hl' ((hmem a).mp List.mem_cons_self))
      have hheads := h (key a)
      rw [List.filter_cons_of_pos (by simp), List.filter_cons_of_pos (by simp [hkey])] at hheads
      obtain rfl := (List.cons.inj hheads).1
      refine congrArg (a :: ·) (eq_of_filter_key_eq hl.of_cons hl'.of_cons fun k => ?_)
      have hk := h k
      rw [List.filter_cons, List.filter_cons] at hk
      split at hk
      · exact (List.cons.inj hk).2
      · exact hk

theorem sortByKey_eq_iff {l l' : List α} : sortByKey key l = sortByKey key l'
    ↔ ∀ k, (l.filter fun a => key a = k) = l'.filter fun a => key a = k := by
  constructor
  · intro h k
    rw [← filter_sortByKey l, h, filter_sortByKey]
  · intro h
    refine eq_of_filter_key_eq (pairwise_sortByKey l) (pairwise_sortByKey l') fun k => ?_
    rw [filter_sortByKey, filter_sortByKey, h]

theorem sortByKey_append (l l' : List α) :
    sortByKey key (l ++ l') = sortByKey key (sortByKey key l ++ sortByKey key l') := by
  rw [sortByKey_eq_iff]
  intro k
  rw [List.filter_append, List.filter_append, filter_sortByKey, filter_sortByKey]

theorem sortByKey_eq_self_iff {l : List α} :
    sortByKey key l = l ↔ l.Pairwise fun a b => key a ≤ key b := by
  constructor
  · intro h
    rw [← h]
    exact pairwise_sortByKey l
  · exact sortByKey_of_pairwise

/-! ### Places -/

/-- The sort lists the places of the elements by key and, where keys are the same, in order. -/
theorem sortByKey_eq_ofFn (l : List α) :
    sortByKey key l = List.ofFn fun i => l[Tuple.sort (fun i : Fin l.length => key l[i]) i] := by
  let keyAt (i : Fin l.length) : β := key l[i]
  let σ : Equiv.Perm (Fin l.length) := Tuple.sort keyAt
  obtain ⟨hmonotone, hstable⟩ := Tuple.eq_sort_iff.mp (rfl : σ = Tuple.sort keyAt)
  have hplaced := pairwise_mergeSort_stable (key_le_trans keyAt) (key_le_total keyAt)
    (List.pairwise_lt_finRange l.length)
  have hsorted : (List.ofFn σ).Pairwise fun i j => decide (keyAt i ≤ keyAt j) = true
      ∧ (decide (keyAt j ≤ keyAt i) = true → i < j) := by
    rw [List.pairwise_ofFn]
    intro i j hij
    have hle : keyAt (σ i) ≤ keyAt (σ j) := hmonotone hij.le
    exact ⟨decide_eq_true hle,
      fun hge => hstable i j hij (le_antisymm hle (of_decide_eq_true hge))⟩
  have hperm : ((List.finRange l.length).mergeSort fun i j => keyAt i ≤ keyAt j).Perm
      (List.ofFn σ) := by
    rw [List.ofFn_eq_map]
    exact (List.mergeSort_perm _ _).trans σ.map_finRange_perm.symm
  -- No two places can each come before the other, so both lists hold the places in one order.
  have hplaces := List.Perm.eq_of_pairwise
    (fun i j _ _ hij hji => absurd (hij.2 hji.1) (lt_asymm (hji.2 hij.1))) hplaced hsorted hperm
  have hmap : ((List.finRange l.length).mergeSort fun i j => keyAt i ≤ keyAt j).map l.get
      = ((List.finRange l.length).map l.get).mergeSort fun a b => key a ≤ key b :=
    List.map_mergeSort fun _ _ _ _ => rfl
  rw [List.map_get_finRange, hplaces, List.map_ofFn] at hmap
  exact hmap.symm

end SortByKey

namespace Report

/-! ## The line as a key -/

/-- The line of a finding; none is less than any. -/
def lineKey (f : Finding) : WithBot ℕ := f.line.elim ⊥ WithBot.some

theorem lineKey_le_iff {f g : Finding} : lineKey f ≤ lineKey g
    ↔ (g.line = none → f.line = none) ∧ ∀ m n, f.line = some m → g.line = some n → m ≤ n := by
  rw [lineKey, lineKey]
  rcases f.line with _ | m <;> rcases g.line with _ | n <;> simp

theorem lineKey_eq_iff {f g : Finding} : lineKey f = lineKey g ↔ f.line = g.line := by
  rw [lineKey, lineKey]
  rcases f.line with _ | m <;> rcases g.line with _ | n <;> simp

theorem precedes_eq (f g : Finding) : precedes f g = decide (lineKey f ≤ lineKey g) := by
  rw [Bool.eq_iff_iff, decide_eq_true_eq, lineKey_le_iff, precedes]
  rcases f.line with _ | m <;> rcases g.line with _ | n <;> simp

theorem byLine_eq_sortByKey (l : List Finding) : byLine l = sortByKey lineKey l := by
  have hprecedes : precedes = fun f g => decide (lineKey f ≤ lineKey g) :=
    funext fun f => funext fun g => precedes_eq f g
  rw [byLine, hprecedes, sortByKey]

/-! ## Reports -/

/-- The permutation puts the places of the findings in the order of a report. -/
structure Arranges (l : List Finding) (σ : Equiv.Perm (Fin l.length)) : Prop where
  unlocated_first : ∀ i j, i < j → l[σ j].line = none → l[σ i].line = none
  ascending : ∀ i j, i < j → ∀ m n, l[σ i].line = some m → l[σ j].line = some n → m ≤ n
  /-- Findings on one line, or without any, keep their order. -/
  stable : ∀ i j, i < j → l[σ i].line = l[σ j].line → σ i < σ j

theorem arranges_iff {l : List Finding} {σ : Equiv.Perm (Fin l.length)} :
    Arranges l σ ↔ σ = Tuple.sort fun i => lineKey l[i] := by
  rw [Tuple.eq_sort_iff, monotone_iff_forall_lt]
  constructor
  · intro h
    refine ⟨fun i j hij => lineKey_le_iff.mpr ?_, fun i j hij hkey => ?_⟩
    · exact ⟨h.unlocated_first i j hij, h.ascending i j hij⟩
    · exact h.stable i j hij (lineKey_eq_iff.mp hkey)
  · rintro ⟨hmonotone, hstable⟩
    have hle (i j) (hij : i < j) := lineKey_le_iff.mp (hmonotone hij)
    exact ⟨fun i j hij => (hle i j hij).1, fun i j hij => (hle i j hij).2,
      fun i j hij hline => hstable i j hij (lineKey_eq_iff.mpr hline)⟩

theorem arranges_refl_iff {l : List Finding} : Arranges l (Equiv.refl _) ↔ byLine l = l := by
  rw [byLine_eq_sortByKey, sortByKey_eq_self_iff, arranges_iff, eq_comm,
    Tuple.sort_eq_refl_iff_monotone, monotone_iff_forall_lt, List.pairwise_iff_getElem]
  exact ⟨fun h i j hi hj hij => @h ⟨i, hi⟩ ⟨j, hj⟩ hij, fun h i j hij => h i j i.2 j.2 hij⟩

/-- The second list holds the findings of the first in the order of a report. -/
def Arranged (l l' : List Finding) : Prop :=
  ∃ σ : Equiv.Perm (Fin l.length), Arranges l σ ∧ l' = List.ofFn fun i => l[σ i]

theorem arranged_iff {l l' : List Finding} : Arranged l l' ↔ l' = byLine l := by
  rw [byLine_eq_sortByKey, sortByKey_eq_ofFn]
  constructor
  · rintro ⟨σ, hσ, rfl⟩
    obtain rfl := arranges_iff.mp hσ
    rfl
  · intro h
    exact ⟨_, arranges_iff.mpr rfl, h⟩

theorem Arranged.perm {l l' : List Finding} (h : Arranged l l') : l'.Perm l := by
  rw [arranged_iff.mp h]
  exact List.mergeSort_perm _ _

theorem arranged_singleton_iff {f : Finding} {l : List Finding} : Arranged [f] l ↔ l = [f] := by
  rw [arranged_iff, byLine, List.mergeSort_singleton]

/-- **Sorting by line.** The report of a list puts its findings where exactly one permutation of
their places puts them: findings without a line come first, the others follow by ascending line,
and what has the same line, or none, stays in order. So exactly the lists that are in this
order already stay as they are, a report among them, and the report of two lists put together is
that of their reports. -/
theorem byLine_arranges (l : List Finding) :
    (∃ σ, (∀ τ, Arranges l τ ↔ τ = σ) ∧ byLine l = List.ofFn fun i => l[σ i])
      ∧ (byLine l = l ↔ Arranges l (Equiv.refl _))
      ∧ byLine (byLine l) = byLine l
      ∧ ∀ l', byLine (l ++ l') = byLine (byLine l ++ byLine l') := by
  refine ⟨⟨_, fun τ => arranges_iff, ?_⟩, arranges_refl_iff.symm, ?_, fun l' => ?_⟩
  · rw [byLine_eq_sortByKey, sortByKey_eq_ofFn]
  · rw [byLine_eq_sortByKey, byLine_eq_sortByKey]
    exact sortByKey_of_pairwise (pairwise_sortByKey l)
  · simp only [byLine_eq_sortByKey]
    exact sortByKey_append l l'

end Report

end ScriptSpelling
