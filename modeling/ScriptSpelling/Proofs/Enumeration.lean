import Mathlib.Data.List.Forall2

/-!
# Lists read by position

A list that is built by nested filtering and joining can be read by position instead: go through
the positions in order and look up what stands there. The first section makes that step, the
second ties what is found to the positions where it is found, and the third is about the order of
the elements of a list without repeats.
-/

namespace ScriptSpelling

variable {α β : Type}

/-! ## Going through the positions -/

theorem flatMap_range_getElem? (f : Option α → List β) : ∀ l : List α,
    ((List.range l.length).flatMap fun i => f l[i]?) = l.flatMap fun a => f (some a)
  | [] => rfl
  | a :: l => by
      have ih := flatMap_range_getElem? f l
      rw [List.length_cons, List.range_succ_eq_map, List.flatMap_cons, List.flatMap_map,
        List.flatMap_cons]
      simp only [List.getElem?_cons_zero, List.getElem?_cons_succ, ih]

theorem filterMap_range_getElem? (f : α → Option β) (l : List α) :
    ((List.range l.length).filterMap fun i => l[i]?.bind f) = l.filterMap f := by
  rw [List.filterMap_eq_flatMap_toList, List.filterMap_eq_flatMap_toList]
  exact flatMap_range_getElem? (fun a? => (a?.bind f).toList) l

theorem flatMap_filterMap {γ : Type} (f : α → Option β) (g : β → List γ) : ∀ l : List α,
    (l.filterMap f).flatMap g = l.flatMap fun a => ((f a).map g).getD []
  | [] => rfl
  | a :: l => by
      rw [List.filterMap_cons, List.flatMap_cons, ← flatMap_filterMap f g l]
      cases f a <;> simp

theorem flatMap_if_nil (drop : α → Prop) [DecidablePred drop] (f : α → List β) : ∀ l : List α,
    (l.flatMap fun a => if drop a then [] else f a) = (l.filter fun a => ¬ drop a).flatMap f
  | [] => rfl
  | a :: l => by
      rw [List.flatMap_cons, List.filter_cons, flatMap_if_nil drop f l]
      by_cases ha : drop a <;> simp [ha]

/-! ## What is found and where -/

/-- The elements at which a look-up succeeds go with what it finds, one by one. -/
theorem forall₂_filterMap (f : α → Option β) : ∀ l : List α,
    List.Forall₂ (fun a b => f a = some b) (l.filter fun a => (f a).isSome) (l.filterMap f)
  | [] => .nil
  | a :: l => by
      have ih := forall₂_filterMap f l
      rw [List.filter_cons, List.filterMap_cons]
      cases hf : f a with
      | none => exact ih
      | some b => exact .cons hf ih

/-- Two look-ups that succeed at the same elements, with related results, find related lists. -/
theorem forall₂_filterMap_filterMap {γ : Type} {R : β → γ → Prop} {f : α → Option β}
    {g : α → Option γ} (h : ∀ a, Option.Rel R (f a) (g a)) : ∀ l : List α,
    List.Forall₂ R (l.filterMap f) (l.filterMap g)
  | [] => .nil
  | a :: l => by
      have ih := forall₂_filterMap_filterMap h l
      have ha := h a
      rw [List.filterMap_cons, List.filterMap_cons]
      cases hf : f a <;> cases hg : g a <;> rw [hf, hg] at ha
      · exact ih
      · cases ha
      · cases ha
      · cases ha with
        | some hrel => exact .cons hrel ih

/-! ## Lists without repeats -/

theorem nodup_eraseDups [BEq α] [LawfulBEq α] : ∀ l : List α, l.eraseDups.Nodup
  | [] => List.nodup_nil
  | a :: l => by
      rw [List.eraseDups_cons, List.nodup_cons]
      constructor
      · simp
      · exact nodup_eraseDups (l.filter fun b => !b == a)
termination_by l => l.length
decreasing_by exact Nat.lt_succ_of_le (List.length_filter_le ..)

theorem pairwise_idxOf_lt [BEq α] [LawfulBEq α] {l : List α} (h : l.Nodup) :
    l.Pairwise fun a b => l.idxOf a < l.idxOf b := by
  rw [List.pairwise_iff_getElem]
  intro i j hi hj hij
  rw [h.idxOf_getElem i hi, h.idxOf_getElem j hj]
  exact hij

end ScriptSpelling
