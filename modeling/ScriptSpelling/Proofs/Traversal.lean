import ScriptSpelling.Syntax.Source

/-!
# A walk with a cursor visits the pre-order

`collect` moves a cursor through a tree with a budget of moves; `Node.preorder` lists the nodes
by recursion. The two agree (`collect_eq_filterMap`), so a statement about the selected nodes of
a source is one about a filtered list.

The invariant of the walk is `Cursor.ahead`: the nodes from the focus on, read off the focus and
the siblings after it on every level. A move to the next node drops the first of them and
nothing else (`ahead_next`), whichever of the three moves it is made of.
-/

namespace ScriptSpelling.Syntax

/-! ## Pre-order and size -/

namespace Node

mutual

theorem length_preorder : ∀ n : Node, n.preorder.length = n.size
  | mk l cs => by
      rw [preorder, List.length_cons, length_preorderAll cs, size]

theorem length_preorderAll : ∀ cs : List Node, (preorderAll cs).length = sizeAll cs
  | [] => rfl
  | c :: cs => by
      rw [preorderAll, List.length_append, length_preorder c, length_preorderAll cs, sizeAll]

end

end Node

namespace Cursor

/-! ## The nodes that are still to be visited -/

/-- The nodes after a subtree in pre-order, where `path` leads from it to the root: on each level
the later siblings with all that is below them, the innermost level first. -/
def upcoming : List Crumb → List Node
  | [] => []
  | crumb :: path => Node.preorderAll crumb.after ++ upcoming path

/-- The nodes from the focus on, in pre-order. -/
def ahead (c : Cursor) : List Node := c.focus.preorder ++ upcoming c.path

theorem ahead_root (tree : Node) : (root tree).ahead = tree.preorder := by
  simp [ahead, root, upcoming]

/-- Climbing finds the first node after the focused subtree, and fails only when there is none.
The parent is rebuilt on the way, but nothing before the focus is looked at again. -/
theorem upcoming_eq_climb : ∀ (path : List Crumb) (focus : Node) (fuel : Nat),
    path.length ≤ fuel →
      upcoming path = ((climb fuel ⟨focus, path⟩).map ahead).getD []
  | [], focus, fuel, _ => by
      rw [climb.eq_def]
      cases fuel <;> rfl
  | ⟨l, before, []⟩ :: path, focus, 0, hfuel => by simp at hfuel
  | ⟨l, before, []⟩ :: path, focus, fuel + 1, hfuel => by
      have hpath : path.length ≤ fuel := by simpa using hfuel
      rw [climb.eq_def]
      simp only [nextSibling?, parent?, upcoming, Node.preorderAll, List.nil_append]
      exact upcoming_eq_climb path _ fuel hpath
  | ⟨l, before, next :: more⟩ :: path, focus, fuel, _ => by
      rw [climb.eq_def]
      simp [nextSibling?, upcoming, ahead, Node.preorderAll]

theorem ahead_next (c : Cursor) : c.ahead = c.focus :: (c.next?.map ahead).getD [] := by
  obtain ⟨⟨l, cs⟩, path⟩ := c
  cases cs with
  | nil =>
      have hclimb := upcoming_eq_climb path (.mk l []) path.length (Nat.le_refl _)
      simp only [ahead, Node.preorder, Node.preorderAll, next?, firstChild?, List.cons_append,
        List.nil_append, List.cons.injEq, true_and]
      exact hclimb
  | cons first more =>
      simp [ahead, Node.preorder, Node.preorderAll, next?, firstChild?, upcoming]

/-! ## The walk -/

theorem collectFrom_zero {α : Type} (keep : Node → Option α) (c : Cursor) :
    collectFrom keep 0 c = (keep c.focus).toList := by
  rw [collectFrom.eq_def]
  cases hkeep : keep c.focus <;> simp [hkeep]

theorem collectFrom_succ {α : Type} (keep : Node → Option α) (fuel : Nat) (c : Cursor) :
    collectFrom keep (fuel + 1) c
      = (keep c.focus).toList ++ (c.next?.map (collectFrom keep fuel)).getD [] := by
  rw [collectFrom.eq_def]
  cases hnext : c.next? <;> cases hkeep : keep c.focus <;> simp [hnext, hkeep]

/-- A walk with enough moves sees every node ahead, each once and in order. -/
theorem collectFrom_eq {α : Type} (keep : Node → Option α) :
    ∀ (fuel : Nat) (c : Cursor), c.ahead.length ≤ fuel + 1 →
      collectFrom keep fuel c = c.ahead.filterMap keep := by
  intro fuel
  induction fuel with
  | zero =>
      intro c hlen
      rw [ahead_next] at hlen ⊢
      have hnil : (c.next?.map ahead).getD [] = [] := by simpa using hlen
      rw [collectFrom_zero, hnil, List.filterMap_cons]
      cases keep c.focus <;> rfl
  | succ fuel ih =>
      intro c hlen
      rw [ahead_next] at hlen ⊢
      have hwalk : (c.next?.map (collectFrom keep fuel)).getD []
          = ((c.next?.map ahead).getD []).filterMap keep := by
        cases hnext : c.next? with
        | none => rfl
        | some d =>
            rw [hnext] at hlen
            exact ih d (by simpa using hlen)
      rw [collectFrom_succ, hwalk, List.filterMap_cons]
      cases keep c.focus <;> rfl

end Cursor

theorem collect_eq_filterMap {α : Type} (keep : Node → Option α) (tree : Node) :
    collect keep tree = tree.preorder.filterMap keep := by
  have hlen : (Cursor.root tree).ahead.length ≤ tree.size + 1 := by
    rw [Cursor.ahead_root, Node.length_preorder]
    exact Nat.le_succ _
  rw [collect, Cursor.collectFrom_eq keep _ _ hlen, Cursor.ahead_root]

end ScriptSpelling.Syntax
