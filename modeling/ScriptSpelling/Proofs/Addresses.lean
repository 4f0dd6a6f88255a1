import Mathlib.Data.List.Forall2
import ScriptSpelling.Syntax.Tree

/-!
# Nodes by their addresses

Two nodes of a tree may be equal in all that is known of them, so a list of nodes alone does not
tell whether a node is listed twice or left out. An address does: the indices of the children to go
down to, from the root on. The pre-order lists the nodes by ascending address, where an address
comes before all that continue it (`forall₂_addresses`, `pairwise_addresses`), and each address of
the tree once (`mem_addresses`).
-/

namespace ScriptSpelling.Syntax.Node

def at? (n : Node) : List Nat → Option Node
  | [] => some n
  | i :: p => n.children[i]?.bind (·.at? p)

theorem at?_concat (i : Nat) : ∀ (p : List Nat) (n : Node),
    n.at? (p ++ [i]) = (n.at? p).bind (·.children[i]?)
  | [], n => by simp [at?]
  | j :: p, n => by
      simp only [List.cons_append, at?]
      cases n.children[j]? with
      | none => rfl
      | some c => exact at?_concat i p c

mutual

/-- The addresses of a tree, in pre-order. -/
def addresses : Node → List (List Nat)
  | mk _ cs => [] :: addressesFrom 0 cs

/-- The addresses below the children from index `i` on. -/
def addressesFrom (i : Nat) : List Node → List (List Nat)
  | [] => []
  | c :: cs => c.addresses.map (i :: ·) ++ addressesFrom (i + 1) cs

end

theorem exists_cons_of_mem_addressesFrom {p : List Nat} : ∀ {cs : List Node} {i : Nat},
    p ∈ addressesFrom i cs → ∃ j q, p = j :: q ∧ i ≤ j
  | [], i, h => by simp [addressesFrom] at h
  | c :: cs, i, h => by
      rw [addressesFrom, List.mem_append] at h
      rcases h with hfirst | hmore
      · obtain ⟨q, -, rfl⟩ := List.mem_map.mp hfirst
        exact ⟨i, q, rfl, Nat.le_refl i⟩
      · obtain ⟨j, q, rfl, hj⟩ := exists_cons_of_mem_addressesFrom hmore
        exact ⟨j, q, rfl, by omega⟩

theorem mem_addressesFrom {c : Node} {q : List Nat} (hq : q ∈ c.addresses) :
    ∀ {cs : List Node} {i j : Nat}, cs[j]? = some c → (i + j) :: q ∈ addressesFrom i cs
  | [], i, j, h => by simp at h
  | d :: cs, i, 0, h => by
      obtain rfl : d = c := by simpa using h
      exact List.mem_append_left _ (List.mem_map_of_mem hq)
  | d :: cs, i, j + 1, h => by
      have hmore : (i + 1 + j) :: q ∈ addressesFrom (i + 1) cs :=
        mem_addressesFrom hq (by simpa using h)
      rw [Nat.add_right_comm] at hmore
      exact List.mem_append_right _ hmore

mutual

/-- The addresses of a tree go with its nodes in pre-order, one by one. -/
theorem forall₂_addresses : ∀ n : Node,
    List.Forall₂ (fun p m => n.at? p = some m) n.addresses n.preorder
  | mk l cs => by
      rw [addresses, preorder]
      refine .cons rfl ((forall₂_addressesFrom cs 0).imp ?_)
      rintro p m ⟨j, q, c, rfl, hc, hm⟩
      rw [Nat.zero_add, at?, children, hc]
      exact hm

theorem forall₂_addressesFrom : ∀ (cs : List Node) (i : Nat),
    List.Forall₂ (fun p m => ∃ j q c, p = (i + j) :: q ∧ cs[j]? = some c ∧ c.at? q = some m)
      (addressesFrom i cs) (preorderAll cs)
  | [], i => .nil
  | c :: cs, i => by
      rw [addressesFrom, preorderAll]
      refine List.rel_append ?_ ?_
      · rw [List.forall₂_map_left_iff]
        exact (forall₂_addresses c).imp fun q m hm => ⟨0, q, c, rfl, rfl, hm⟩
      · refine (forall₂_addressesFrom cs (i + 1)).imp ?_
        rintro p m ⟨j, q, d, rfl, hd, hm⟩
        exact ⟨j + 1, q, d, by rw [Nat.add_right_comm, Nat.add_assoc], hd, hm⟩

end

theorem mem_addresses_of_at? {m : Node} : ∀ {p : List Nat} {n : Node},
    n.at? p = some m → p ∈ n.addresses
  | [], mk l cs, h => List.mem_cons_self
  | i :: p, mk l cs, h => by
      obtain ⟨c, hc, hm⟩ := Option.bind_eq_some_iff.mp h
      have hbelow := mem_addressesFrom (i := 0) (mem_addresses_of_at? hm) hc
      rw [Nat.zero_add] at hbelow
      exact List.mem_cons_of_mem _ hbelow

theorem mem_addresses {n : Node} {p : List Nat} : p ∈ n.addresses ↔ (n.at? p).isSome := by
  constructor
  · intro hp
    have hsome : List.Forall₂ (fun q m => (n.at? q).isSome ∧ n.at? q = some m)
        n.addresses n.preorder :=
      (forall₂_addresses n).imp fun q m hm => ⟨by rw [hm]; rfl, hm⟩
    exact ((List.forall₂_and_left _ _).mp hsome).1 p hp
  · intro hp
    obtain ⟨m, hm⟩ := Option.isSome_iff_exists.mp hp
    exact mem_addresses_of_at? hm

mutual

theorem pairwise_addresses : ∀ n : Node, n.addresses.Pairwise (· < ·)
  | mk l cs => by
      rw [addresses, List.pairwise_cons]
      refine ⟨?_, pairwise_addressesFrom cs 0⟩
      intro p hp
      obtain ⟨j, q, rfl, -⟩ := exists_cons_of_mem_addressesFrom hp
      exact List.nil_lt_cons j q

theorem pairwise_addressesFrom : ∀ (cs : List Node) (i : Nat),
    (addressesFrom i cs).Pairwise (· < ·)
  | [], i => .nil
  | c :: cs, i => by
      rw [addressesFrom, List.pairwise_append]
      refine ⟨?_, pairwise_addressesFrom cs (i + 1), ?_⟩
      · rw [List.pairwise_map]
        exact (pairwise_addresses c).imp fun h => List.cons_lt_cons_iff.mpr (.inr ⟨rfl, h⟩)
      · intro p hp q hq
        obtain ⟨r, -, rfl⟩ := List.mem_map.mp hp
        obtain ⟨j, s, rfl, hj⟩ := exists_cons_of_mem_addressesFrom hq
        exact List.cons_lt_cons_iff.mpr (.inl hj)

end

end ScriptSpelling.Syntax.Node
