import Mathlib.Logic.Function.Iterate
import ScriptSpelling.Proofs.Addresses
import ScriptSpelling.Proofs.Enumeration
import ScriptSpelling.Proofs.ReaderInvariant
import ScriptSpelling.Proofs.Traversal

/-!
# Two nested loops collect the nodes of a tree

The nodes of a kind are collected by a walk with a cursor: an outer loop looks at a node and goes
down, an inner loop goes up until there is a next sibling. Here the walk is written as a machine
that makes one round of a loop after the other, over any cursor whose moves do what they are named
for (`Walker.MovesIn`). Nothing else is known of the cursor, and nothing bounds the walk.

The walk ends all the same. What a subtree takes is known exactly (`tour`): one round to look at
each of its nodes, and one to climb from each but its root. The induction is on the tree and not on
the walk, so no measure on the positions of a cursor is needed. At the end the walk has what
`collect` gives (`rounds_root`), for every cursor; the cursor that `collect` uses is one of them
(`Cursor.movesIn`).

The main statement, `nodesOfKind_walk`, adds what the collected nodes are.
-/

namespace ScriptSpelling.Syntax

variable {σ α : Type}

/-! ## Cursors and their moves -/

/-- A cursor as a walk uses it: the node it is on, and three moves that tell whether they were
made. -/
structure Walker (σ : Type) where
  node : σ → Node
  toFirstChild : σ → Bool × σ
  toNextSibling : σ → Bool × σ
  toParent : σ → Bool × σ

/-- A move from the address `here` to the address `there`. It is made if the tree has a node there;
otherwise it is refused, and nothing moves. -/
def Moves (tree : Node) (At : σ → List Nat → Prop) (here there : List Nat) (move : Bool × σ) :
    Prop :=
  if (tree.at? there).isSome then move.1 = true ∧ At move.2 there
  else move.1 = false ∧ At move.2 here

/-- The moves in the tree are what they are named for, where `At` tells the address of the node
that the cursor is on. The root has no sibling and no parent. -/
structure Walker.MovesIn (w : Walker σ) (tree : Node) (At : σ → List Nat → Prop) : Prop where
  node : ∀ {s p}, At s p → tree.at? p = some (w.node s)
  first_child : ∀ {s p}, At s p → Moves tree At p (p ++ [0]) (w.toFirstChild s)
  next_sibling : ∀ {s p i}, At s (p ++ [i]) →
    Moves tree At (p ++ [i]) (p ++ [i + 1]) (w.toNextSibling s)
  parent : ∀ {s p i}, At s (p ++ [i]) → Moves tree At (p ++ [i]) p (w.toParent s)
  root_sibling : ∀ {s}, At s [] → (w.toNextSibling s).1 = false ∧ At (w.toNextSibling s).2 []
  root_parent : ∀ {s}, At s [] → (w.toParent s).1 = false ∧ At (w.toParent s).2 []

theorem Moves.made {tree : Node} {At : σ → List Nat → Prop} {here there : List Nat}
    {move : Bool × σ} {n : Node} (h : Moves tree At here there move)
    (hthere : tree.at? there = some n) : ∃ s, move = (true, s) ∧ At s there := by
  rw [Moves, hthere, if_pos (by rfl)] at h
  exact ⟨move.2, Prod.ext h.1 rfl, h.2⟩

theorem Moves.refused {tree : Node} {At : σ → List Nat → Prop} {here there : List Nat}
    {move : Bool × σ} (h : Moves tree At here there move) (hthere : tree.at? there = none) :
    ∃ s, move = (false, s) ∧ At s here := by
  rw [Moves, hthere, if_neg (by simp)] at h
  exact ⟨move.2, Prod.ext h.1 rfl, h.2⟩

/-! ## The two loops -/

/-- How far a walk is, with what it has found. -/
inductive Walk (σ α : Type) where
  /-- Before a round of the outer loop. -/
  | look (s : σ) (found : List α)
  /-- Before a round of the inner loop. -/
  | climb (s : σ) (found : List α)
  | done (found : List α)

namespace Walker

/-- One round: the outer loop looks at the node and goes down if it can, the inner one goes on to
the next sibling or else up. Where it cannot go up, the walk is over. -/
def round (w : Walker σ) (keep : Node → Option α) : Walk σ α → Walk σ α
  | .look s found =>
    let found := found ++ (keep (w.node s)).toList
    match w.toFirstChild s with
    | (true, s) => .look s found
    | (false, s) => .climb s found
  | .climb s found =>
    match w.toNextSibling s with
    | (true, s) => .look s found
    | (false, s) =>
      match w.toParent s with
      | (true, s) => .climb s found
      | (false, _) => .done found
  | .done found => .done found

/-- The walk gets from `a` to `b` in exactly `k` rounds. -/
def Rounds (w : Walker σ) (keep : Node → Option α) (k : Nat) (a b : Walk σ α) : Prop :=
  (w.round keep)^[k] a = b

variable {w : Walker σ} {keep : Node → Option α} {tree : Node} {At : σ → List Nat → Prop}

theorem Rounds.trans {j k : Nat} {a b c : Walk σ α} (h : w.Rounds keep j a b)
    (h' : w.Rounds keep k b c) : w.Rounds keep (j + k) a c := by
  unfold Rounds at *
  rw [Nat.add_comm, Function.iterate_add_apply, h, h']

theorem Rounds.single {a b : Walk σ α} (h : w.round keep a = b) : w.Rounds keep 1 a b := h

variable (keep)

theorem round_look_down {s : σ} {p : List Nat} {l : Label} {c : Node} {cs : List Node}
    (h : w.MovesIn tree At) (hs : At s p) (hnode : tree.at? p = some (.mk l (c :: cs)))
    (found : List α) :
    ∃ s', At s' (p ++ [0])
      ∧ w.round keep (.look s found) = .look s' (found ++ (keep (.mk l (c :: cs))).toList) := by
  have hthere : tree.at? (p ++ [0]) = some c := by
    rw [Node.at?_concat, hnode]
    rfl
  obtain ⟨s', hmove, hs'⟩ := (h.first_child hs).made hthere
  obtain hfocus := Option.some.inj ((h.node hs).symm.trans hnode)
  exact ⟨s', hs', by simp [round, hmove, hfocus]⟩

theorem round_look_leaf {s : σ} {p : List Nat} {l : Label} (h : w.MovesIn tree At) (hs : At s p)
    (hnode : tree.at? p = some (.mk l [])) (found : List α) :
    ∃ s', At s' p
      ∧ w.round keep (.look s found) = .climb s' (found ++ (keep (.mk l [])).toList) := by
  have hthere : tree.at? (p ++ [0]) = none := by
    rw [Node.at?_concat, hnode]
    rfl
  obtain ⟨s', hmove, hs'⟩ := (h.first_child hs).refused hthere
  obtain hfocus := Option.some.inj ((h.node hs).symm.trans hnode)
  exact ⟨s', hs', by simp [round, hmove, hfocus]⟩

theorem round_climb_next {s : σ} {p : List Nat} {i : Nat} {n : Node} (h : w.MovesIn tree At)
    (hs : At s (p ++ [i])) (hnext : tree.at? (p ++ [i + 1]) = some n) (found : List α) :
    ∃ s', At s' (p ++ [i + 1]) ∧ w.round keep (.climb s found) = .look s' found := by
  obtain ⟨s', hmove, hs'⟩ := (h.next_sibling hs).made hnext
  exact ⟨s', hs', by simp [round, hmove]⟩

theorem round_climb_up {s : σ} {p : List Nat} {i : Nat} (h : w.MovesIn tree At)
    (hs : At s (p ++ [i])) (hlast : tree.at? (p ++ [i + 1]) = none) (found : List α) :
    ∃ s', At s' p ∧ w.round keep (.climb s found) = .climb s' found := by
  obtain ⟨s₁, hstay, hs₁⟩ := (h.next_sibling hs).refused hlast
  have hparent : ∃ n, tree.at? p = some n := by
    have hnode := h.node hs
    rw [Node.at?_concat] at hnode
    obtain ⟨n, hn, -⟩ := Option.bind_eq_some_iff.mp hnode
    exact ⟨n, hn⟩
  obtain ⟨n, hn⟩ := hparent
  obtain ⟨s₂, hup, hs₂⟩ := (h.parent hs₁).made hn
  exact ⟨s₂, hs₂, by simp [round, hstay, hup]⟩

theorem round_climb_root {s : σ} (h : w.MovesIn tree At) (hs : At s []) (found : List α) :
    w.round keep (.climb s found) = .done found := by
  obtain ⟨hstay, hs₁⟩ := h.root_sibling hs
  obtain ⟨hup, -⟩ := h.root_parent hs₁
  have hsibling : w.toNextSibling s = (false, (w.toNextSibling s).2) := Prod.ext hstay rfl
  have hparent : w.toParent (w.toNextSibling s).2
      = (false, (w.toParent (w.toNextSibling s).2).2) := Prod.ext hup rfl
  rw [round, hsibling]
  dsimp only
  rw [hparent]

/-! ## The walk through a subtree -/

theorem filterMap_preorder (l : Label) (cs : List Node) :
    (Node.mk l cs).preorder.filterMap keep
      = (keep (.mk l cs)).toList ++ (Node.preorderAll cs).filterMap keep := by
  rw [Node.preorder, List.filterMap_cons]
  cases keep (.mk l cs) <;> rfl

mutual

/-- A walk that comes to a node sees all nodes below it, and is about to climb from it then. -/
theorem tour (h : w.MovesIn tree At) : ∀ (n : Node) {s : σ} {p : List Nat} (found : List α),
    tree.at? p = some n → At s p →
      ∃ s', At s' p ∧ w.Rounds keep (1 + 2 * Node.sizeAll n.children) (.look s found)
        (.climb s' (found ++ n.preorder.filterMap keep))
  | .mk l [], s, p, found, hnode, hs => by
      obtain ⟨s', hs', hround⟩ := round_look_leaf keep h hs hnode found
      refine ⟨s', hs', ?_⟩
      rw [filterMap_preorder, Node.preorderAll, List.filterMap_nil, List.append_nil]
      exact Rounds.single hround
  | .mk l (c :: cs), s, p, found, hnode, hs => by
      obtain ⟨s₁, hs₁, hround⟩ := round_look_down keep h hs hnode found
      have hchildren : ∀ j, tree.at? (p ++ [0 + j]) = (c :: cs)[j]? := by
        intro j
        rw [Node.at?_concat, hnode, Nat.zero_add]
        rfl
      obtain ⟨s', hs', hrounds⟩ := tourAll h (c :: cs)
        (found ++ (keep (.mk l (c :: cs))).toList) hchildren hs₁
      refine ⟨s', hs', ?_⟩
      rw [filterMap_preorder, ← List.append_assoc]
      exact (Rounds.single hround).trans hrounds

/-- A walk that comes to a child sees it and the later ones, and is about to climb from the parent
then. -/
theorem tourAll (h : w.MovesIn tree At) : ∀ (cs : List Node) {s : σ} {p : List Nat} {i : Nat}
    (found : List α), (∀ j, tree.at? (p ++ [i + j]) = cs[j]?) → At s (p ++ [i]) →
      ∃ s', At s' p ∧ w.Rounds keep (2 * Node.sizeAll cs) (.look s found)
        (.climb s' (found ++ (Node.preorderAll cs).filterMap keep))
  | [], s, p, i, found, hchildren, hs => by
      -- The cursor is on the first of the children, so there is one.
      have hnode := hchildren 0
      rw [Nat.add_zero, h.node hs] at hnode
      cases hnode
  | c :: cs, s, p, i, found, hchildren, hs => by
      obtain ⟨s₁, hs₁, hbelow⟩ := tour h c found (hchildren 0) hs
      have hlater : ∀ j, tree.at? (p ++ [i + 1 + j]) = cs[j]? := by
        intro j
        rw [Nat.add_assoc, Nat.add_comm 1 j]
        exact hchildren (j + 1)
      have hsize : 2 * Node.sizeAll (c :: cs)
          = 1 + 2 * Node.sizeAll c.children + (1 + 2 * Node.sizeAll cs) := by
        obtain ⟨l, ds⟩ := c
        rw [Node.sizeAll, Node.size, Node.children]
        omega
      rw [hsize, Node.preorderAll, List.filterMap_append, ← List.append_assoc]
      -- From the last child the walk climbs to the parent; from another it goes on to the next one.
      cases cs with
      | nil =>
          obtain ⟨s', hs', hup⟩ := round_climb_up (w := w) keep h hs₁ (hlater 0)
            (found ++ c.preorder.filterMap keep)
          refine ⟨s', hs', hbelow.trans ?_⟩
          rw [Node.preorderAll, List.filterMap_nil, List.append_nil]
          exact Rounds.single hup
      | cons d ds =>
          obtain ⟨s₂, hs₂, hnext⟩ := round_climb_next (w := w) keep h hs₁ (hlater 0)
            (found ++ c.preorder.filterMap keep)
          obtain ⟨s', hs', hrest⟩ := tourAll h (d :: ds) (found ++ c.preorder.filterMap keep)
            hlater hs₂
          exact ⟨s', hs', hbelow.trans ((Rounds.single hnext).trans hrest)⟩

end

/-- The walk from the root is over after two rounds for each node, and has found what `collect`
gives. -/
theorem rounds_root {s : σ} (h : w.MovesIn tree At) (hs : At s []) :
    w.Rounds keep (2 * tree.size) (.look s []) (.done (collect keep tree)) := by
  obtain ⟨s', hs', hrounds⟩ := tour keep h tree [] rfl hs
  have hsize : 2 * tree.size = 1 + 2 * Node.sizeAll tree.children + 1 := by
    obtain ⟨l, cs⟩ := tree
    rw [Node.size, Node.children]
    omega
  rw [hsize, collect_eq_filterMap]
  exact hrounds.trans (Rounds.single (round_climb_root keep h hs' _))

end Walker

/-! ## The cursor of `collect` -/

namespace Cursor

/-- The cursor with its moves, which stay where they are when there is nothing to go to. -/
def walker : Walker Cursor where
  node := focus
  toFirstChild c := (c.firstChild?.isSome, c.firstChild?.getD c)
  toNextSibling c := (c.nextSibling?.isSome, c.nextSibling?.getD c)
  toParent c := (c.parent?.isSome, c.parent?.getD c)

/-- The tree around a subtree. -/
def around (n : Node) : List Crumb → Node
  | [] => n
  | crumb :: path => around (.mk crumb.label (crumb.before.reverse ++ n :: crumb.after)) path

def address (path : List Crumb) : List Nat := (path.map (·.before.length)).reverse

/-- The cursor is on the node of the tree at the address. -/
def Stands (tree : Node) (c : Cursor) (p : List Nat) : Prop :=
  around c.focus c.path = tree ∧ address c.path = p

theorem address_cons (crumb : Crumb) (path : List Crumb) :
    address (crumb :: path) = address path ++ [crumb.before.length] := by
  simp [address]

theorem at?_address : ∀ (path : List Crumb) (n : Node), (around n path).at? (address path) = some n
  | [], n => rfl
  | crumb :: path, n => by
      rw [around, address_cons, Node.at?_concat, at?_address path]
      simp [Node.children]

theorem at?_of_stands {tree : Node} {c : Cursor} {p : List Nat} (h : Stands tree c p) :
    tree.at? p = some c.focus := by
  obtain ⟨rfl, rfl⟩ := h
  exact at?_address c.path c.focus

theorem exists_crumb {tree : Node} {c : Cursor} {p : List Nat} {i : Nat}
    (h : Stands tree c (p ++ [i])) :
    ∃ crumb path, c.path = crumb :: path ∧ crumb.before.length = i ∧ address path = p := by
  obtain ⟨-, haddress⟩ := h
  cases hpath : c.path with
  | nil =>
      rw [hpath] at haddress
      exact absurd haddress.symm (by simp [address])
  | cons crumb path =>
      rw [hpath, address_cons] at haddress
      obtain ⟨hp, hi⟩ := List.append_inj' haddress rfl
      exact ⟨crumb, path, rfl, List.singleton_inj.mp hi, hp⟩

theorem path_eq_nil {tree : Node} {c : Cursor} (h : Stands tree c []) : c.path = [] := by
  obtain ⟨-, haddress⟩ := h
  simpa [address] using haddress

/-- The cursor does what its moves are named for. -/
theorem movesIn (tree : Node) : walker.MovesIn tree (Stands tree) where
  node := at?_of_stands
  first_child := by
    rintro ⟨⟨l, cs⟩, path⟩ p hs
    rw [Moves, Node.at?_concat, at?_of_stands hs]
    obtain ⟨htree, haddress⟩ := hs
    cases cs with
    | nil => exact ⟨rfl, htree, haddress⟩
    | cons first more =>
        refine ⟨rfl, htree, ?_⟩
        show address (⟨l, [], more⟩ :: path) = p ++ [0]
        rw [address_cons, ← haddress]
        rfl
  next_sibling := by
    rintro ⟨focus, path⟩ p i hs
    obtain ⟨⟨l, before, after⟩, path, rfl, rfl, rfl⟩ := exists_crumb hs
    have hparent : tree.at? (address path) = some (.mk l (before.reverse ++ focus :: after)) := by
      rw [← hs.1]
      exact at?_address path _
    have hthere : tree.at? (address path ++ [before.length + 1]) = after[0]? := by
      rw [Node.at?_concat, hparent, Option.bind_some, Node.children,
        List.getElem?_append_right (by simp)]
      simp
    rw [Moves, hthere]
    obtain ⟨htree, haddress⟩ := hs
    cases after with
    | nil => exact ⟨rfl, htree, haddress⟩
    | cons next more =>
        refine ⟨rfl, ?_, ?_⟩
        · rw [← htree]
          simp [walker, nextSibling?, around]
        · show address (⟨l, focus :: before, more⟩ :: path) = address path ++ [before.length + 1]
          exact address_cons _ _
  parent := by
    rintro ⟨focus, path⟩ p i hs
    obtain ⟨crumb, path, rfl, rfl, rfl⟩ := exists_crumb hs
    have hparent : tree.at? (address path)
        = some (.mk crumb.label (crumb.before.reverse ++ focus :: crumb.after)) := by
      rw [← hs.1]
      exact at?_address path _
    rw [Moves, hparent]
    exact ⟨rfl, hs.1, rfl⟩
  root_sibling := by
    rintro ⟨focus, path⟩ hs
    obtain rfl : path = [] := path_eq_nil hs
    exact ⟨rfl, hs⟩
  root_parent := by
    rintro ⟨focus, path⟩ hs
    obtain rfl : path = [] := path_eq_nil hs
    exact ⟨rfl, hs⟩

theorem stands_root (tree : Node) : Stands tree (.root tree) [] := ⟨rfl, rfl⟩

end Cursor

/-! ## Texts -/

/-- The range of the node holds the text: it starts and ends between characters. -/
def Label.Covers (l : Label) (source text : List Char) : Prop :=
  ∃ before after, source = before ++ text ++ after ∧ byteLength before = l.start.offset
    ∧ byteLength (before ++ text) = l.stop.offset

theorem exists_of_dropBytes? : ∀ {n : Nat} {cs rest : List Char}, dropBytes? n cs = some rest →
    ∃ before, cs = before ++ rest ∧ byteLength before = n
  | 0, cs, rest, h => ⟨[], by simpa [dropBytes?] using h, rfl⟩
  | n + 1, [], rest, h => by simp [dropBytes?] at h
  | n + 1, c :: cs, rest, h => by
      rw [dropBytes?] at h
      split at h
      · rename_i hle
        obtain ⟨before, rfl, hbefore⟩ := exists_of_dropBytes? h
        exact ⟨c :: before, rfl, by rw [byteLength_cons]; omega⟩
      · cases h

theorem exists_of_takeBytes? : ∀ {n : Nat} {cs text : List Char}, takeBytes? n cs = some text →
    ∃ after, cs = text ++ after ∧ byteLength text = n
  | 0, cs, text, h => by
      obtain rfl : [] = text := by simpa [takeBytes?] using h
      exact ⟨cs, rfl, rfl⟩
  | n + 1, [], text, h => by simp [takeBytes?] at h
  | n + 1, c :: cs, text, h => by
      rw [takeBytes?] at h
      split at h
      · rename_i hle
        obtain ⟨more, hmore, rfl⟩ := Option.map_eq_some_iff.mp h
        obtain ⟨after, rfl, hlength⟩ := exists_of_takeBytes? hmore
        exact ⟨after, rfl, by rw [byteLength_cons]; omega⟩
      · cases h

/-- The text of a node is what its range holds, unless the range ends before it starts. -/
theorem covers_iff {l : Label} {source text : List Char} :
    l.Covers source text ↔ textOf? source l = some text ∧ l.start.offset ≤ l.stop.offset := by
  constructor
  · rintro ⟨before, after, rfl, hstart, hstop⟩
    rw [byteLength_append] at hstop
    refine ⟨?_, by omega⟩
    have hlength : l.stop.offset - l.start.offset = byteLength text := by omega
    rw [textOf?, hlength, ← hstart, List.append_assoc, dropBytes?_byteLength, Option.bind_some,
      takeBytes?_byteLength]
  · rintro ⟨htext, hle⟩
    obtain ⟨rest, hdrop, htake⟩ := Option.bind_eq_some_iff.mp htext
    obtain ⟨before, rfl, hbefore⟩ := exists_of_dropBytes? hdrop
    obtain ⟨after, rfl, hlength⟩ := exists_of_takeBytes? htake
    refine ⟨before, after, (List.append_assoc ..).symm, hbefore, ?_⟩
    rw [byteLength_append]
    omega

/-! ## The nodes of a kind -/

/-- What is copied out of a tree for a node: its kind, the text in its range, and where it starts,
counted from one. -/
structure Node.CopiedAs (source : List Char) (n : Node) (found : SourceNode) : Prop where
  kind_eq : found.kind = n.kind.name
  text_eq : n.label.Covers source found.text.toList
  line_eq : found.line = n.label.start.row + 1
  column_eq : found.column = n.label.start.column + 1

/-- A node of one of the kinds, copied out of the tree. -/
def SourceTree.copy? (t : SourceTree) (names : List String) (n : Node) : Option SourceNode :=
  if names.contains n.kind.name then t.sourceNode? n else none

theorem SourceTree.exists_copiedAs {t : SourceTree} {n : Node} {text : List Char}
    (h : n.label.Covers t.source text) :
    ∃ found, t.sourceNode? n = some found ∧ n.CopiedAs t.source found := by
  have htext := (covers_iff.mp h).1
  refine ⟨⟨n.kind.name, String.ofList text, n.label.start.row + 1, n.label.start.column + 1⟩,
    by rw [sourceNode?, htext]; rfl, rfl, ?_, rfl, rfl⟩
  rwa [String.toList_ofList]

/-- No node of the kinds is lost when its text is taken, if every range is one of characters. -/
theorem SourceTree.forall₂_copiedAs {t : SourceTree}
    (h : ∀ n ∈ t.root.preorder, ∃ text, n.label.Covers t.source text) (names : List String) :
    List.Forall₂ (Node.CopiedAs t.source)
      (t.root.preorder.filter fun n => names.contains n.kind.name)
      (t.root.preorder.filterMap (t.copy? names)) := by
  -- Each node of the kinds has a text, so the copies are of the same nodes as the filter keeps.
  have hkept : (t.root.preorder.filter fun n => names.contains n.kind.name)
      = t.root.preorder.filter fun n => (t.copy? names n).isSome := by
    refine List.filter_congr fun n hn => ?_
    obtain ⟨text, htext⟩ := h n hn
    obtain ⟨found, hfound, -⟩ := exists_copiedAs htext
    rw [copy?, hfound]
    cases names.contains n.kind.name <;> rfl
  have hall : ∀ n ∈ t.root.preorder.filter fun n => (t.copy? names n).isSome,
      ∃ text, n.label.Covers t.source text := fun n hn => h n (List.mem_of_mem_filter hn)
  have hcopies := (List.forall₂_and_left _ _).mpr ⟨hall, forall₂_filterMap (t.copy? names) _⟩
  rw [hkept]
  refine hcopies.imp ?_
  rintro n found ⟨⟨text, htext⟩, hfound⟩
  obtain ⟨found', hfound', hcopied⟩ := exists_copiedAs htext
  rw [copy?] at hfound
  split at hfound
  · rw [hfound', Option.some.injEq] at hfound
    exact hfound ▸ hcopied
  · cases hfound

/-- **Nodes of some kinds.** Take any cursor on the root of a tree whose moves do what they are
named for, and let the range of every node start and end between characters of the source. Then the
two loops end, after two rounds for each node, with `nodesOfKind`. These are the nodes of the kinds
in pre-order, none left out, each with its kind, the text in its range and where it starts; and the
pre-order lists the nodes of the tree by ascending address, each address once. Comments are the
nodes of the one kind of this name. -/
theorem nodesOfKind_walk (w : Walker σ) (t : SourceTree) (At : σ → List Nat → Prop) (s : σ)
    (hmoves : w.MovesIn t.root At) (hroot : At s [])
    (hranges : ∀ n ∈ t.root.preorder, ∃ text, n.label.Covers t.source text)
    (names : List String) :
    w.Rounds (t.copy? names) (2 * t.root.size) (.look s []) (.done (t.nodesOfKind names))
      ∧ List.Forall₂ (Node.CopiedAs t.source)
          (t.root.preorder.filter fun n => names.contains n.kind.name) (t.nodesOfKind names)
      ∧ (∃ addresses : List (List Nat), addresses.Pairwise (· < ·)
          ∧ (∀ p, p ∈ addresses ↔ (t.root.at? p).isSome)
          ∧ List.Forall₂ (fun p n => t.root.at? p = some n) addresses t.root.preorder)
      ∧ t.comments = t.nodesOfKind ["comment"] := by
  have hnodes : t.nodesOfKind names = collect (t.copy? names) t.root := rfl
  refine ⟨?_, ?_, ?_, ?_⟩
  · rw [hnodes]
    exact Walker.rounds_root _ hmoves hroot
  · rw [hnodes, collect_eq_filterMap]
    exact SourceTree.forall₂_copiedAs hranges names
  · exact ⟨t.root.addresses, Node.pairwise_addresses _, fun _ => Node.mem_addresses,
      Node.forall₂_addresses _⟩
  · have hkeep : (fun n : Node => n.kind.name == "comment")
        = fun n => ["comment"].contains n.kind.name := by
      funext n
      rw [List.contains_cons, List.contains_nil, Bool.or_false]
    rw [SourceTree.comments, SourceTree.nodesOfKind, hkeep]

/-- The tree of `é.b.c`, where one member access holds another. -/
def nestedAccess : SourceTree where
  source := "é.b.c".toList
  root := .mk { kind := .memberExpression, start := .zero, stop := ⟨6, 0, 6⟩ }
    [.mk { kind := .memberExpression, start := .zero, stop := ⟨4, 0, 4⟩ }
      [.mk { kind := .identifier, start := .zero, stop := ⟨2, 0, 2⟩ } [],
        .mk { kind := .token ".", start := ⟨2, 0, 2⟩, stop := ⟨3, 0, 3⟩ } [],
        .mk { kind := .propertyIdentifier, start := ⟨3, 0, 3⟩, stop := ⟨4, 0, 4⟩ } []],
      .mk { kind := .token ".", start := ⟨4, 0, 4⟩, stop := ⟨5, 0, 5⟩ } [],
      .mk { kind := .propertyIdentifier, start := ⟨5, 0, 5⟩, stop := ⟨6, 0, 6⟩ } []]

/-- Both accesses are found with the cursor of `collect`, the outer one first. -/
theorem nodesOfKind_walk_nested :
    Cursor.walker.MovesIn nestedAccess.root (Cursor.Stands nestedAccess.root)
      ∧ Cursor.Stands nestedAccess.root (.root nestedAccess.root) []
      ∧ (∀ n ∈ nestedAccess.root.preorder, ∃ text, n.label.Covers nestedAccess.source text)
      ∧ Cursor.walker.Rounds (nestedAccess.copy? ["member_expression"]) 14
          (.look (.root nestedAccess.root) [])
          (.done [⟨"member_expression", "é.b.c", 1, 1⟩, ⟨"member_expression", "é.b", 1, 1⟩]) := by
  have hranges : ∀ n ∈ nestedAccess.root.preorder,
      ∃ text, n.label.Covers nestedAccess.source text := by
    have htexts : ∀ n ∈ nestedAccess.root.preorder,
        (textOf? nestedAccess.source n.label).isSome
          ∧ n.label.start.offset ≤ n.label.stop.offset := by decide
    intro n hn
    obtain ⟨htext, hle⟩ := htexts n hn
    obtain ⟨text, htext⟩ := Option.isSome_iff_exists.mp htext
    exact ⟨text, covers_iff.mpr ⟨htext, hle⟩⟩
  have hmoves := Cursor.movesIn nestedAccess.root
  have hroot := Cursor.stands_root nestedAccess.root
  refine ⟨hmoves, hroot, hranges, ?_⟩
  exact (nodesOfKind_walk Cursor.walker nestedAccess _ _ hmoves hroot hranges _).1

end ScriptSpelling.Syntax
