import ScriptSpelling.Syntax.Source

/-!
# The first fault of a tree

The search for a fault passes over subtrees without a mark. That is right as long as marks are
never too few (`Node.Marked`); they may well be too many, and then the search comes back with
nothing from a marked subtree and goes on with the next sibling. Under this assumption it finds
what a search through the whole pre-order finds (`firstFault?_eq_find?`).

The main statement, `accept_of_marked`, says which trees are accepted, and what is reported of the
others.
-/

namespace ScriptSpelling.Syntax

namespace Node

/-- A node is marked if there is a fault in it or below it. A mark without a fault is allowed. -/
def Marked (root : Node) : Prop :=
  ∀ n ∈ root.preorder, (∃ m ∈ n.preorder, m.label.isFault = true) → n.label.hasError = true

instance (root : Node) : Decidable root.Marked :=
  inferInstanceAs (Decidable (∀ n ∈ root.preorder,
    (∃ m ∈ n.preorder, m.label.isFault = true) → n.label.hasError = true))

/-- The node is a fault of the tree, and no node before it in the pre-order is one. -/
def IsFirstFault (root n : Node) : Prop :=
  n.label.isFault = true ∧ ∃ before after, root.preorder = before ++ n :: after
    ∧ ∀ m ∈ before, m.label.isFault = false

theorem self_mem_preorder (n : Node) : n ∈ n.preorder := by
  cases n
  exact List.mem_cons_self

theorem isFault_eq_false_iff {n : Node} :
    n.label.isFault = false ↔ n.kind ≠ .error ∧ n.label.missing = false := by
  rw [Label.isFault, Bool.or_eq_false_iff, beq_eq_false_iff_ne]
  rfl

/-! ## The search -/

mutual

/-- Where marks are not too few, the search misses nothing by passing over what is not marked. -/
theorem firstFault?_eq_find? : ∀ {n : Node}, n.Marked →
    n.firstFault? = n.preorder.find? (·.label.isFault)
  | mk l cs, h => by
      have hchildren : ∀ n ∈ preorderAll cs,
          (∃ m ∈ n.preorder, m.label.isFault = true) → n.label.hasError = true :=
        fun n hn => h n (List.mem_cons_of_mem _ hn)
      rw [firstFault?, preorder, List.find?_cons, label]
      cases hfault : l.isFault with
      | true => rfl
      | false =>
          dsimp only
          rw [if_neg Bool.false_ne_true]
          cases hmark : l.hasError with
          | true => exact firstFaultIn?_eq_find? hchildren
          | false =>
              -- The search stops here; a fault further down would have marked this node.
              rw [if_neg Bool.false_ne_true, eq_comm, List.find?_eq_none]
              intro m hm hm'
              have hmarked := h (mk l cs) (self_mem_preorder _)
                ⟨m, List.mem_cons_of_mem _ hm, hm'⟩
              rw [label, hmark] at hmarked
              cases hmarked

theorem firstFaultIn?_eq_find? : ∀ {cs : List Node},
    (∀ n ∈ preorderAll cs, (∃ m ∈ n.preorder, m.label.isFault = true) → n.label.hasError = true) →
      firstFaultIn? cs = (preorderAll cs).find? (·.label.isFault)
  | [], _ => rfl
  | c :: cs, h => by
      rw [preorderAll] at h ⊢
      obtain ⟨hfirst, hmore⟩ := List.forall_mem_append.mp h
      rw [firstFaultIn?, firstFault?_eq_find? hfirst, List.find?_append]
      -- A child may be marked and hold no fault: then the search goes on with the next one.
      cases hfound : c.preorder.find? (·.label.isFault) with
      | none => exact firstFaultIn?_eq_find? hmore
      | some n => rfl

end

theorem find?_isFault_iff {root n : Node} :
    root.preorder.find? (·.label.isFault) = some n ↔ root.IsFirstFault n := by
  rw [List.find?_eq_some_iff_append, IsFirstFault]
  simp only [Bool.not_eq_true']

end Node

/-! ## Reports -/

theorem description_ne_missing {cause : FaultCause} (h : ∀ kind, cause ≠ .missing kind)
    (name : String) : cause.description ≠ "Missing " ++ name := by
  intro heq
  rw [← String.toList_inj, String.toList_append] at heq
  cases cause with
  | missing kind => exact h kind rfl
  | unexpected token =>
      have htoken : ("Unexpected token " ++ token).toList = "Missing ".toList ++ name.toList := heq
      rw [String.toList_append] at htoken
      exact absurd (List.cons.inj htoken).1 (by decide)
  | endOfInput => exact absurd (List.cons.inj heq).1 (by decide)

theorem description_faultAt_iff (source : List Char) (n : Node) :
    (faultAt source n).cause.description = "Missing " ++ n.kind.name
      ↔ n.label.missing = true := by
  unfold faultAt
  dsimp only
  cases n.label.missing with
  | true => exact ⟨fun _ => rfl, fun _ => rfl⟩
  | false =>
      rw [if_neg Bool.false_ne_true]
      refine iff_of_false (description_ne_missing ?_ _) Bool.false_ne_true
      intro kind
      split <;> exact fun heq => nomatch heq

/-- **The first fault.** Let no node with a fault in or below it be without a mark; other nodes may
be marked as well. The search finds the first fault in pre-order, as a search through all nodes
does, and finds none exactly if there is none. A tree is accepted exactly if it holds no text that
fits nowhere and no absent token. Otherwise the report gives the place of the first fault, counted
from one, and says that a token of its kind is missing exactly if it is an absent token. -/
theorem accept_of_marked (source : List Char) (root : Node) (h : root.Marked) :
    root.firstFault? = root.preorder.find? (·.label.isFault)
      ∧ (∀ n, root.firstFault? = some n ↔ root.IsFirstFault n)
      ∧ (root.firstFault? = none
          ↔ ∀ n ∈ root.preorder, n.kind ≠ .error ∧ n.label.missing = false)
      ∧ ((∃ tree, SourceTree.accept source root = .ok tree)
          ↔ ∀ n ∈ root.preorder, n.kind ≠ .error ∧ n.label.missing = false)
      ∧ (∀ tree, SourceTree.accept source root = .ok tree → tree = ⟨source, root⟩)
      ∧ ∀ fault, SourceTree.accept source root = .error fault → ∃ n, root.IsFirstFault n
          ∧ fault.line = some (n.label.start.row + 1)
          ∧ fault.column = some (n.label.start.column + 1)
          ∧ (fault.cause.description = "Missing " ++ n.kind.name ↔ n.label.missing = true) := by
  have hsearch := Node.firstFault?_eq_find? h
  have hsome : ∀ n, root.firstFault? = some n ↔ root.IsFirstFault n := by
    intro n
    rw [hsearch, Node.find?_isFault_iff]
  have hnone : root.firstFault? = none
      ↔ ∀ n ∈ root.preorder, n.kind ≠ .error ∧ n.label.missing = false := by
    rw [hsearch, List.find?_eq_none]
    simp only [Bool.not_eq_true, Node.isFault_eq_false_iff]
  refine ⟨hsearch, hsome, hnone, ?_, ?_, ?_⟩
  · rw [← hnone, SourceTree.accept]
    cases root.firstFault? <;> simp
  · intro tree htree
    rw [SourceTree.accept] at htree
    split at htree
    · cases htree
    · exact (Except.ok.inj htree).symm
  · intro fault hfault
    rw [SourceTree.accept] at hfault
    split at hfault
    · rename_i n hn
      obtain rfl := Except.error.inj hfault
      exact ⟨n, (hsome n).mp hn, rfl, rfl, description_faultAt_iff source n⟩
    · cases hfault

/-- An absent semicolon on the second line. -/
def absentEnd : Node :=
  .mk { kind := .token ";", start := ⟨3, 1, 1⟩, stop := ⟨3, 1, 1⟩, missing := true
        hasError := true } []

/-- The tree of `;`, and of `x)` on the next line. The first statement is marked without reason, the
second lacks its end, and then there is text that fits nowhere. -/
def unendedStatement : Node :=
  .mk { kind := .program, start := .zero, stop := ⟨4, 1, 2⟩, hasError := true }
    [.mk { kind := .emptyStatement, start := .zero, stop := ⟨1, 0, 1⟩, hasError := true }
      [.mk { kind := .token ";", start := .zero, stop := ⟨1, 0, 1⟩ } []],
      .mk { kind := .expressionStatement, start := ⟨2, 1, 0⟩, stop := ⟨3, 1, 1⟩, hasError := true }
        [.mk { kind := .identifier, start := ⟨2, 1, 0⟩, stop := ⟨3, 1, 1⟩ } [], absentEnd],
      .mk { kind := .error, start := ⟨3, 1, 1⟩, stop := ⟨4, 1, 2⟩, hasError := true }
        [.mk { kind := .token ")", start := ⟨3, 1, 1⟩, stop := ⟨4, 1, 2⟩ } []]]

/-- The search goes on after the first statement, and stops inside the second. -/
theorem accept_of_marked_unended :
    unendedStatement.Marked
      ∧ unendedStatement.IsFirstFault absentEnd
      ∧ SourceTree.accept ";\nx)".toList unendedStatement
        = .error ⟨.missing (.token ";"), some 2, some 2⟩ := by
  have hmarked : unendedStatement.Marked := by decide
  obtain ⟨-, hsome, -⟩ := accept_of_marked ";\nx)".toList unendedStatement hmarked
  exact ⟨hmarked, (hsome absentEnd).mp rfl, rfl⟩

end ScriptSpelling.Syntax
