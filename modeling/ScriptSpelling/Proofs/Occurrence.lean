import ScriptSpelling.Proofs.Enumeration
import ScriptSpelling.Proofs.Exemption
import ScriptSpelling.Proofs.Traversal

/-!
# Each word occurrence is reported once or not at all

A check is a nest of joined lists: categories, their nodes, the words of a node. Here it is read
as one list of places instead. An `Occurrence` names a category, a place in the pre-order of the
tree and the index of a word; `Checker.occurrences` lists every place at which a word stands, and
`Checker.findingAt?` looks up what is reported there. The two give the findings of the whole check
(`check_ok_eq_filterMap`), which turns a statement about a check into one about a single place.

The main statement, `check_reports_each_occurrence_once`, says which places are reported and what
the finding at each of them carries, in terms of the tree, the words of a text, the exempt words
and the dictionary alone.
-/

namespace ScriptSpelling

open Syntax

/-! ## Places in a tree -/

/-- A place at which a word may stand: a node, looked at for a category, and a word of its text. -/
structure Occurrence where
  category : Category
  /-- The index of the node in the pre-order of the tree. -/
  node : Nat
  /-- The index of the word among those of the node. -/
  word : Nat
deriving Repr, DecidableEq

/-- The node is one of those that the category is about. -/
def Category.Selects (category : Category) (n : Node) : Prop :=
  match category.selector with
  | .kinds names => n.kind.name ∈ names
  | .comments => n.kind.name = "comment"

instance (category : Category) (n : Node) : Decidable (category.Selects n) := by
  unfold Category.Selects
  split <;> infer_instance

/-- The node at an index of the pre-order, if the category selects it. -/
def Category.nodeAt? (category : Category) (tree : SourceTree) (i : Nat) : Option SourceNode :=
  tree.root.preorder[i]?.bind fun n => if category.Selects n then tree.sourceNode? n else none

def Category.wordsAt (category : Category) (tree : SourceTree) (i : Nat) : List String :=
  (((category.nodeAt? tree i).bind category.text?).map Text.normalize).getD []

/-- The place holds the word `word` of a node with the text `raw`. -/
structure Occurrence.Holds (o : Occurrence) (tree : SourceTree) (node : SourceNode)
    (raw word : String) : Prop where
  node_at : o.category.nodeAt? tree o.node = some node
  text : o.category.text? node = some raw
  word_at : (Text.normalize raw)[o.word]? = some word

/-- Every place of the category at which a word stands, in tree order. -/
def Category.occurrences (category : Category) (tree : SourceTree) : List Occurrence :=
  (List.range tree.root.preorder.length).flatMap fun i =>
    (List.range (category.wordsAt tree i).length).map fun j => ⟨category, i, j⟩

theorem Category.select_eq_filterMap (category : Category) (tree : SourceTree) :
    category.select tree = tree.root.preorder.filterMap fun n =>
      if category.Selects n then tree.sourceNode? n else none := by
  have hselect : ∀ keep : Node → Bool, (∀ n, keep n = true ↔ category.Selects n) →
      tree.select keep = tree.root.preorder.filterMap fun n =>
        if category.Selects n then tree.sourceNode? n else none := by
    intro keep hkeep
    rw [SourceTree.select, collect_eq_filterMap]
    exact congrArg (List.filterMap · _) (funext fun n => if_congr (hkeep n) rfl rfl)
  cases category with
  | identifier => exact hselect _ fun n => List.contains_iff_mem
  | string => exact hselect _ fun n => List.contains_iff_mem
  | comment => exact hselect _ fun n => beq_iff_eq

/-- The nodes of a category, read off the pre-order index by index. -/
theorem Category.flatMap_select {β : Type} (category : Category) (tree : SourceTree)
    (f : SourceNode → List β) :
    (category.select tree).flatMap f
      = (List.range tree.root.preorder.length).flatMap fun i =>
          ((category.nodeAt? tree i).map f).getD [] := by
  rw [select_eq_filterMap, flatMap_filterMap]
  exact (flatMap_range_getElem? (fun n? => ((n?.bind fun n =>
    if category.Selects n then tree.sourceNode? n else none).map f).getD []) _).symm

theorem Occurrence.Holds.wordsAt {o : Occurrence} {tree : SourceTree} {node : SourceNode}
    {raw word : String} (h : o.Holds tree node raw word) :
    o.category.wordsAt tree o.node = Text.normalize raw := by
  simp [Category.wordsAt, h.node_at, h.text]

theorem Category.mem_occurrences {category : Category} {tree : SourceTree} {o : Occurrence} :
    o ∈ category.occurrences tree
      ↔ o.category = category ∧ ∃ node raw word, o.Holds tree node raw word := by
  simp only [occurrences, List.mem_flatMap, List.mem_map, List.mem_range]
  constructor
  · rintro ⟨i, -, j, hj, rfl⟩
    refine ⟨rfl, ?_⟩
    cases hnode : category.nodeAt? tree i with
    | none => simp [wordsAt, hnode] at hj
    | some node =>
        cases htext : category.text? node with
        | none => simp [wordsAt, hnode, htext] at hj
        | some raw =>
            have hj' : j < (Text.normalize raw).length := by
              simpa [wordsAt, hnode, htext] using hj
            exact ⟨node, raw, _, hnode, htext, List.getElem?_eq_getElem hj'⟩
  · rintro ⟨rfl, node, raw, word, h⟩
    have hnode : o.node < tree.root.preorder.length := by
      obtain ⟨n, hn, -⟩ := Option.bind_eq_some_iff.mp h.node_at
      exact (List.getElem?_eq_some_iff.mp hn).1
    refine ⟨o.node, hnode, o.word, ?_, rfl⟩
    rw [h.wordsAt]
    exact (List.getElem?_eq_some_iff.mp h.word_at).1

namespace Checker

/-! ## What is reported at a place -/

/-- A word of the category is to be reported: the category is checked, the text is not exempt, the
word is long enough, and it is unknown or known words are reported as well. -/
structure Due (c : Checker) (category : Category) (raw word : String) : Prop where
  enabled : category ∈ c.settings.categories
  not_exempt : ¬ c.skip.Exempts category raw
  long : c.settings.minLength ≤ word.length
  wanted : c.dictionary.knows word = false ∨ c.settings.showSuccesses = true

/-- What a finding for a word carries. -/
structure Carries (c : Checker) (category : Category) (node : SourceNode) (raw word : String)
    (f : Finding) : Prop where
  category_eq : f.category = some category
  word_eq : f.word = word
  text_eq : f.text = Text.trim raw
  line_eq : f.line = some node.line
  misspelled_eq : f.misspelled = !c.dictionary.knows word

/-- The finding for a word, once it is to be reported. -/
def findingFor (c : Checker) (category : Category) (node : SourceNode) (display word : String) :
    Finding where
  category := some category
  word := word
  text := display
  line := some node.line
  misspelled := !c.dictionary.knows word
  message :=
    if c.dictionary.knows word then "No misspelled word" else c.misspelling category display word

theorem finding?_eq (c : Checker) (category : Category) (node : SourceNode)
    (display word : String) :
    c.finding? category node display word
      = if c.settings.minLength ≤ word.length
          ∧ (c.dictionary.knows word = false ∨ c.settings.showSuccesses = true)
        then some (c.findingFor category node display word) else none := by
  by_cases hlen : word.length < c.settings.minLength
  · have hnot : ¬ c.settings.minLength ≤ word.length := by omega
    rw [finding?, if_pos hlen, if_neg (fun h => hnot h.1)]
  · have hle : c.settings.minLength ≤ word.length := by omega
    cases hknows : c.dictionary.knows word <;> cases hshow : c.settings.showSuccesses <;>
      simp [finding?, findingFor, hlen, hle, hknows, hshow]

/-- What is reported at a place. -/
def findingAt? (c : Checker) (tree : SourceTree) (o : Occurrence) : Option Finding :=
  (o.category.nodeAt? tree o.node).bind fun node =>
    (o.category.text? node).bind fun raw =>
      (Text.normalize raw)[o.word]?.bind fun word =>
        if c.skip.Exempts o.category raw then none
        else c.finding? o.category node (Text.trim raw) word

theorem findingAt?_of_holds {c : Checker} {tree : SourceTree} {o : Occurrence}
    {node : SourceNode} {raw word : String} (h : o.Holds tree node raw word) :
    c.findingAt? tree o
      = if c.skip.Exempts o.category raw then none
        else c.finding? o.category node (Text.trim raw) word := by
  simp only [findingAt?, h.node_at, h.text, h.word_at, Option.bind_some]

/-- What is reported at a place is about a word that stands there. -/
theorem exists_holds {c : Checker} {tree : SourceTree} {o : Occurrence} {f : Finding}
    (h : c.findingAt? tree o = some f) : ∃ node raw word, o.Holds tree node raw word := by
  obtain ⟨node, hnode, h⟩ := Option.bind_eq_some_iff.mp h
  obtain ⟨raw, hraw, h⟩ := Option.bind_eq_some_iff.mp h
  obtain ⟨word, hword, -⟩ := Option.bind_eq_some_iff.mp h
  exact ⟨node, raw, word, hnode, hraw, hword⟩

theorem findingAt?_of_not_holds {c : Checker} {tree : SourceTree} {o : Occurrence}
    (h : ¬ ∃ node raw word, o.Holds tree node raw word) : c.findingAt? tree o = none :=
  Option.eq_none_iff_forall_ne_some.mpr fun _ hf => h (exists_holds hf)

/-- The places of the checked categories, one category after the other. -/
def occurrences (c : Checker) (tree : SourceTree) : List Occurrence :=
  c.categories.flatMap fun category => category.occurrences tree

/-! ## A check as a look-up at every place -/

theorem checkNode_eq_filterMap {c : Checker} {category : Category} {tree : SourceTree} {i : Nat}
    {node : SourceNode} (h : category.nodeAt? tree i = some node) :
    c.checkNode category node
      = ((List.range (category.wordsAt tree i).length).map fun j =>
          (⟨category, i, j⟩ : Occurrence)).filterMap (c.findingAt? tree) := by
  rw [List.filterMap_map]
  cases htext : category.text? node with
  | none => simp [checkNode, htext, Category.wordsAt, h]
  | some raw =>
      have hwords : category.wordsAt tree i = Text.normalize raw := by
        simp [Category.wordsAt, h, htext]
      have hat : (c.findingAt? tree ∘ fun j => (⟨category, i, j⟩ : Occurrence))
          = fun j => (Text.normalize raw)[j]?.bind fun word =>
              if c.skip.Exempts category raw then none
              else c.finding? category node (Text.trim raw) word := by
        funext j
        simp only [Function.comp_apply, findingAt?, h, htext, Option.bind_some]
      rw [hwords, hat, filterMap_range_getElem?]
      rw [checkNode_of_text htext]
      by_cases hexempt : c.skip.Exempts category raw <;> simp [hexempt]

theorem checkTree_eq_filterMap (c : Checker) (tree : SourceTree) (category : Category) :
    c.checkTree tree category = (category.occurrences tree).filterMap (c.findingAt? tree) := by
  rw [checkTree, Category.flatMap_select, Category.occurrences, List.filterMap_flatMap]
  refine congrArg (List.flatMap · _) (funext fun i => ?_)
  cases hnode : category.nodeAt? tree i with
  | none => simp [Category.wordsAt, hnode]
  | some node => exact checkNode_eq_filterMap hnode

/-- A check looks up every place of its categories, in order. -/
theorem check_ok_eq_filterMap (c : Checker) (tree : SourceTree) :
    c.check (.ok tree) = (c.occurrences tree).filterMap (c.findingAt? tree) := by
  rw [check, occurrences, List.filterMap_flatMap]
  exact congrArg (List.flatMap · _) (funext fun category => checkTree_eq_filterMap c tree category)

/-! ## Checkers with the same places

Two checkers with the same exempt words look at the same words, so how their findings for a word
are related is how all their findings are. -/

section SamePlaces

variable {c c' : Checker}

theorem findingAt?_related_of_holds {R : Option Finding → Option Finding → Prop}
    (hskip : c'.skip = c.skip) (hnone : R none none) {tree : SourceTree}
    (h : ∀ (o : Occurrence) (node : SourceNode) (raw word : String), o.Holds tree node raw word →
      R (c.finding? o.category node (Text.trim raw) word)
        (c'.finding? o.category node (Text.trim raw) word))
    (o : Occurrence) : R (c.findingAt? tree o) (c'.findingAt? tree o) := by
  by_cases hplace : ∃ node raw word, o.Holds tree node raw word
  · obtain ⟨node, raw, word, hholds⟩ := hplace
    rw [findingAt?_of_holds hholds, findingAt?_of_holds hholds, hskip]
    split
    · exact hnone
    · exact h o node raw word hholds
  · rw [findingAt?_of_not_holds hplace, findingAt?_of_not_holds hplace]
    exact hnone

theorem findingAt?_related {R : Option Finding → Option Finding → Prop} (hskip : c'.skip = c.skip)
    (hnone : R none none)
    (h : ∀ category node display word,
      R (c.finding? category node display word) (c'.finding? category node display word))
    (tree : SourceTree) (o : Occurrence) : R (c.findingAt? tree o) (c'.findingAt? tree o) :=
  findingAt?_related_of_holds hskip hnone (fun o node raw word _ =>
    h o.category node (Text.trim raw) word) o

theorem occurrences_congr (h : c'.settings.categories = c.settings.categories)
    (tree : SourceTree) : c'.occurrences tree = c.occurrences tree := by
  rw [occurrences, occurrences, categories, categories, h]

/-- If one checker reports a word as the other does, or refuses the finding, so it does with the
findings of a whole check. -/
theorem check_eq_filter_of_finding? {p : Finding → Bool} (hskip : c'.skip = c.skip)
    (hcategories : c'.settings.categories = c.settings.categories)
    (hfailure : ∀ fault, c'.failure fault = c.failure fault ∧ p (c.failure fault) = true)
    (h : ∀ category node display word, c'.finding? category node display word
      = (c.finding? category node display word).filter p)
    (outcome : Except SyntaxFault SourceTree) :
    c'.check outcome = (c.check outcome).filter p := by
  cases outcome with
  | error fault =>
      obtain ⟨hsame, hpasses⟩ := hfailure fault
      rw [check, check, hsame, List.filter_cons, if_pos hpasses]
      rfl
  | ok tree =>
      rw [check_ok_eq_filterMap, check_ok_eq_filterMap, List.filter_filterMap,
        occurrences_congr hcategories]
      exact congrArg (List.filterMap · _) (funext fun o =>
        findingAt?_related (R := fun f f' => f' = f.filter p) hskip rfl h tree o)

end SamePlaces

/-! ## The order of the places -/

/-- The place `o` comes before `o'`: its category is mentioned first, or within one category its
node comes first in the tree, or within one node its word comes first. -/
def Precedes (c : Checker) (o o' : Occurrence) : Prop :=
  c.categories.idxOf o.category < c.categories.idxOf o'.category
    ∨ (o.category = o'.category
      ∧ (o.node < o'.node ∨ (o.node = o'.node ∧ o.word < o'.word)))

theorem Precedes.ne {c : Checker} {o o' : Occurrence} (h : c.Precedes o o') : o ≠ o' := by
  rintro rfl
  rcases h with hcat | ⟨-, hnode | ⟨-, hword⟩⟩
  · exact Nat.lt_irrefl _ hcat
  · exact Nat.lt_irrefl _ hnode
  · exact Nat.lt_irrefl _ hword

theorem mem_occurrences {c : Checker} {tree : SourceTree} {o : Occurrence} :
    o ∈ c.occurrences tree
      ↔ o.category ∈ c.settings.categories ∧ ∃ node raw word, o.Holds tree node raw word := by
  simp only [occurrences, List.mem_flatMap, Category.mem_occurrences, categories,
    List.mem_eraseDups]
  constructor
  · rintro ⟨category, hcat, rfl, hholds⟩
    exact ⟨hcat, hholds⟩
  · rintro ⟨hcat, hholds⟩
    exact ⟨o.category, hcat, rfl, hholds⟩

theorem pairwise_category_occurrences (c : Checker) (category : Category) (tree : SourceTree) :
    (category.occurrences tree).Pairwise c.Precedes := by
  rw [Category.occurrences, List.pairwise_flatMap]
  constructor
  · intro i _
    rw [List.pairwise_map]
    exact List.pairwise_lt_range.imp fun hj => .inr ⟨rfl, .inr ⟨rfl, hj⟩⟩
  · refine List.pairwise_lt_range.imp fun {i i'} hi o ho o' ho' => ?_
    obtain ⟨j, -, rfl⟩ := List.mem_map.mp ho
    obtain ⟨j', -, rfl⟩ := List.mem_map.mp ho'
    exact .inr ⟨rfl, .inl hi⟩

theorem pairwise_occurrences (c : Checker) (tree : SourceTree) :
    (c.occurrences tree).Pairwise c.Precedes := by
  rw [occurrences, List.pairwise_flatMap]
  constructor
  · intro category _
    exact pairwise_category_occurrences c category tree
  · have hcategories : c.categories.Nodup := nodup_eraseDups _
    refine (pairwise_idxOf_lt hcategories).imp fun {k k'} hk o ho o' ho' => ?_
    obtain ⟨rfl, -⟩ := Category.mem_occurrences.mp ho
    obtain ⟨rfl, -⟩ := Category.mem_occurrences.mp ho'
    exact .inl hk

/-! ## The reported places -/

/-- What a look-up finds is due, and it carries what it should. -/
theorem findingAt?_eq_some {c : Checker} {tree : SourceTree} {o : Occurrence} {f : Finding}
    (hcat : o.category ∈ c.settings.categories) (h : c.findingAt? tree o = some f) :
    ∃ node raw word, o.Holds tree node raw word ∧ c.Due o.category raw word
      ∧ c.Carries o.category node raw word f := by
  obtain ⟨node, raw, word, hholds⟩ := exists_holds h
  refine ⟨node, raw, word, hholds, ?_⟩
  rw [findingAt?_of_holds hholds] at h
  by_cases hexempt : c.skip.Exempts o.category raw
  · simp [hexempt] at h
  · rw [if_neg hexempt, finding?_eq] at h
    split at h
    · rename_i hdue
      obtain rfl := Option.some.inj h
      exact ⟨⟨hcat, hexempt, hdue.1, hdue.2⟩, ⟨rfl, rfl, rfl, rfl, rfl⟩⟩
    · exact absurd h (by simp)

theorem findingAt?_of_due {c : Checker} {tree : SourceTree} {o : Occurrence} {node : SourceNode}
    {raw word : String} (hholds : o.Holds tree node raw word)
    (hdue : c.Due o.category raw word) :
    c.findingAt? tree o = some (c.findingFor o.category node (Text.trim raw) word) := by
  rw [findingAt?_of_holds hholds, if_neg hdue.not_exempt, finding?_eq,
    if_pos ⟨hdue.long, hdue.wanted⟩]

theorem findingFor_mem_check {c : Checker} {tree : SourceTree} {o : Occurrence}
    {node : SourceNode} {raw word : String} (hholds : o.Holds tree node raw word)
    (hdue : c.Due o.category raw word) :
    c.findingFor o.category node (Text.trim raw) word ∈ c.check (.ok tree) := by
  rw [check_ok_eq_filterMap, List.mem_filterMap]
  exact ⟨o, mem_occurrences.mpr ⟨hdue.enabled, node, raw, word, hholds⟩,
    findingAt?_of_due hholds hdue⟩

theorem mem_reported {c : Checker} {tree : SourceTree} {o : Occurrence} :
    o ∈ (c.occurrences tree).filter (fun o => (c.findingAt? tree o).isSome)
      ↔ ∃ node raw word, o.Holds tree node raw word ∧ c.Due o.category raw word := by
  rw [List.mem_filter, mem_occurrences]
  constructor
  · rintro ⟨⟨hcat, -⟩, hsome⟩
    obtain ⟨f, hf⟩ := Option.isSome_iff_exists.mp hsome
    obtain ⟨node, raw, word, hholds, hdue, -⟩ := findingAt?_eq_some hcat hf
    exact ⟨node, raw, word, hholds, hdue⟩
  · rintro ⟨node, raw, word, hholds, hdue⟩
    exact ⟨⟨hdue.enabled, node, raw, word, hholds⟩,
      Option.isSome_of_eq_some (findingAt?_of_due hholds hdue)⟩

/-- A finding of a check is the one for the word at some place. -/
theorem exists_findingFor_of_mem_check {c : Checker} {tree : SourceTree} {f : Finding}
    (h : f ∈ c.check (.ok tree)) :
    ∃ (o : Occurrence) (node : SourceNode) (raw word : String), o.Holds tree node raw word
      ∧ f = c.findingFor o.category node (Text.trim raw) word := by
  rw [check_ok_eq_filterMap] at h
  obtain ⟨o, -, hf⟩ := List.mem_filterMap.mp h
  obtain ⟨node, raw, word, hholds⟩ := exists_holds hf
  refine ⟨o, node, raw, word, hholds, ?_⟩
  rw [findingAt?_of_holds hholds, finding?_eq] at hf
  split at hf
  · cases hf
  · split at hf
    · exact (Option.some.inj hf).symm
    · cases hf

/-- A reported word is one of the words of a text that is not exempt. -/
theorem exists_due_of_mem_check {c : Checker} {tree : SourceTree} {f : Finding}
    (h : f ∈ c.check (.ok tree)) :
    ∃ category raw, f.word ∈ Text.normalize raw ∧ c.Due category raw f.word
      ∧ f.misspelled = !c.dictionary.knows f.word := by
  rw [check_ok_eq_filterMap] at h
  obtain ⟨o, ho, hf⟩ := List.mem_filterMap.mp h
  obtain ⟨node, raw, word, hholds, hdue, hcarries⟩ :=
    findingAt?_eq_some (mem_occurrences.mp ho).1 hf
  rw [hcarries.word_eq]
  exact ⟨o.category, raw, List.mem_of_getElem? hholds.word_at, hdue, hcarries.misspelled_eq⟩

/-- **Exactly once.** The findings for a tree stand, one for one, at the places where a due word
stands, each place once and in order: categories as they are first mentioned, nodes in tree
order, words from left to right. Each finding carries the category, the word, the trimmed text,
the line of the node and whether the dictionary lacks the word. So every reported word consists
of small ASCII letters, at least one and as many as the settings ask for, is not exempt, and is
unknown unless known words are reported as well. -/
theorem check_reports_each_occurrence_once (c : Checker) (tree : SourceTree) :
    (∃ places : List Occurrence,
        places.Nodup
        ∧ places.Pairwise c.Precedes
        ∧ (∀ o, o ∈ places
            ↔ ∃ node raw word, o.Holds tree node raw word ∧ c.Due o.category raw word)
        ∧ List.Forall₂ (fun o f => ∃ node raw word, o.Holds tree node raw word
            ∧ c.Carries o.category node raw word f)
          places (c.check (.ok tree)))
      ∧ ∀ f ∈ c.check (.ok tree),
          f.word ≠ "" ∧ (∀ ch ∈ f.word.toList, 'a' ≤ ch ∧ ch ≤ 'z')
          ∧ c.settings.minLength ≤ f.word.length ∧ f.word ∉ c.skip
          ∧ (f.misspelled = true ∨ c.settings.showSuccesses = true) := by
  constructor
  · have hordered := (pairwise_occurrences c tree).filter fun o => (c.findingAt? tree o).isSome
    refine ⟨_, hordered.imp Precedes.ne, hordered, fun o => mem_reported, ?_⟩
    have hcategory : ∀ o ∈ (c.occurrences tree).filter (fun o => (c.findingAt? tree o).isSome),
        o.category ∈ c.settings.categories :=
      fun o ho => (mem_occurrences.mp (List.mem_filter.mp ho).1).1
    have hpaired := (List.forall₂_and_left _ _).mpr
      ⟨hcategory, forall₂_filterMap (c.findingAt? tree) (c.occurrences tree)⟩
    rw [check_ok_eq_filterMap]
    refine hpaired.imp fun o f hof => ?_
    obtain ⟨node, raw, word, hholds, -, hcarries⟩ := findingAt?_eq_some hof.1 hof.2
    exact ⟨node, raw, word, hholds, hcarries⟩
  · intro f hf
    obtain ⟨category, raw, hword, hdue, hmisspelled⟩ := exists_due_of_mem_check hf
    obtain ⟨hne, hsmall⟩ := Text.mem_normalize hword
    refine ⟨hne, fun ch hch => ?_, hdue.long, fun hmem => ?_, ?_⟩
    · simpa [Text.isSmall] using hsmall ch hch
    · exact hdue.not_exempt (.inl ⟨f.word, hword, hmem⟩)
    · rw [hmisspelled]
      exact hdue.wanted.imp_left fun hunknown => by rw [hunknown]; rfl

end Checker

end ScriptSpelling
