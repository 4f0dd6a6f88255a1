import ScriptSpelling.Proofs.Occurrence

/-!
# The findings of a check come in blocks

A check goes through its categories one after the other, and no category looks at what another has
found. So its findings are those of checks for a single category, put one behind the other in the
order of first mention (`Checker.blocks`): to mention a category again changes nothing, and another
order of the categories is only another order of the blocks.

Where a source cannot be read there are no blocks. The one finding then says what is wrong with
the source, and depends on nothing but its look. The main statement is
`Checker.check_withCategories`.
-/

namespace ScriptSpelling

open Syntax

/-! ## First mentions -/

section FirstMentions

variable {α : Type} [BEq α] [LawfulBEq α]

theorem removeAll_cons_of_mem {a : α} {l : List α} (h : a ∈ l) (more : List α) :
    (a :: more).removeAll l = more.removeAll l := by
  rw [List.cons_removeAll, List.contains_iff_mem.mpr h]
  rfl

theorem eraseDups_append_cons_of_mem {a : α} {l : List α} (h : a ∈ l) (more : List α) :
    (l ++ a :: more).eraseDups = (l ++ more).eraseDups := by
  rw [List.eraseDups_append, List.eraseDups_append, removeAll_cons_of_mem h]

theorem eraseDups_concat (l : List α) (a : α) :
    (l ++ [a]).eraseDups = l.eraseDups ++ if a ∈ l then [] else [a] := by
  rw [List.eraseDups_append]
  by_cases h : a ∈ l
  · rw [removeAll_cons_of_mem h, if_pos h]
    rfl
  · rw [List.cons_removeAll, if_pos (by simpa using h), if_neg h]
    rfl

theorem perm_eraseDups {l l' : List α} (h : l.Perm l') : l.eraseDups.Perm l'.eraseDups := by
  rw [List.perm_ext_iff_of_nodup (nodup_eraseDups l) (nodup_eraseDups l')]
  intro a
  rw [List.mem_eraseDups, List.mem_eraseDups]
  exact h.mem_iff

end FirstMentions

namespace Checker

/-! ## Other categories -/

def withCategories (c : Checker) (categories : List Category) : Checker :=
  { c with settings := { c.settings with categories } }

/-- The findings for each category that is mentioned, as if it were the only one. -/
def blocks (c : Checker) (tree : SourceTree) (categories : List Category) :
    List (List Finding) :=
  categories.eraseDups.map fun category => (c.withCategories [category]).check (.ok tree)

variable {c : Checker} {tree : SourceTree}

/-- With a single category, a check goes through the tree once. -/
theorem check_single (c : Checker) (tree : SourceTree) (category : Category) :
    (c.withCategories [category]).check (.ok tree) = c.checkTree tree category := by
  have hcategories : (c.withCategories [category]).categories = [category] := by
    rw [categories, withCategories, List.eraseDups_cons]
    simp
  rw [check, hcategories, List.flatMap_singleton]
  -- Only the list of categories differs, and the walk through the tree does not look at it.
  rfl

theorem check_eq_flatten_blocks (c : Checker) (tree : SourceTree) (categories : List Category) :
    (c.withCategories categories).check (.ok tree) = (c.blocks tree categories).flatten := by
  have hblocks : c.blocks tree categories = categories.eraseDups.map (c.checkTree tree) := by
    rw [blocks]
    exact congrArg (List.map · _) (funext fun category => check_single c tree category)
  rw [hblocks, ← List.flatMap_def]
  rfl

theorem category_of_mem_single {category : Category} {f : Finding}
    (h : f ∈ (c.withCategories [category]).check (.ok tree)) : f.category = some category := by
  rw [check_ok_eq_filterMap] at h
  obtain ⟨o, ho, hf⟩ := List.mem_filterMap.mp h
  have hmem : o.category ∈ [category] := (mem_occurrences.mp ho).1
  obtain ⟨node, raw, word, -, -, hcarries⟩ := findingAt?_eq_some hmem hf
  rw [hcarries.category_eq, List.mem_singleton.mp hmem]

/-! ## A block among others -/

theorem filter_single_self (category : Category) :
    ((c.withCategories [category]).check (.ok tree)).filter (·.category = some category)
      = (c.withCategories [category]).check (.ok tree) := by
  rw [List.filter_eq_self]
  intro f hf
  exact decide_eq_true (category_of_mem_single hf)

theorem filter_single_of_ne {category other : Category} (h : other ≠ category) :
    ((c.withCategories [other]).check (.ok tree)).filter (·.category = some category) = [] := by
  rw [List.filter_eq_nil_iff]
  intro f hf hsame
  have hother := category_of_mem_single hf
  rw [of_decide_eq_true hsame] at hother
  exact h (Option.some.inj hother).symm

/-- From different categories, the findings of one are all that it finds alone. -/
theorem filter_flatMap_single (category : Category) {l : List Category} (h : l.Nodup) :
    (l.flatMap fun k => (c.withCategories [k]).check (.ok tree)).filter (·.category = some category)
      = if category ∈ l then (c.withCategories [category]).check (.ok tree) else [] := by
  induction l with
  | nil => rfl
  | cons k l ih =>
      obtain ⟨hk, hl⟩ := List.nodup_cons.mp h
      rw [List.flatMap_cons, List.filter_append, ih hl]
      by_cases heq : k = category
      · subst heq
        rw [filter_single_self, if_neg hk, if_pos List.mem_cons_self, List.append_nil]
      · have hmem : category ∈ k :: l ↔ category ∈ l := by
          rw [List.mem_cons, or_iff_right (Ne.symm heq)]
        rw [filter_single_of_ne heq, List.nil_append]
        exact if_congr hmem.symm rfl rfl

theorem filter_check_withCategories (c : Checker) (tree : SourceTree) (categories : List Category)
    (category : Category) :
    ((c.withCategories categories).check (.ok tree)).filter (·.category = some category)
      = if category ∈ categories then (c.withCategories [category]).check (.ok tree) else [] := by
  rw [check_eq_flatten_blocks, blocks, ← List.flatMap_def,
    filter_flatMap_single category (nodup_eraseDups categories)]
  exact if_congr List.mem_eraseDups rfl rfl

/-! ## All blocks -/

/-- One more category adds its block, unless it was mentioned before. -/
theorem check_concat (c : Checker) (tree : SourceTree) (categories : List Category)
    (category : Category) :
    (c.withCategories (categories ++ [category])).check (.ok tree)
      = (c.withCategories categories).check (.ok tree)
        ++ if category ∈ categories then []
          else (c.withCategories [category]).check (.ok tree) := by
  rw [check_eq_flatten_blocks, check_eq_flatten_blocks c tree categories, blocks,
    eraseDups_concat, List.map_append, List.flatten_append]
  split
  · rfl
  · rw [List.map_singleton, List.flatten_singleton]
    rfl

/-- **Blocks.** The findings for a tree are those of its blocks in turn. A block is what the check
finds for its category alone, all its findings are of that category, and it holds all findings of
that category. A further category adds its block at the end; to mention one again changes nothing,
wherever it is done. In another order, the categories give the same blocks in another order. For a
source that cannot be read, all checkers that style their messages alike have the same one finding,
which is of no category. -/
theorem check_withCategories (c : Checker) :
    (∀ tree categories,
        (c.withCategories categories).check (.ok tree) = (c.blocks tree categories).flatten)
      ∧ (∀ tree category, ∀ f ∈ (c.withCategories [category]).check (.ok tree),
          f.category = some category)
      ∧ (∀ tree categories category,
          ((c.withCategories categories).check (.ok tree)).filter (·.category = some category)
            = if category ∈ categories then (c.withCategories [category]).check (.ok tree) else [])
      ∧ (∀ tree categories category,
          (c.withCategories (categories ++ [category])).check (.ok tree)
            = (c.withCategories categories).check (.ok tree)
              ++ if category ∈ categories then []
                else (c.withCategories [category]).check (.ok tree))
      ∧ (∀ tree earlier later category, category ∈ earlier →
          (c.withCategories (earlier ++ category :: later)).check (.ok tree)
            = (c.withCategories (earlier ++ later)).check (.ok tree))
      ∧ (∀ tree categories categories', categories.Perm categories' →
          (c.blocks tree categories).Perm (c.blocks tree categories'))
      ∧ ∀ c' : Checker, c'.settings.color = c.settings.color → c'.codes = c.codes →
          ∀ fault, c'.check (.error fault) = [c.failure fault]
            ∧ (c.failure fault).category = none := by
  refine ⟨check_eq_flatten_blocks c, fun _ _ _ hf => category_of_mem_single hf,
    filter_check_withCategories c, check_concat c, ?_, ?_, ?_⟩
  · intro tree earlier later category hmem
    rw [check_eq_flatten_blocks, check_eq_flatten_blocks, blocks, blocks,
      eraseDups_append_cons_of_mem hmem]
  · intro tree categories categories' hperm
    exact (perm_eraseDups hperm).map _
  · intro c' hcolor hcodes fault
    refine ⟨?_, rfl⟩
    rw [check, failure, failure, styled, styled, hcolor, hcodes]

/-- A comment is the only block of a tree that holds nothing else, however often and wherever
comments are mentioned. -/
theorem check_withCategories_repeated :
    let c := Checker.mk ⟨fun _ => false⟩ .empty {} false
    let tree : SourceTree := ⟨"// a tset".toList,
      .mk { kind := .comment, start := .zero, stop := ⟨9, 0, 9⟩ } []⟩
    let f : Finding := { category := some .comment, word := "tset", text := "a tset"
                         line := some 1, misspelled := true
                         message := "You have a misspelled Comment a tset misspelled: tset" }
    (f ∈ (c.withCategories [.comment]).check (.ok tree) ∧ f.category = some .comment)
      ∧ (Category.comment ∈ [Category.string, .comment]
        ∧ (c.withCategories ([.string, .comment] ++ .comment :: [.identifier])).check (.ok tree)
          = (c.withCategories ([.string, .comment] ++ [.identifier])).check (.ok tree))
      ∧ ([Category.string, .comment].Perm [.comment, .string]
        ∧ (c.blocks tree [.string, .comment]).Perm (c.blocks tree [.comment, .string]))
      ∧ ((c.withCategories []).settings.color = c.settings.color
        ∧ (c.withCategories []).codes = c.codes
        ∧ (c.withCategories []).check (.error ⟨.endOfInput, some 1, some 1⟩)
          = [c.failure ⟨.endOfInput, some 1, some 1⟩]) := by
  intro c tree f
  obtain ⟨-, hcategory, -, -, hrepeat, hperm, hfailure⟩ := check_withCategories c
  let node : SourceNode := ⟨"comment", "// a tset", 1, 1⟩
  have hunknown : c.dictionary.knows "tset" = false := rfl
  have hholds : Occurrence.Holds ⟨.comment, 0, 1⟩ tree node " a tset" "tset" :=
    ⟨by decide, by decide, by decide⟩
  have hdue : (c.withCategories [.comment]).Due .comment " a tset" "tset" :=
    ⟨by decide, by decide, by decide, .inl hunknown⟩
  have hfinding : (c.withCategories [.comment]).findingFor .comment node "a tset" "tset" = f := by
    cbv
  have hf : f ∈ (c.withCategories [.comment]).check (.ok tree) :=
    hfinding ▸ findingFor_mem_check hholds hdue
  have hmem : Category.comment ∈ [Category.string, .comment] := by decide
  have hswap : [Category.string, .comment].Perm [.comment, .string] := by decide
  exact ⟨⟨hf, hcategory _ _ f hf⟩, ⟨hmem, hrepeat _ _ _ _ hmem⟩, ⟨hswap, hperm _ _ _ hswap⟩,
    rfl, rfl, (hfailure (c.withCategories []) rfl rfl _).1⟩

end Checker

end ScriptSpelling
