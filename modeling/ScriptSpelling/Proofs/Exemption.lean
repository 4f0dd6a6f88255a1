import Mathlib.Data.List.Flatten
import ScriptSpelling.Check
import ScriptSpelling.Proofs.Enumeration
import ScriptSpelling.Proofs.LetterRuns

/-!
# Exempt words act node by node

Whether a node is passed over depends on its text and on the exempt words alone
(`SkipSet.Exempts`): any exempt word counts, of whatever length and spelling, and for an
identifier the whole name as well. The words of a node that is not passed over are reported
without another look at the exempt words. So more exempt words empty the nodes that they newly
exempt and touch nothing else, which is the main statement, `check_withSkip`.
-/

namespace ScriptSpelling

open Syntax

/-! ## Membership -/

namespace SkipSet

theorem isExempt_iff {s : SkipSet} {word : String} :
    s.isExempt word = true ↔ Text.lowercase word ∈ s :=
  List.contains_iff_mem

/-- The words that are not blank, each in the form in which it is stored. -/
def entries (words : List String) : List String :=
  (words.filter fun word => Text.trim word ≠ "").map entry

theorem mem_entries {words : List String} {e : String} :
    e ∈ entries words ↔ ∃ word ∈ words, Text.trim word ≠ "" ∧ e = entry word := by
  simp only [entries, List.mem_map, List.mem_filter, decide_eq_true_eq]
  constructor
  · rintro ⟨word, ⟨hword, hblank⟩, rfl⟩
    exact ⟨word, hword, hblank, rfl⟩
  · rintro ⟨word, hword, hblank, rfl⟩
    exact ⟨word, ⟨hword, hblank⟩, rfl⟩

theorem entries_append (words more : List String) :
    entries (words ++ more) = entries words ++ entries more := by
  rw [entries, List.filter_append, List.map_append, entries, entries]

theorem mem_insert_iff {s : SkipSet} {word e : String} :
    e ∈ s.insert word ↔ e ∈ s ∨ e ∈ entries [word] := by
  by_cases hblank : Text.trim word = ""
  · have hsame : s.insert word = s := if_pos (String.isEmpty_iff.mpr hblank)
    simp [hsame, mem_entries, hblank]
  · have hmem : e ∈ entries [word] ↔ e = entry word := by simp [mem_entries, hblank]
    rw [hmem, insert, if_neg (mt String.isEmpty_iff.mp hblank)]
    split
    case isTrue hstored =>
      exact ⟨.inl, fun h => h.elim id fun heq => heq ▸ hstored⟩
    case isFalse =>
      exact List.mem_cons.trans or_comm

theorem withWords_nil (s : SkipSet) : s.withWords [] = s := rfl

theorem withWords_cons (s : SkipSet) (word : String) (more : List String) :
    s.withWords (word :: more) = (s.insert word).withWords more := by
  rw [withWords, List.foldl_cons, withWords]

/-- A set has the words that it had and the forms of those that are added, and no others. -/
theorem mem_withWords_iff {e : String} {words : List String} {s : SkipSet} :
    e ∈ s.withWords words ↔ e ∈ s ∨ e ∈ entries words := by
  induction words generalizing s with
  | nil => exact (or_iff_left List.not_mem_nil).symm
  | cons word more ih =>
      rw [withWords_cons, ih, mem_insert_iff, or_assoc, ← List.mem_append, ← entries_append,
        List.singleton_append]

theorem subset_withWords (words : List String) (s : SkipSet) : s ⊆ s.withWords words :=
  fun _ hw => mem_withWords_iff.mpr (.inl hw)

/-! ## Built-in words -/

theorem head?_entry {word : String} (hascii : word.front.toNat < 0x80)
    (hblank : Text.isBlank word.front = false) (hne : word ≠ "") :
    (entry word).toList.head? = (Text.lowerChar word.front).head? := by
  obtain ⟨c, rest, hchars⟩ := List.exists_cons_of_ne_nil (mt String.toList_eq_nil_iff.mp hne)
  have hfront : word.front = c := by
    rw [String.front_eq, String.front?_eq, hchars, List.head?_cons, Option.getD_some]
  rw [hfront] at hascii hblank ⊢
  obtain ⟨more, htrim⟩ := Text.exists_trimChars_eq_cons hblank rest
  rw [entry, Text.lowercase, Text.trim, String.toList_ofList, String.toList_ofList, hchars, htrim,
    Text.head?_lowerChars hascii]

/-- No built-in word starts with the last letter. -/
theorem head?_ne_of_mem_builtin {w : String} (h : w ∈ builtin) : w.toList.head? ≠ some 'z' := by
  have hfronts : ∀ word ∈ jargon ++ GlobalNames.all, word ≠ "" ∧ word.front.toNat < 0x80
      ∧ Text.isBlank word.front = false ∧ (Text.lowerChar word.front).head? ≠ some 'z' := by
    decide +kernel
  rcases mem_withWords_iff.mp h with hempty | hentries
  · exact absurd hempty List.not_mem_nil
  · obtain ⟨word, hword, -, rfl⟩ := mem_entries.mp hentries
    obtain ⟨hne, hascii, hblank, hz⟩ := hfronts word hword
    rwa [head?_entry hascii hblank hne]

/-! ## Exempt nodes -/

/-- A text of the category is exempt: one of its words is, or the name that it is. -/
def Exempts (s : SkipSet) (category : Category) (raw : String) : Prop :=
  (∃ word ∈ Text.normalize raw, word ∈ s)
    ∨ (category = .identifier ∧ Text.lowercase (Text.trim raw) ∈ s)

instance (s : SkipSet) (category : Category) (raw : String) :
    Decidable (s.Exempts category raw) :=
  inferInstanceAs (Decidable (_ ∨ _))

/-- A text of words that no built-in word starts like is not exempt. -/
theorem not_exempts_builtin {category : Category} {raw : String}
    (hwords : ∀ word ∈ Text.normalize raw, word.toList.head? = some 'z')
    (hname : category = .identifier →
      (Text.lowercase (Text.trim raw)).toList.head? = some 'z') :
    ¬ builtin.Exempts category raw := by
  rintro (⟨word, hword, hmem⟩ | ⟨hcategory, hmem⟩)
  · exact head?_ne_of_mem_builtin hmem (hwords word hword)
  · exact head?_ne_of_mem_builtin hmem (hname hcategory)

def ExemptsNode (s : SkipSet) (category : Category) (node : SourceNode) : Prop :=
  ∃ raw ∈ category.text? node, s.Exempts category raw

instance (s : SkipSet) (category : Category) (node : SourceNode) :
    Decidable (s.ExemptsNode category node) :=
  inferInstanceAs (Decidable (∃ raw ∈ category.text? node, s.Exempts category raw))

/-- The node is exempt in `t` and was not so in `s`. -/
def NewlyExempts (s t : SkipSet) (category : Category) (node : SourceNode) : Prop :=
  t.ExemptsNode category node ∧ ¬ s.ExemptsNode category node

instance (s t : SkipSet) (category : Category) (node : SourceNode) :
    Decidable (s.NewlyExempts t category node) :=
  inferInstanceAs (Decidable (_ ∧ _))

theorem Exempts.mono {s t : SkipSet} (h : s ⊆ t) {category : Category} {raw : String} :
    s.Exempts category raw → t.Exempts category raw
  | .inl ⟨word, hword, hmem⟩ => .inl ⟨word, hword, h word hmem⟩
  | .inr ⟨hcat, hmem⟩ => .inr ⟨hcat, h _ hmem⟩

/-- The words that are cut out of a text are in lowercase, so each is looked up as it stands. -/
theorem intersects_normalize_iff {s : SkipSet} {raw : String} :
    s.intersects (Text.normalize raw) = true ↔ ∃ word ∈ Text.normalize raw, word ∈ s := by
  rw [intersects, List.any_eq_true]
  refine exists_congr fun word => and_congr_right fun hword => ?_
  rw [isExempt_iff, Text.lowercase_of_small (Text.mem_normalize hword).2]

end SkipSet

namespace Checker

/-- A checker has no more exempt words than the built-in ones if its settings name none. -/
theorem skip_new {settings : Settings} {dictionary : Dictionary} {codes : Bool}
    (h : settings.skipWords = []) : (new settings dictionary codes).skip = SkipSet.builtin := by
  rw [new, h, SkipSet.withWords_nil]

/-! ## One node -/

theorem admits_iff {c : Checker} {category : Category} {raw : String} :
    c.admits category raw (Text.normalize raw) = true ↔ ¬ c.skip.Exempts category raw := by
  have hname : c.skip.isExemptWhole raw = true ↔ Text.lowercase (Text.trim raw) ∈ c.skip :=
    SkipSet.isExempt_iff
  rw [admits, Bool.and_eq_true, Bool.not_eq_true', Bool.not_eq_true', ← Bool.not_eq_true,
    ← Bool.not_eq_true, Bool.and_eq_true, beq_iff_eq, hname, SkipSet.intersects_normalize_iff,
    SkipSet.Exempts, not_or, and_comm]

theorem checkNode_of_text {c : Checker} {category : Category} {node : SourceNode} {raw : String}
    (h : category.text? node = some raw) :
    c.checkNode category node = if c.skip.Exempts category raw then []
      else (Text.normalize raw).filterMap (c.finding? category node (Text.trim raw)) := by
  simp only [checkNode, h]
  by_cases hexempt : c.skip.Exempts category raw
  · rw [if_pos hexempt, if_neg (mt admits_iff.mp (not_not_intro hexempt))]
  · rw [if_neg hexempt, if_pos (admits_iff.mpr hexempt)]

theorem checkNode_of_exempts {c : Checker} {category : Category} {node : SourceNode}
    (h : c.skip.ExemptsNode category node) : c.checkNode category node = [] := by
  obtain ⟨raw, hraw, hexempt⟩ := h
  rw [checkNode_of_text hraw, if_pos hexempt]

/-- The findings for a node that is not exempt are those for its words, one by one. -/
theorem checkNode_of_not_exempts {c : Checker} {category : Category} {node : SourceNode}
    (h : ¬ c.skip.ExemptsNode category node) :
    c.checkNode category node = ((category.text? node).map fun raw =>
      (Text.normalize raw).filterMap (c.finding? category node (Text.trim raw))).getD [] := by
  cases htext : category.text? node with
  | none => simp [checkNode, htext]
  | some raw =>
      rw [checkNode_of_text htext, if_neg fun hexempt => h ⟨raw, htext, hexempt⟩]
      rfl

def withSkip (c : Checker) (s : SkipSet) : Checker := { c with skip := s }

@[simp] theorem skip_withSkip (c : Checker) (s : SkipSet) : (c.withSkip s).skip = s := rfl

@[simp] theorem finding?_withSkip (c : Checker) (s : SkipSet) :
    (c.withSkip s).finding? = c.finding? := rfl

@[simp] theorem check_error_withSkip (c : Checker) (s : SkipSet) (fault : SyntaxFault) :
    (c.withSkip s).check (.error fault) = c.check (.error fault) := rfl

/-- With more exempt words, a node that is newly exempt loses all findings, and any other node
keeps its own. -/
theorem checkNode_withSkip {c : Checker} {s : SkipSet} (h : c.skip ⊆ s) (category : Category)
    (node : SourceNode) :
    (c.withSkip s).checkNode category node
      = if c.skip.NewlyExempts s category node then [] else c.checkNode category node := by
  by_cases hold : c.skip.ExemptsNode category node
  · obtain ⟨raw, hraw, hexempt⟩ := hold
    rw [if_neg (fun hnew => hnew.2 ⟨raw, hraw, hexempt⟩),
      checkNode_of_exempts (c := c.withSkip s) ⟨raw, hraw, hexempt.mono h⟩,
      checkNode_of_exempts ⟨raw, hraw, hexempt⟩]
  · by_cases hnew : s.ExemptsNode category node
    · rw [if_pos ⟨hnew, hold⟩, checkNode_of_exempts (c := c.withSkip s) hnew]
    · rw [if_neg (fun hboth => hnew hboth.1), checkNode_of_not_exempts (c := c.withSkip s) hnew,
        checkNode_of_not_exempts hold]
      rfl

/-! ## A whole tree -/

/-- The nodes that are looked at, each with the category for which it is: one category after the
other, and the nodes of each in tree order. -/
def visits (c : Checker) (tree : SourceTree) : List (Category × SourceNode) :=
  c.categories.flatMap fun category => (category.select tree).map (category, ·)

@[simp] theorem visits_withSkip (c : Checker) (s : SkipSet) (tree : SourceTree) :
    (c.withSkip s).visits tree = c.visits tree := rfl

/-- The findings for a tree are those for the nodes that are looked at, one node after the other. -/
theorem check_ok_eq_flatMap (c : Checker) (tree : SourceTree) :
    c.check (.ok tree) = (c.visits tree).flatMap fun visit => c.checkNode visit.1 visit.2 := by
  simp only [check, visits, List.flatMap_assoc, List.flatMap_map]
  rfl

/-- Of the tree of a source only the nodes that are looked at count. -/
theorem checkSource_eq_flatMap {c : Checker} {grammar : Grammar} {source : String}
    {visits : List (Category × SourceNode)} (hcategories : c.settings.categories = Category.all)
    (h : (grammar.read source).toOption.map (fun tree =>
      Category.all.flatMap fun category => (category.select tree).map (category, ·))
        = some visits) :
    c.checkSource grammar source
      = visits.flatMap fun visit => c.checkNode visit.1 visit.2 := by
  rw [checkSource]
  cases hread : grammar.read source with
  | error fault =>
      rw [hread] at h
      cases h
  | ok tree =>
      rw [hread] at h
      have hall : c.categories = Category.all := by
        rw [categories, hcategories]
        decide
      have hvisits : c.visits tree = visits := by
        rw [Checker.visits, hall]
        exact Option.some.inj h
      rw [check_ok_eq_flatMap, hvisits]

/-- With more exempt words, the findings of the newly exempt nodes go and the others stay. -/
theorem check_ok_withSkip {c : Checker} {s : SkipSet} (h : c.skip ⊆ s) (tree : SourceTree) :
    (c.withSkip s).check (.ok tree)
      = ((c.visits tree).filter fun visit => ¬ c.skip.NewlyExempts s visit.1 visit.2).flatMap
          fun visit => c.checkNode visit.1 visit.2 := by
  rw [check_ok_eq_flatMap, visits_withSkip, ← flatMap_if_nil]
  exact congrArg (List.flatMap · _) (funext fun visit => checkNode_withSkip h visit.1 visit.2)

/-- **More exempt words.** Let `s` hold every exempt word of the checker `c`, and perhaps more.
The findings with `s` are a subsequence of those of `c`. Those of `c` are the findings for the
nodes that are looked at, in turn; with `s`, a node that is newly exempt has none, every other node
has the same, and the findings for a tree are those of the nodes that are not newly exempt. The
report of a source that cannot be read does not change. -/
theorem check_withSkip (c : Checker) (s : SkipSet) (h : c.skip ⊆ s) :
    (∀ outcome, ((c.withSkip s).check outcome).Sublist (c.check outcome))
      ∧ (∀ category node, (c.withSkip s).checkNode category node
          = if c.skip.NewlyExempts s category node then [] else c.checkNode category node)
      ∧ (∀ tree,
          c.check (.ok tree) = (c.visits tree).flatMap (fun visit => c.checkNode visit.1 visit.2)
          ∧ (c.withSkip s).check (.ok tree)
            = ((c.visits tree).filter fun visit =>
                ¬ c.skip.NewlyExempts s visit.1 visit.2).flatMap
                fun visit => c.checkNode visit.1 visit.2)
      ∧ ∀ fault, (c.withSkip s).check (.error fault) = c.check (.error fault) := by
  refine ⟨?_, checkNode_withSkip h, fun tree => ⟨check_ok_eq_flatMap c tree,
    check_ok_withSkip h tree⟩, fun _ => rfl⟩
  intro outcome
  cases outcome with
  | error fault => exact List.Sublist.refl _
  | ok tree =>
      rw [check_ok_withSkip h, check_ok_eq_flatMap]
      exact List.filter_sublist.flatMap _

/-- Once one of its words is exempt, a comment of two words has no findings any more, and the one on
the next line keeps its own. -/
theorem check_withSkip_second_word :
    let c := Checker.mk ⟨fun _ => false⟩ .empty {} false
    let s := SkipSet.empty.withWords ["Tset"]
    let tree : SourceTree := ⟨"// a tset\n// tests".toList,
      .mk { kind := .program, start := .zero, stop := ⟨18, 1, 8⟩ } [
        .mk { kind := .comment, start := .zero, stop := ⟨9, 0, 9⟩ } [],
        .mk { kind := .comment, start := ⟨10, 1, 0⟩, stop := ⟨18, 1, 8⟩ } []]⟩
    c.skip ⊆ s
      ∧ ((c.withSkip s).check (.ok tree)).Sublist (c.check (.ok tree))
      ∧ (c.check (.ok tree)).map (fun f => (f.word, f.line))
        = [("a", some 1), ("tset", some 1), ("tests", some 2)]
      ∧ ((c.withSkip s).check (.ok tree)).map (fun f => (f.word, f.line))
        = [("tests", some 2)] := by
  intro c s tree
  have hsubset : c.skip ⊆ s := SkipSet.subset_withWords ["Tset"] c.skip
  exact ⟨hsubset, (check_withSkip c s hsubset).1 (.ok tree), by decide, by decide⟩

end Checker

end ScriptSpelling
