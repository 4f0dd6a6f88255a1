import Mathlib.Data.Prod.Lex
import ScriptSpelling.Proofs.Occurrence
import ScriptSpelling.Report

/-!
# The order of a report

A check lists its findings place by place: categories in the order of the settings, nodes in tree
order, words from left to right. A report sorts this list by line and by nothing else. That it still
is in order within each line is the stability of the sort (`pairwise_mergeSort_stable`): between
two elements that the sort does not tell apart, what held in the old order holds in the new one.

So a report is strictly increasing in line, category, node and word, each counting only where those
before it agree (`Checker.byLine_check`).
-/

namespace ScriptSpelling

open Syntax

/-! ## Stable sorting -/

section Stable

variable {α : Type} {le : α → α → Bool}

/-- A sorted list is in order, and elements that are not told apart stand as they stood before. -/
theorem pairwise_mergeSort_stable
    (trans : ∀ a b c, le a b = true → le b c = true → le a c = true)
    (total : ∀ a b, (le a b || le b a) = true) {P : α → α → Prop} : ∀ {l : List α}, l.Pairwise P →
    (l.mergeSort le).Pairwise fun a b => le a b = true ∧ (le b a = true → P a b)
  | [], _ => by simp
  | a :: l, h => by
      obtain ⟨hhead, htail⟩ := List.pairwise_cons.mp h
      have ih := pairwise_mergeSort_stable trans total htail
      have hsorted := List.pairwise_mergeSort trans total (a :: l)
      -- The new element goes behind what is smaller than it and before all the rest.
      obtain ⟨l₁, l₂, hcons, hrest, hsmaller⟩ := List.mergeSort_cons trans total a l
      rw [hrest, List.pairwise_append] at ih
      rw [hcons, List.pairwise_append, List.pairwise_cons] at hsorted
      rw [hcons, List.pairwise_append, List.pairwise_cons]
      refine ⟨ih.1, ⟨fun b hb => ⟨hsorted.2.1.1 b hb, fun _ => ?_⟩, ih.2.1⟩, fun b hb c hc => ?_⟩
      · have hmem : b ∈ l.mergeSort le := by
          rw [hrest]
          exact List.mem_append_right l₁ hb
        exact hhead b (List.mem_mergeSort.mp hmem)
      · rcases List.mem_cons.mp hc with rfl | hc
        · refine ⟨hsorted.2.2 b hb _ List.mem_cons_self, fun hle => ?_⟩
          have hnot := hsmaller b hb
          rw [hle] at hnot
          cases hnot
        · exact ih.2.2 b hb c hc

end Stable

namespace Report

theorem precedes_trans (a b c : Finding) (hab : precedes a b = true) (hbc : precedes b c = true) :
    precedes a c = true := by
  unfold precedes at *
  cases ha : a.line <;> cases hb : b.line <;> cases hc : c.line <;> simp_all
  omega

theorem precedes_total (a b : Finding) : (precedes a b || precedes b a) = true := by
  unfold precedes
  cases ha : a.line <;> cases hb : b.line <;> simp
  omega

/-- Where findings have lines, the report goes by these. -/
theorem precedes_iff_le {a b : Finding} {m n : Nat} (ha : a.line = some m) (hb : b.line = some n) :
    precedes a b = true ↔ m ≤ n := by
  simp [precedes, ha, hb]

end Report

/-! ## Findings and their places -/

/-- A finding with its line and the place of its word. -/
structure Located where
  line : Nat
  place : Occurrence
  finding : Finding

namespace Checker

/-- The check of the tree reports the finding for the word at its place. -/
def Reports (c : Checker) (tree : SourceTree) (r : Located) : Prop :=
  r.finding.line = some r.line ∧ ∃ node raw word, r.place.Holds tree node raw word
    ∧ c.Due r.place.category raw word ∧ c.Carries r.place.category node raw word r.finding

/-- Where a finding belongs in a report: by line, by the place of its category in the settings, by
the place of its node in the tree, by the place of its word in the node. -/
def rank (c : Checker) (r : Located) : ℕ ×ₗ ℕ ×ₗ ℕ ×ₗ ℕ :=
  toLex (r.line, toLex (c.categories.idxOf r.place.category, toLex (r.place.node, r.place.word)))

theorem rank_lt_of_line_lt {c : Checker} {r s : Located} (h : r.line < s.line) :
    c.rank r < c.rank s :=
  Prod.Lex.toLex_lt_toLex.mpr (.inl h)

/-- On one line, findings go by their places. -/
theorem rank_lt_of_precedes {c : Checker} {r s : Located} (hline : r.line = s.line)
    (h : c.Precedes r.place s.place) : c.rank r < c.rank s := by
  refine Prod.Lex.toLex_lt_toLex.mpr (.inr ⟨hline, Prod.Lex.toLex_lt_toLex.mpr ?_⟩)
  refine h.imp id ?_
  rintro ⟨hcategory, hwithin⟩
  exact ⟨congrArg c.categories.idxOf hcategory, Prod.Lex.toLex_lt_toLex.mpr hwithin⟩

def located (c : Checker) (tree : SourceTree) : List Located :=
  (c.occurrences tree).filterMap fun o =>
    (c.findingAt? tree o).map fun f => ⟨f.line.getD 0, o, f⟩

theorem map_finding_located (c : Checker) (tree : SourceTree) :
    (c.located tree).map Located.finding = c.check (.ok tree) := by
  rw [located, List.map_filterMap, check_ok_eq_filterMap]
  refine congrArg (List.filterMap · _) (funext fun o => ?_)
  cases c.findingAt? tree o <;> rfl

theorem pairwise_located (c : Checker) (tree : SourceTree) :
    (c.located tree).Pairwise fun r s => c.Precedes r.place s.place := by
  refine (pairwise_occurrences c tree).filterMap _ fun o o' h r hr s hs => ?_
  obtain ⟨f, -, rfl⟩ := Option.map_eq_some_iff.mp hr
  obtain ⟨f', -, rfl⟩ := Option.map_eq_some_iff.mp hs
  exact h

theorem reports_of_mem_located {c : Checker} {tree : SourceTree} {r : Located}
    (h : r ∈ c.located tree) : c.Reports tree r := by
  obtain ⟨o, ho, hr⟩ := List.mem_filterMap.mp h
  obtain ⟨f, hf, rfl⟩ := Option.map_eq_some_iff.mp hr
  obtain ⟨node, raw, word, hholds, hdue, hcarries⟩ :=
    findingAt?_eq_some (mem_occurrences.mp ho).1 hf
  exact ⟨by simp [hcarries.line_eq], node, raw, word, hholds, hdue, hcarries⟩

/-- **The order of a report.** The findings of a check, each with its line and the place of its
word, stand in the order of these places. Sorted by line they are the report: a rearrangement of
them that is strictly increasing in line, place of the category in the settings, place of the node
in the tree and place of the word in the node, in this order of importance. -/
theorem byLine_check (c : Checker) (tree : SourceTree) :
    (Report.byLine (c.check (.ok tree))).Perm (c.check (.ok tree))
      ∧ ∃ reports : List Located,
        reports.map Located.finding = c.check (.ok tree)
          ∧ (∀ r ∈ reports, c.Reports tree r)
          ∧ reports.Pairwise (fun r s => c.Precedes r.place s.place)
          ∧ ∃ sorted : List Located,
            sorted.Perm reports
              ∧ sorted.map Located.finding = Report.byLine (c.check (.ok tree))
              ∧ sorted.Pairwise fun r s => c.rank r < c.rank s := by
  refine ⟨List.mergeSort_perm _ _, c.located tree, map_finding_located c tree,
    fun r => reports_of_mem_located, pairwise_located c tree,
    (c.located tree).mergeSort fun r s => Report.precedes r.finding s.finding,
    List.mergeSort_perm _ _, ?_, ?_⟩
  · rw [Report.byLine, ← map_finding_located]
    exact List.map_mergeSort fun _ _ _ _ => rfl
  · have hstable := pairwise_mergeSort_stable
      (fun r s t => Report.precedes_trans r.finding s.finding t.finding)
      (fun r s => Report.precedes_total r.finding s.finding) (pairwise_located c tree)
    refine hstable.imp_of_mem fun {r s} hr hs h => ?_
    have hline := (reports_of_mem_located (List.mem_mergeSort.mp hr)).1
    have hline' := (reports_of_mem_located (List.mem_mergeSort.mp hs)).1
    rcases Nat.lt_or_eq_of_le ((Report.precedes_iff_le hline hline').mp h.1) with hlt | heq
    · exact rank_lt_of_line_lt hlt
    · have hback := (Report.precedes_iff_le hline' hline).mpr (Nat.le_of_eq heq.symm)
      exact rank_lt_of_precedes heq (h.2 hback)

end Checker

end ScriptSpelling
