import Mathlib.Data.List.Basic
import ScriptSpelling.Proofs.Occurrence

/-!
# Reporting options only filter

The least length and the choice to show known words are looked at last, word by word, after a
node has been admitted. So the findings under any options are those under the most generous ones
- every length, known words shown - without the findings that the options refuse
(`check_withOptions`).
-/

namespace ScriptSpelling

open Syntax

/-- A finding is shown under the given options: it is a parse failure, or its word is long enough
and is either misspelled or shown all the same. -/
def Finding.Passes (f : Finding) (minLength : Nat) (showSuccesses : Bool) : Prop :=
  f.category = none
    ∨ (minLength ≤ f.word.length ∧ (f.misspelled = true ∨ showSuccesses = true))

instance (f : Finding) (minLength : Nat) (showSuccesses : Bool) :
    Decidable (f.Passes minLength showSuccesses) :=
  inferInstanceAs (Decidable (_ ∨ _))

theorem Finding.Passes.mono {f : Finding} {n n' : Nat} {b b' : Bool} (hn : n ≤ n')
    (hb : b' = true → b = true) : f.Passes n' b' → f.Passes n b
  | .inl hfailure => .inl hfailure
  | .inr ⟨hlong, hshown⟩ => .inr ⟨Nat.le_trans hn hlong, hshown.imp_right hb⟩

namespace Checker

def withOptions (c : Checker) (minLength : Nat) (showSuccesses : Bool) : Checker :=
  { c with settings := { c.settings with minLength, showSuccesses } }

theorem passes_findingFor (c : Checker) (category : Category) (node : SourceNode)
    (display word : String) (n : Nat) (b : Bool) :
    (c.findingFor category node display word).Passes n b
      ↔ n ≤ word.length ∧ (c.dictionary.knows word = false ∨ b = true) := by
  simp [Finding.Passes, findingFor]

theorem finding?_eq_passes (c : Checker) (category : Category) (node : SourceNode)
    (display word : String) :
    c.finding? category node display word
      = if (c.findingFor category node display word).Passes c.settings.minLength
          c.settings.showSuccesses
        then some (c.findingFor category node display word) else none := by
  rw [finding?_eq]
  exact if_congr (passes_findingFor ..).symm rfl rfl

/-- A word is reported as under the most generous options, or refused. -/
theorem finding?_withOptions (c : Checker) (n : Nat) (b : Bool) (category : Category)
    (node : SourceNode) (display word : String) :
    (c.withOptions n b).finding? category node display word
      = ((c.withOptions 0 true).finding? category node display word).filter
          fun f => f.Passes n b := by
  -- The finding itself does not depend on the options, only whether it passes does.
  have hall : (c.withOptions 0 true).finding? category node display word
      = some (c.findingFor category node display word) := by
    rw [finding?_eq, if_pos ⟨Nat.zero_le _, .inr rfl⟩]
    rfl
  have hpasses : (c.withOptions n b).finding? category node display word
      = if (c.findingFor category node display word).Passes n b
        then some (c.findingFor category node display word) else none :=
    finding?_eq_passes (c.withOptions n b) category node display word
  rw [hall, hpasses]
  simp [Option.filter]

theorem check_eq_filter (c : Checker) (n : Nat) (b : Bool)
    (outcome : Except SyntaxFault SourceTree) :
    (c.withOptions n b).check outcome
      = ((c.withOptions 0 true).check outcome).filter fun f => f.Passes n b := by
  have hskip : (c.withOptions n b).skip = (c.withOptions 0 true).skip := rfl
  exact check_eq_filter_of_finding? hskip rfl (fun _ => ⟨rfl, decide_eq_true (.inl rfl)⟩)
    (finding?_withOptions c n b) outcome

/-- **Options filter.** The findings with least length `n` and with known words shown or not
(`b`) are those for all lengths and with known words shown, in the same order and unchanged, without
the ones that do not pass. So a greater least length or hiding known words only takes findings
away. A node with an exempt word has no findings under any options, also when that word is
shorter than the least length. -/
theorem check_withOptions (c : Checker) :
    (∀ outcome n b, (c.withOptions n b).check outcome
        = ((c.withOptions 0 true).check outcome).filter fun f => f.Passes n b)
      ∧ (∀ outcome n n' b b', n ≤ n' → (b' = true → b = true) →
          ((c.withOptions n' b').check outcome).Sublist ((c.withOptions n b).check outcome))
      ∧ ∀ category node raw word, category.text? node = some raw → word ∈ Text.normalize raw →
          word ∈ c.skip → ∀ n b, (c.withOptions n b).checkNode category node = [] := by
  refine ⟨fun outcome n b => check_eq_filter c n b outcome, ?_, ?_⟩
  · intro outcome n n' b b' hn hb
    rw [check_eq_filter c n' b', check_eq_filter c n b]
    refine List.monotone_filter_right _ fun f hf => ?_
    exact decide_eq_true ((of_decide_eq_true hf).mono hn hb)
  · intro category node raw word htext hword hexempt n b
    exact checkNode_of_exempts ⟨raw, htext, .inl ⟨word, hword, hexempt⟩⟩

/-- An exempt word of two letters empties its node although words need four letters, and the comment
on the next line loses its short word and the one that is known. -/
theorem check_withOptions_short_exempt :
    let c := Checker.mk ⟨(· == "this")⟩ (SkipSet.empty.withWords ["ng"]) {} false
    let tree : SourceTree := ⟨"// ng tset\n// this is tset".toList,
      .mk { kind := .program, start := .zero, stop := ⟨26, 1, 15⟩ } [
        .mk { kind := .comment, start := .zero, stop := ⟨10, 0, 10⟩ } [],
        .mk { kind := .comment, start := ⟨11, 1, 0⟩, stop := ⟨26, 1, 15⟩ } []]⟩
    (Category.comment.text? ⟨"comment", "// ng tset", 1, 1⟩ = some " ng tset"
        ∧ "ng" ∈ Text.normalize " ng tset" ∧ "ng".length < 4 ∧ "ng" ∈ c.skip
        ∧ (c.withOptions 4 false).checkNode .comment ⟨"comment", "// ng tset", 1, 1⟩ = [])
      ∧ ((c.withOptions 4 false).check (.ok tree)).Sublist
        ((c.withOptions 2 true).check (.ok tree))
      ∧ ((c.withOptions 2 true).check (.ok tree)).map (fun f => (f.word, f.misspelled))
        = [("this", false), ("is", true), ("tset", true)]
      ∧ ((c.withOptions 4 false).check (.ok tree)).map (fun f => (f.word, f.misspelled))
        = [("tset", true)] := by
  intro c tree
  have htext : Category.comment.text? ⟨"comment", "// ng tset", 1, 1⟩ = some " ng tset" := by
    decide
  have hword : "ng" ∈ Text.normalize " ng tset" := by decide
  have hexempt : "ng" ∈ c.skip := by decide
  obtain ⟨-, hmonotone, hnode⟩ := check_withOptions c
  exact ⟨⟨htext, hword, by decide, hexempt, hnode _ _ _ _ htext hword hexempt 4 false⟩,
    hmonotone (.ok tree) 2 4 true false (by decide) (by decide), by decide, by decide⟩

end Checker

end ScriptSpelling
