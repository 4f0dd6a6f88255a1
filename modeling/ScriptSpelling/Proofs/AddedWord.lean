import ScriptSpelling.Proofs.Compound
import ScriptSpelling.Proofs.Lowercase
import ScriptSpelling.Proofs.Occurrence

/-!
# One more exempt word

A word that is added to the exempt words is stored in its form, trimmed and in lowercase. The form
empties a node if it is one of the words of the node's text, or for an identifier the whole name
(`SkipSet.Means`); what was exempt before stays so, and nothing else changes
(`Checker.checkNode_insert`).

The words of a text consist of small letters. So a form with any other character is no word of a
text, and only names can be meant by it. A finding shows the trimmed text of its node, and a text
has the same words when it is trimmed (`Text.normalize_trim`), so which findings go can be read off
the findings themselves. The main statement is `Checker.check_insert`.
-/

namespace ScriptSpelling

open Syntax

/-! ## White space around a text -/

namespace Text

theorem isLetter_of_isBlank {c : Char} (h : isBlank c = true) : isLetter c = false := by
  rw [← Bool.not_eq_true, isLetter_iff, isCapital_iff, isSmall_iff]
  intro hletter
  simp only [isBlank, Bool.or_eq_true, Bool.and_eq_true, decide_eq_true_eq, beq_iff_eq] at h
  omega

theorem wordsOf_append_gap (cs : List Char) {gap : List Char}
    (h : ∀ c ∈ gap, isLetter c = false) : wordsOf (cs ++ gap) = wordsOf cs := by
  have hnone : wordsOf gap = [] := by
    have hgap := wordsOf_gap_append [] h
    rwa [List.append_nil] at hgap
  have hread := (reads_wordsOf cs).append (reads_wordsOf gap) fun a _ b hb =>
    cutsBetween_of_not_letter_right a (h b (List.mem_of_mem_head? hb))
  rw [hnone, List.append_nil] at hread
  exact hread.eq_wordsOf.symm

theorem normalize_trim (raw : String) : normalize (trim raw) = normalize raw := by
  obtain ⟨before, after, hbefore, hafter, htext⟩ := exists_pads_of_trimChars raw.toList
  have hwords : wordsOf raw.toList = wordsOf (trimChars raw.toList) := by
    conv_lhs => rw [htext]
    rw [wordsOf_gap_append _ fun c hc => isLetter_of_isBlank (hbefore c hc),
      wordsOf_append_gap _ fun c hc => isLetter_of_isBlank (hafter c hc)]
  rw [normalize, normalize, hwords, trim, String.toList_ofList]

theorem lowercase_eq_empty_iff {s : String} : lowercase s = "" ↔ s = "" := by
  rw [lowercase, String.ofList_eq_empty_iff, lowerChars_eq_nil_iff, String.toList_eq_nil_iff]

/-- The text is a word as they are cut out of texts. -/
def IsWord (s : String) : Prop := s ≠ "" ∧ ∀ c ∈ s.toList, 'a' ≤ c ∧ c ≤ 'z'

instance (s : String) : Decidable (IsWord s) :=
  decidable_of_iff (s ≠ "" ∧ s.toList.all isSmall = true) (by simp [IsWord, isSmall])

theorem isWord_of_mem_normalize {raw word : String} (h : word ∈ normalize raw) : IsWord word := by
  obtain ⟨hne, hsmall⟩ := mem_normalize h
  refine ⟨hne, fun c hc => ?_⟩
  simpa [isSmall] using hsmall c hc

end Text

/-! ## Texts that a form means -/

namespace SkipSet

/-- The form `e` means a text of the category: it is one of its words, or the name that it is. -/
def Means (e : String) (category : Category) (raw : String) : Prop :=
  e ∈ Text.normalize raw ∨ (category = .identifier ∧ Text.lowercase (Text.trim raw) = e)

instance (e : String) (category : Category) (raw : String) : Decidable (Means e category raw) :=
  inferInstanceAs (Decidable (_ ∨ _))

def MeansNode (e : String) (category : Category) (node : SourceNode) : Prop :=
  ∃ raw ∈ category.text? node, Means e category raw

instance (e : String) (category : Category) (node : SourceNode) :
    Decidable (MeansNode e category node) :=
  inferInstanceAs (Decidable (∃ raw ∈ category.text? node, Means e category raw))

theorem exempts_insert_iff {s : SkipSet} {v : String} (h : Text.trim v ≠ "") {category : Category}
    {raw : String} :
    (s.insert v).Exempts category raw ↔ s.Exempts category raw ∨ Means (entry v) category raw := by
  have hmem (e : String) : e ∈ s.insert v ↔ e ∈ s ∨ e = entry v := by
    simp [mem_insert_iff, mem_entries, h]
  simp only [Exempts, Means, hmem]
  constructor
  · rintro (⟨word, hword, hold | rfl⟩ | ⟨hcategory, hold | hname⟩)
    · exact .inl (.inl ⟨word, hword, hold⟩)
    · exact .inr (.inl hword)
    · exact .inl (.inr ⟨hcategory, hold⟩)
    · exact .inr (.inr ⟨hcategory, hname⟩)
  · rintro ((⟨word, hword, hold⟩ | ⟨hcategory, hold⟩) | hword | ⟨hcategory, hname⟩)
    · exact .inl ⟨word, hword, .inl hold⟩
    · exact .inr ⟨hcategory, .inl hold⟩
    · exact .inl ⟨_, hword, .inr rfl⟩
    · exact .inr ⟨hcategory, .inr hname⟩

/-- A form that is no word means names only. -/
theorem means_iff_of_not_isWord {e : String} (h : ¬ Text.IsWord e) {category : Category}
    {raw : String} :
    Means e category raw ↔ category = .identifier ∧ Text.lowercase (Text.trim raw) = e :=
  or_iff_right fun hword => h (Text.isWord_of_mem_normalize hword)

/-- The form of a blank word means no text with words. -/
theorem normalize_eq_nil_of_means {v : String} (h : Text.trim v = "") {category : Category}
    {raw : String} (hmeant : Means (entry v) category raw) : Text.normalize raw = [] := by
  have hentry : entry v = "" := by
    rw [entry, h]
    rfl
  rw [hentry] at hmeant
  rcases hmeant with hword | ⟨-, hname⟩
  · exact absurd rfl (Text.mem_normalize hword).1
  · rw [← Text.normalize_trim, Text.lowercase_eq_empty_iff.mp hname]
    rfl

end SkipSet

/-- The form means the text that the finding shows. -/
def Finding.MeantBy (f : Finding) (e : String) : Prop :=
  e ∈ Text.normalize f.text ∨ (f.category = some .identifier ∧ Text.lowercase f.text = e)

instance (f : Finding) (e : String) : Decidable (f.MeantBy e) :=
  inferInstanceAs (Decidable (_ ∨ _))

namespace Checker

/-! ## One node -/

theorem text?_of_mem_checkNode {c : Checker} {category : Category} {node : SourceNode}
    {f : Finding} (h : f ∈ c.checkNode category node) : ∃ raw, category.text? node = some raw
      ∧ f.category = some category ∧ f.text = Text.trim raw := by
  cases htext : category.text? node with
  | none => simp [checkNode, htext] at h
  | some raw =>
      refine ⟨raw, rfl, ?_⟩
      rw [checkNode_of_text htext] at h
      split at h
      · exact absurd h List.not_mem_nil
      · obtain ⟨word, -, hword⟩ := List.mem_filterMap.mp h
        rw [finding?_eq] at hword
        split at hword
        · obtain rfl := Option.some.inj hword
          exact ⟨rfl, rfl⟩
        · cases hword

/-- With one more exempt word, the nodes that its form means have no findings, and the others have
the same. -/
theorem checkNode_insert (c : Checker) (v : String) (category : Category) (node : SourceNode) :
    (c.withSkip (c.skip.insert v)).checkNode category node
      = if SkipSet.MeansNode (SkipSet.entry v) category node then []
        else c.checkNode category node := by
  cases htext : category.text? node with
  | none => simp [checkNode, SkipSet.MeansNode, htext]
  | some raw =>
      have hmeant : SkipSet.MeansNode (SkipSet.entry v) category node
          ↔ SkipSet.Means (SkipSet.entry v) category raw := by
        simp [SkipSet.MeansNode, htext]
      rw [if_congr hmeant rfl rfl]
      by_cases hblank : Text.trim v = ""
      · -- Nothing is stored for a blank word, and what it could mean has no words.
        have hsame : c.withSkip (c.skip.insert v) = c := by
          rw [SkipSet.insert, if_pos (String.isEmpty_iff.mpr hblank)]
          rfl
        rw [hsame]
        split
        case isTrue hmeant =>
          rw [checkNode_of_text htext, SkipSet.normalize_eq_nil_of_means hblank hmeant,
            List.filterMap_nil, ite_self]
        case isFalse => rfl
      · have hexempts : (c.withSkip (c.skip.insert v)).skip.Exempts category raw
            ↔ c.skip.Exempts category raw ∨ SkipSet.Means (SkipSet.entry v) category raw := by
          rw [skip_withSkip]
          exact SkipSet.exempts_insert_iff hblank
        rw [checkNode_of_text htext, checkNode_of_text htext, if_congr hexempts rfl rfl,
          finding?_withSkip]
        by_cases hexempt : c.skip.Exempts category raw
        · rw [if_pos (.inl hexempt), if_pos hexempt, ite_self]
        · rw [if_congr (or_iff_right hexempt) rfl rfl, if_neg hexempt]

/-! ## A whole check -/

/-- A finding goes exactly if the added word means the text that it shows. -/
theorem checkNode_insert_eq_filter (c : Checker) (v : String) (category : Category)
    (node : SourceNode) :
    (c.withSkip (c.skip.insert v)).checkNode category node
      = (c.checkNode category node).filter fun f => ¬ f.MeantBy (SkipSet.entry v) := by
  have hshows (f) (hf : f ∈ c.checkNode category node) :
      f.MeantBy (SkipSet.entry v) ↔ SkipSet.MeansNode (SkipSet.entry v) category node := by
    obtain ⟨raw, htext, hcategory, hshown⟩ := text?_of_mem_checkNode hf
    simp [Finding.MeantBy, SkipSet.MeansNode, SkipSet.Means, htext, hcategory, hshown,
      Text.normalize_trim]
  rw [checkNode_insert]
  by_cases hmeant : SkipSet.MeansNode (SkipSet.entry v) category node
  · rw [if_pos hmeant, eq_comm, List.filter_eq_nil_iff]
    intro f hf
    simp [(hshows f hf).mpr hmeant]
  · rw [if_neg hmeant, eq_comm, List.filter_eq_self]
    intro f hf
    simp [mt (hshows f hf).mp hmeant]

theorem check_insert_eq_filter (c : Checker) (v : String)
    (outcome : Except SyntaxFault SourceTree) :
    (c.withSkip (c.skip.insert v)).check outcome
      = (c.check outcome).filter fun f => ¬ f.MeantBy (SkipSet.entry v) := by
  cases outcome with
  | error fault =>
      have hkept : ¬ (c.failure fault).MeantBy (SkipSet.entry v) := by
        rintro (hword | ⟨hcategory, -⟩)
        · exact absurd hword List.not_mem_nil
        · cases hcategory
      rw [check_error_withSkip, check, List.filter_cons, if_pos (decide_eq_true hkept),
        List.filter_nil]
  | ok tree =>
      rw [check_ok_eq_flatMap, check_ok_eq_flatMap, visits_withSkip, List.filter_flatMap]
      exact congrArg (List.flatMap · _) (funext fun visit =>
        checkNode_insert_eq_filter c v visit.1 visit.2)

/-- **One more exempt word.** Let `v` be added to the exempt words of a checker. If the trimmed
lowercase form of `v` is empty or has a character other than a small letter, the findings for
strings and comments stay as they are, and of those for identifiers exactly the ones go whose
trimmed and lowercased name is the form. If it is a word, the findings for exactly those nodes go
that have it among their words, and for the identifiers whose trimmed and lowercased name it is.
Everything else stays, in the same order; the report of a source that cannot be read always does. -/
theorem check_insert (c : Checker) (v : String) :
    let form := Text.lowercase (Text.trim v)
    let c' := c.withSkip (c.skip.insert v)
    (¬ Text.IsWord form →
        (∀ category tree, category ≠ .identifier →
          c'.checkTree tree category = c.checkTree tree category)
        ∧ (∀ node, c'.checkNode .identifier node
          = if Text.lowercase (Text.trim node.text) = form then []
            else c.checkNode .identifier node)
        ∧ ∀ outcome, c'.check outcome = (c.check outcome).filter fun f =>
          ¬ (f.category = some .identifier ∧ Text.lowercase f.text = form))
      ∧ (Text.IsWord form →
        (∀ category node, c'.checkNode category node
          = if SkipSet.MeansNode form category node then [] else c.checkNode category node)
        ∧ ∀ outcome, c'.check outcome = (c.check outcome).filter fun f => ¬ f.MeantBy form)
      ∧ (∀ tree,
        c.check (.ok tree) = (c.visits tree).flatMap (fun visit => c.checkNode visit.1 visit.2)
        ∧ c'.check (.ok tree)
          = (c.visits tree).flatMap fun visit => c'.checkNode visit.1 visit.2)
      ∧ ∀ fault, c'.check (.error fault) = c.check (.error fault) := by
  intro form c'
  refine ⟨fun hform => ⟨?_, ?_, fun outcome => ?_⟩, fun _ => ⟨checkNode_insert c v,
    check_insert_eq_filter c v⟩, fun tree => ⟨check_ok_eq_flatMap c tree, ?_⟩,
    check_error_withSkip c _⟩
  · intro category tree hcategory
    refine congrArg (List.flatMap · _) (funext fun node => ?_)
    rw [checkNode_insert, if_neg]
    rintro ⟨raw, -, hmeant⟩
    exact hcategory ((SkipSet.means_iff_of_not_isWord hform).mp hmeant).1
  · intro node
    have hname : SkipSet.MeansNode form .identifier node
        ↔ Text.lowercase (Text.trim node.text) = form := by
      simp [SkipSet.MeansNode, Category.text?, SkipSet.means_iff_of_not_isWord hform]
    exact (checkNode_insert c v .identifier node).trans (if_congr hname rfl rfl)
  · rw [check_insert_eq_filter]
    refine List.filter_congr fun f _ => decide_eq_decide.mpr (not_congr ?_)
    exact or_iff_right fun hword => hform (Text.isWord_of_mem_normalize hword)
  · rw [check_ok_eq_flatMap, visits_withSkip]

/-- A name with a digit leaves a comment alone that its parts stand in, and one of these parts does
not. -/
theorem check_insert_number_inside :
    let c := Checker.mk ⟨fun _ => false⟩ .empty {} false
    let tree : SourceTree := ⟨"// Int8Array".toList,
      .mk { kind := .comment, start := .zero, stop := ⟨12, 0, 12⟩ } []⟩
    (c.checkTree tree .comment).map Finding.word = ["int", "array"]
      ∧ (¬ Text.IsWord (Text.lowercase (Text.trim " Int8Array "))
        ∧ Category.comment ≠ .identifier
        ∧ (c.withSkip (c.skip.insert " Int8Array ")).checkTree tree .comment
          = c.checkTree tree .comment
        ∧ (c.withSkip (c.skip.insert " Int8Array ")).checkNode .identifier
          ⟨"identifier", "int8array", 1, 1⟩ = [])
      ∧ Text.IsWord (Text.lowercase (Text.trim "Array"))
      ∧ (c.withSkip (c.skip.insert "Array")).checkNode .comment
        ⟨"comment", "// Int8Array", 1, 1⟩ = [] := by
  intro c tree
  have hname : ¬ Text.IsWord (Text.lowercase (Text.trim " Int8Array ")) := by decide +kernel
  have hword : Text.IsWord (Text.lowercase (Text.trim "Array")) := by decide +kernel
  have hwords : (c.checkTree tree .comment).map Finding.word = ["int", "array"] := by decide
  obtain ⟨hkept, hnames, -⟩ := (check_insert c " Int8Array ").1 hname
  obtain ⟨hnodes, -⟩ := (check_insert c "Array").2.1 hword
  have hother : Category.comment ≠ .identifier := by decide
  have hcomment := hkept .comment tree hother
  have hidentifier := hnames ⟨"identifier", "int8array", 1, 1⟩
  rw [if_pos (by decide +kernel)] at hidentifier
  have hnode := hnodes .comment ⟨"comment", "// Int8Array", 1, 1⟩
  rw [if_pos (by decide +kernel)] at hnode
  refine ⟨hwords, ⟨hname, hother, hcomment, hidentifier⟩, hword, hnode⟩

end Checker

end ScriptSpelling
