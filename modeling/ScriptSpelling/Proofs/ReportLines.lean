import ScriptSpelling.Proofs.Occurrence
import ScriptSpelling.Report
import Std.Data.String.ToNat

/-!
# A line of a report tells its finding

A message quotes the text of a node without marking where the quotation ends, and the text may
hold anything: spaces, the words of the message itself, even what looks like the end of a line of
a report. Nothing is lost all the same. A line is read from both ends: what stands after its last
space is the number of the line (`Report.line_inj`), what stands before its first space after the
opening is the category, and if the word is named, it stands after the last space that is left. A
word holds no space, so a text of which the word is all cannot be taken for one that names a word
(`remark_inj`).

The main statement is `Checker.eq_of_line_eq`.
-/

namespace ScriptSpelling

open Syntax

/-! ## Texts around a separator -/

section Separator

variable {α : Type} {sep : α}

/-- A text is determined up to the first separator. -/
theorem cut_at_first : ∀ {x y a b : List α}, sep ∉ x → sep ∉ y →
    x ++ sep :: a = y ++ sep :: b → x = y ∧ a = b
  | [], [], _, _, _, _, h => ⟨rfl, (List.cons.inj h).2⟩
  | [], d :: y, _, _, _, hy, h => by
      obtain ⟨rfl, -⟩ := List.cons.inj h
      exact absurd List.mem_cons_self hy
  | c :: x, [], _, _, hx, _, h => by
      obtain ⟨rfl, -⟩ := List.cons.inj h
      exact absurd List.mem_cons_self hx
  | c :: x, d :: y, _, _, hx, hy, h => by
      obtain ⟨rfl, hrest⟩ := List.cons.inj h
      obtain ⟨rfl, rfl⟩ := cut_at_first (fun hmem => hx (List.mem_cons_of_mem _ hmem))
        (fun hmem => hy (List.mem_cons_of_mem _ hmem)) hrest
      exact ⟨rfl, rfl⟩

/-- A text is determined from the last separator on. -/
theorem cut_at_last {x y a b : List α} (hx : sep ∉ x) (hy : sep ∉ y)
    (h : a ++ sep :: x = b ++ sep :: y) : a = b ∧ x = y := by
  have hreverse : x.reverse ++ sep :: a.reverse = y.reverse ++ sep :: b.reverse := by
    simpa using congrArg List.reverse h
  obtain ⟨hxy, hab⟩ := cut_at_first (by simpa using hx) (by simpa using hy) hreverse
  exact ⟨List.reverse_inj.mp hab, List.reverse_inj.mp hxy⟩

end Separator

/-! ## The number of a line -/

namespace Report

/-- How the line of a finding is written. -/
def lineNumber (line : Option Nat) : String := (line.map Nat.repr).getD "unknown"

theorem isDigit_of_mem_repr {n : Nat} {c : Char} (h : c ∈ n.repr.toList) : c.isDigit = true := by
  rw [Nat.repr_eq_ofList_toDigits, String.toList_ofList] at h
  exact Nat.isDigit_of_mem_toDigits (by omega) (by omega) h

theorem not_mem_lineNumber {c : Char} (hdigit : c.isDigit = false)
    (hletter : c ∉ "unknown".toList) (line : Option Nat) : c ∉ (lineNumber line).toList := by
  intro hmem
  cases line with
  | none => exact hletter hmem
  | some n =>
      rw [isDigit_of_mem_repr hmem] at hdigit
      cases hdigit

theorem repr_ne_unknown (n : Nat) : n.repr ≠ "unknown" := by
  intro heq
  have hmem : 'u' ∈ n.repr.toList := by
    rw [heq]
    decide
  exact absurd (isDigit_of_mem_repr hmem) (by decide)

theorem lineNumber_inj : ∀ {line line' : Option Nat}, lineNumber line = lineNumber line' →
    line = line'
  | none, none, _ => rfl
  | none, some n, h => absurd h.symm (repr_ne_unknown n)
  | some n, none, h => absurd h (repr_ne_unknown n)
  | some _, some _, h => congrArg some (Nat.repr_inj.mp h)

theorem line_inj {f f' : Finding} (h : line f = line f') :
    f.message = f'.message ∧ f.line = f'.line := by
  have hchars : ∀ g : Finding, (line g).toList
      = (g.message.toList ++ " On Line:".toList) ++ ' ' :: (lineNumber g.line).toList := by
    intro g
    simp [line, lineNumber]
  have hspace (line : Option Nat) : ' ' ∉ (lineNumber line).toList :=
    not_mem_lineNumber (by decide) (by decide) line
  have heq := congrArg String.toList h
  rw [hchars, hchars] at heq
  obtain ⟨hmessage, hnumber⟩ :=
    cut_at_last (hspace f.line) (hspace f'.line) heq
  exact ⟨String.toList_inj.mp (List.append_cancel_right hmessage),
    lineNumber_inj (String.toList_inj.mp hnumber)⟩

end Report

/-! ## What a message quotes -/

/-- The text of a node and, unless it is all of the text, the unknown word in it. -/
def remark (display word : String) : String :=
  if display = word then display else display ++ " misspelled: " ++ word

theorem remark_inj {display display' word word' : String} (hword : ' ' ∉ word.toList)
    (hword' : ' ' ∉ word'.toList) (h : remark display word = remark display' word') :
    display = display' ∧ word = word' := by
  have hspaced : ∀ display word : String, (display ++ " misspelled: " ++ word).toList
      = (display.toList ++ " misspelled:".toList) ++ ' ' :: word.toList := by
    intro display word
    simp
  have hspace : ∀ display word : String, ' ' ∈ (display ++ " misspelled: " ++ word).toList := by
    intro display word
    rw [hspaced]
    exact List.mem_append_right _ List.mem_cons_self
  unfold remark at h
  split at h <;> rename_i hall
  · split at h <;> rename_i hall'
    · subst hall hall'
      exact ⟨h, h⟩
    · -- Only one side names a word, and then only that side holds a space.
      subst hall
      rw [h] at hword
      exact absurd (hspace display' word') hword
  · split at h <;> rename_i hall'
    · subst hall'
      rw [← h] at hword'
      exact absurd (hspace display word) hword'
    · have heq := congrArg String.toList h
      rw [hspaced, hspaced] at heq
      obtain ⟨hdisplay, hwords⟩ := cut_at_last hword hword' heq
      exact ⟨String.toList_inj.mp (List.append_cancel_right hdisplay),
        String.toList_inj.mp hwords⟩

theorem space_not_mem_label (category : Category) : ' ' ∉ category.label.toList := by
  cases category <;> decide

theorem label_inj {category category' : Category} (h : category.label = category'.label) :
    category = category' := by
  cases category <;> cases category' <;> first | rfl | exact absurd h (by decide)

namespace Checker

/-! ## Messages without codes -/

/-- The messages of the checker hold no codes for a terminal. -/
def Unstyled (c : Checker) : Prop := (c.settings.color && c.codes) = false

variable {c c' : Checker}

theorem styled_of_unstyled (h : c.Unstyled) (style : Terminal.Style) (text : String) :
    c.styled style text = text := by
  rw [styled, h]
  rfl

theorem misspelling_of_unstyled (h : c.Unstyled) (category : Category) (display word : String) :
    c.misspelling category display word
      = "You have a misspelled " ++ category.label ++ " " ++ remark display word := by
  simp only [misspelling, styled_of_unstyled h, remark, beq_iff_eq]
  split
  · rfl
  · simp only [String.append_assoc]

theorem finding?_of_unstyled (h : c.Unstyled) {word : String}
    (hlength : c.settings.minLength ≤ word.length) (hunknown : c.dictionary.knows word = false)
    (category : Category) (node : SourceNode) (display : String) :
    c.finding? category node display word = some ⟨some category, word, display, some node.line,
      true, "You have a misspelled " ++ category.label ++ " " ++ remark display word⟩ := by
  rw [finding?, if_neg (Nat.not_lt.mpr hlength), hunknown, misspelling_of_unstyled h]
  rfl

theorem failure_message_of_unstyled (h : c.Unstyled) (fault : SyntaxFault) :
    (c.failure fault).message
      = "Can't check spelling - parser error: " ++ fault.cause.description := by
  rw [failure, styled_of_unstyled h]

theorem misspelling_inj (h : c.Unstyled) (h' : c'.Unstyled) {category category' : Category}
    {display display' word word' : String} (hword : ' ' ∉ word.toList)
    (hword' : ' ' ∉ word'.toList)
    (heq : c.misspelling category display word = c'.misspelling category' display' word') :
    category = category' ∧ display = display' ∧ word = word' := by
  rw [misspelling_of_unstyled h, misspelling_of_unstyled h'] at heq
  have hchars : ∀ (category : Category) (display word : String),
      ("You have a misspelled " ++ category.label ++ " " ++ remark display word).toList
        = "You have a misspelled ".toList
          ++ (category.label.toList ++ ' ' :: (remark display word).toList) := by
    intro category display word
    simp
  have hlists := congrArg String.toList heq
  rw [hchars, hchars] at hlists
  obtain ⟨hlabel, hremark⟩ := cut_at_first (space_not_mem_label category)
    (space_not_mem_label category') (List.append_cancel_left hlists)
  exact ⟨label_inj (String.toList_inj.mp hlabel),
    remark_inj hword hword' (String.toList_inj.mp hremark)⟩

/-! ## Findings of a check -/

/-- A misspelled word comes with the message for it, and the word holds no space. -/
theorem exists_misspelling_of_mem_check {outcome : Except SyntaxFault SourceTree} {f : Finding}
    (hf : f ∈ c.check outcome) (hmisspelled : f.misspelled = true) :
    ∃ category node display word, ' ' ∉ word.toList
      ∧ f.message = c.misspelling category display word
      ∧ f = c.findingFor category node display word := by
  cases outcome with
  | error fault =>
      obtain rfl := List.mem_singleton.mp hf
      cases hmisspelled
  | ok tree =>
      obtain ⟨o, node, raw, word, hholds, rfl⟩ := exists_findingFor_of_mem_check hf
      have hunknown : c.dictionary.knows word = false := by simpa [findingFor] using hmisspelled
      refine ⟨o.category, node, Text.trim raw, word, ?_, by simp [findingFor, hunknown], rfl⟩
      intro hspace
      have hsmall := (Text.mem_normalize (List.mem_of_getElem? hholds.word_at)).2 _ hspace
      exact absurd hsmall (by decide)

/-- A finding without a category is that of a source which cannot be read. -/
theorem exists_failure_of_mem_check {outcome : Except SyntaxFault SourceTree} {f : Finding}
    (hf : f ∈ c.check outcome) (hcategory : f.category = none) :
    ∃ fault, outcome = .error fault ∧ f = c.failure fault := by
  cases outcome with
  | error fault => exact ⟨fault, rfl, List.mem_singleton.mp hf⟩
  | ok tree =>
      obtain ⟨o, node, raw, word, -, rfl⟩ := exists_findingFor_of_mem_check hf
      cases hcategory

theorem misspelling_ne_failure (hc : c.Unstyled) (hc' : c'.Unstyled) (fault : SyntaxFault)
    (category : Category) (display word : String) :
    (c.failure fault).message ≠ c'.misspelling category display word := by
  rw [failure_message_of_unstyled hc, misspelling_of_unstyled hc']
  intro heq
  have hhead := congrArg (fun s : String => s.toList.head?) heq
  simp at hhead

/-- **Lines tell findings apart.** Among all findings of all checks without codes for a terminal,
whatever their sources, dictionaries, exempt words and settings: two misspelled words with the same
line in a report are the same in category, word, text and line, and so the same finding; the line
of a source that cannot be read is never that of a misspelled word; and two sources that cannot be
read have the same line in a report only if they have the same message and the same line. -/
theorem eq_of_line_eq (hc : c.Unstyled) (hc' : c'.Unstyled)
    {outcome outcome' : Except SyntaxFault SourceTree} {f f' : Finding}
    (hf : f ∈ c.check outcome) (hf' : f' ∈ c'.check outcome') :
    (f.misspelled = true → f'.misspelled = true → Report.line f = Report.line f' →
        f.category = f'.category ∧ f.word = f'.word ∧ f.text = f'.text ∧ f.line = f'.line
          ∧ f = f')
      ∧ (f.category = none → f'.misspelled = true → Report.line f ≠ Report.line f')
      ∧ (f.category = none → f'.category = none → Report.line f = Report.line f' →
        f.message = f'.message ∧ f.line = f'.line ∧ f = f') := by
  refine ⟨?_, ?_, ?_⟩
  · intro hmisspelled hmisspelled' heq
    obtain ⟨hmessages, hlines⟩ := Report.line_inj heq
    obtain ⟨category, node, display, word, hword, hmessage, rfl⟩ :=
      exists_misspelling_of_mem_check hf hmisspelled
    obtain ⟨category', node', display', word', hword', hmessage', rfl⟩ :=
      exists_misspelling_of_mem_check hf' hmisspelled'
    rw [hmessage, hmessage'] at hmessages
    obtain ⟨rfl, rfl, rfl⟩ := misspelling_inj hc hc' hword hword' hmessages
    refine ⟨rfl, rfl, rfl, hlines, ?_⟩
    rw [Finding.mk.injEq]
    exact ⟨rfl, rfl, rfl, hlines, hmisspelled.trans hmisspelled'.symm,
      hmessage.trans (hmessages.trans hmessage'.symm)⟩
  · intro hcategory hmisspelled' heq
    obtain ⟨fault, -, rfl⟩ := exists_failure_of_mem_check hf hcategory
    obtain ⟨category', node', display', word', -, hmessage', -⟩ :=
      exists_misspelling_of_mem_check hf' hmisspelled'
    have hmessages := (Report.line_inj heq).1
    rw [hmessage'] at hmessages
    exact misspelling_ne_failure hc hc' fault category' display' word' hmessages
  · intro hcategory hcategory' heq
    obtain ⟨hmessages, hlines⟩ := Report.line_inj heq
    obtain ⟨fault, -, rfl⟩ := exists_failure_of_mem_check hf hcategory
    obtain ⟨fault', -, rfl⟩ := exists_failure_of_mem_check hf' hcategory'
    refine ⟨hmessages, hlines, ?_⟩
    rw [Finding.mk.injEq]
    exact ⟨rfl, rfl, rfl, hlines, rfl, hmessages⟩

/-- The same comment under two checkers, of which one also shows known words, and a source that
cannot be read. The text of the comment looks like a line of a report. -/
theorem eq_of_line_eq_comment :
    let c := Checker.mk ⟨fun _ => false⟩ .empty {} true
    let c' := Checker.mk ⟨fun _ => false⟩ .empty { showSuccesses := true, minLength := 4 } false
    let node : SourceNode := ⟨"comment", "// tset On Line: 3", 1, 1⟩
    let tree : SourceTree := ⟨node.text.toList,
      .mk { kind := .comment, start := .zero, stop := ⟨18, 0, 18⟩ } []⟩
    let f := c.findingFor .comment node "tset On Line: 3" "tset"
    let f' := c'.findingFor .comment node "tset On Line: 3" "tset"
    let g := c.failure ⟨.endOfInput, some 1, some 1⟩
    (c.Unstyled ∧ c'.Unstyled)
      ∧ (f ∈ c.check (.ok tree) ∧ f' ∈ c'.check (.ok tree) ∧ f.misspelled = true
        ∧ f'.misspelled = true ∧ Report.line f = Report.line f' ∧ f = f')
      ∧ (g ∈ c.check (.error ⟨.endOfInput, some 1, some 1⟩) ∧ g.category = none
        ∧ Report.line g ≠ Report.line f') := by
  intro c c' node tree f f' g
  have hc : c.Unstyled := rfl
  have hc' : c'.Unstyled := rfl
  have hunknown : c.dictionary.knows "tset" = false := rfl
  have hholds : Occurrence.Holds ⟨.comment, 0, 0⟩ tree node " tset On Line: 3" "tset" :=
    ⟨by decide, by decide, by decide⟩
  have hf : f ∈ c.check (.ok tree) :=
    findingFor_mem_check hholds ⟨by decide, by decide, by decide, .inl hunknown⟩
  have hf' : f' ∈ c'.check (.ok tree) :=
    findingFor_mem_check hholds ⟨by decide, by decide, by decide, .inl hunknown⟩
  have hg : g ∈ c.check (.error ⟨.endOfInput, some 1, some 1⟩) := List.mem_singleton_self _
  have hmisspelled : f.misspelled = true := congrArg not hunknown
  have hmisspelled' : f'.misspelled = true := congrArg not hunknown
  have hline : Report.line f = Report.line f' := rfl
  obtain ⟨-, -, -, -, hsame⟩ := (eq_of_line_eq hc hc' hf hf').1 hmisspelled hmisspelled' hline
  exact ⟨⟨hc, hc'⟩, ⟨hf, hf', hmisspelled, hmisspelled', hline, hsame⟩, hg, rfl,
    (eq_of_line_eq hc hc' hg hf').2.1 rfl hmisspelled'⟩

end Checker

end ScriptSpelling
