import Mathlib.Data.List.TakeWhile
import ScriptSpelling.Text.Blank

/-!
# Lines of a text and the white space around it

A text is cut into lines at its line breaks, and a line is looked at without the white space around
it. So nothing depends on whether a line is ended by LF or by CR and LF: a CR before the end is
white space like any other (`trimChars_dropCarriageReturn`). What trimming takes away is told by
three equations, for white space in front, behind and around a text that has none at its ends
(`Trimmed`).
-/

namespace ScriptSpelling.Text

/-! ## Pieces between line breaks -/

theorem splitLines_ne_nil : ∀ cs : List Char, splitLines cs ≠ []
  | [] => List.cons_ne_nil _ _
  | c :: cs => by
      rw [splitLines]
      split
      · exact List.cons_ne_nil _ _
      · split <;> exact List.cons_ne_nil _ _

theorem splitLines_newline (cs : List Char) : splitLines ('\n' :: cs) = [] :: splitLines cs := by
  rw [splitLines]
  split
  · exact absurd ‹_› (splitLines_ne_nil cs)
  · rename_i h
    rw [if_pos rfl, h]

theorem splitLines_cons {c : Char} (hc : c ≠ '\n') (cs : List Char) :
    splitLines (c :: cs) = (splitLines cs).modifyHead (c :: ·) := by
  rw [splitLines]
  split
  · exact absurd ‹_› (splitLines_ne_nil cs)
  · rename_i h
    rw [if_neg hc, h]
    rfl

theorem splitLines_append_newline (ds : List Char) : ∀ cs : List Char,
    splitLines (cs ++ '\n' :: ds) = splitLines cs ++ splitLines ds
  | [] => splitLines_newline ds
  | c :: cs => by
      by_cases hc : c = '\n'
      · subst hc
        rw [List.cons_append, splitLines_newline, splitLines_newline,
          splitLines_append_newline ds cs, List.cons_append]
      · rw [List.cons_append, splitLines_cons hc, splitLines_cons hc,
          splitLines_append_newline ds cs]
        cases h : splitLines cs with
        | nil => exact absurd h (splitLines_ne_nil cs)
        | cons line more => rfl

theorem length_splitLines : ∀ cs : List Char, (splitLines cs).length = cs.count '\n' + 1
  | [] => rfl
  | c :: cs => by
      by_cases hc : c = '\n'
      · subst hc
        rw [splitLines_newline, List.length_cons, length_splitLines cs, List.count_cons_self]
      · rw [splitLines_cons hc, List.length_modifyHead, length_splitLines cs,
          List.count_cons_of_ne hc]

theorem splitLines_of_not_mem : ∀ {cs : List Char}, '\n' ∉ cs → splitLines cs = [cs]
  | [], _ => rfl
  | c :: cs, h => by
      rw [List.mem_cons, not_or] at h
      rw [splitLines_cons (Ne.symm h.1), splitLines_of_not_mem h.2]
      rfl

theorem newline_not_mem_splitLines : ∀ {cs line : List Char}, line ∈ splitLines cs → '\n' ∉ line
  | [], line, h => by
      obtain rfl := List.mem_singleton.mp h
      exact List.not_mem_nil
  | c :: cs, line, h => by
      by_cases hc : c = '\n'
      · subst hc
        rw [splitLines_newline] at h
        rcases List.mem_cons.mp h with rfl | h
        · exact List.not_mem_nil
        · exact newline_not_mem_splitLines h
      · rw [splitLines_cons hc] at h
        cases hlines : splitLines cs with
        | nil => exact absurd hlines (splitLines_ne_nil cs)
        | cons first more =>
            rw [hlines] at h
            rcases List.mem_cons.mp h with rfl | h
            · exact List.not_mem_cons_of_ne_of_not_mem (Ne.symm hc)
                (newline_not_mem_splitLines (hlines ▸ List.mem_cons_self))
            · exact newline_not_mem_splitLines (hlines ▸ List.mem_cons_of_mem _ h)

/-! ## Lines -/

theorem dropCarriageReturn_subset (line : List Char) : dropCarriageReturn line ⊆ line := by
  unfold dropCarriageReturn
  split
  · rename_i front h
    intro c hc
    rw [← List.mem_reverse, h]
    exact List.mem_cons_of_mem _ (List.mem_reverse.mp hc)
  · exact List.Subset.refl line

theorem exists_subset_of_mem_endLines {line : List Char} : ∀ {pieces : List (List Char)},
    line ∈ endLines pieces → ∃ piece ∈ pieces, line ⊆ piece
  | [], h => nomatch h
  | [last], h => by
      rw [endLines] at h
      split at h
      · cases h
      · exact ⟨last, List.mem_cons_self, List.mem_singleton.mp h ▸ List.Subset.refl _⟩
  | first :: next :: more, h => by
      rw [endLines] at h
      · rcases List.mem_cons.mp h with rfl | h
        · exact ⟨first, List.mem_cons_self, dropCarriageReturn_subset first⟩
        · obtain ⟨piece, hpiece, hsubset⟩ := exists_subset_of_mem_endLines h
          exact ⟨piece, List.mem_cons_of_mem _ hpiece, hsubset⟩
      · simp

theorem newline_not_mem_lines {cs line : List Char} (h : line ∈ lines cs) : '\n' ∉ line := by
  obtain ⟨piece, hpiece, hsubset⟩ := exists_subset_of_mem_endLines h
  exact fun hmem => newline_not_mem_splitLines hpiece (hsubset hmem)

theorem endLines_cons (line : List Char) {pieces : List (List Char)} (h : pieces ≠ []) :
    endLines (line :: pieces) = dropCarriageReturn line :: endLines pieces := by
  rw [endLines]
  exact fun hnil => h hnil

theorem lines_append_newline {line : List Char} (h : '\n' ∉ line) (rest : List Char) :
    lines (line ++ '\n' :: rest) = dropCarriageReturn line :: lines rest := by
  rw [lines, splitLines_append_newline, splitLines_of_not_mem h, List.singleton_append,
    endLines_cons line (splitLines_ne_nil rest), lines]

theorem lines_of_not_mem {line : List Char} (h : '\n' ∉ line) :
    lines line = if line.isEmpty then [] else [line] := by
  rw [lines, splitLines_of_not_mem h, endLines]

/-! ## Trimming -/

theorem trimStart_subset (cs : List Char) : trimStart cs ⊆ cs := List.dropWhile_subset _

theorem trimChars_subset (cs : List Char) : trimChars cs ⊆ cs := by
  intro c hc
  have hstart := trimStart_subset _ (List.mem_reverse.mp hc)
  exact trimStart_subset cs (List.mem_reverse.mp hstart)

theorem trimStart_append {pad : List Char} (h : ∀ c ∈ pad, isBlank c = true) (cs : List Char) :
    trimStart (pad ++ cs) = trimStart cs :=
  List.dropWhile_append_of_pos h

theorem trimEnd_append {pad : List Char} (h : ∀ c ∈ pad, isBlank c = true) (cs : List Char) :
    trimEnd (cs ++ pad) = trimEnd cs := by
  have hreverse : ∀ c ∈ pad.reverse, isBlank c = true := fun c hc => h c (List.mem_reverse.mp hc)
  rw [trimEnd, List.reverse_append, trimStart_append hreverse, trimEnd]

theorem exists_pad_append_trimStart (cs : List Char) :
    ∃ pad, (∀ c ∈ pad, isBlank c = true) ∧ cs = pad ++ trimStart cs :=
  ⟨cs.takeWhile isBlank, fun _ hc => List.mem_takeWhile_imp hc,
    List.takeWhile_append_dropWhile.symm⟩

theorem exists_trimEnd_append_pad (cs : List Char) :
    ∃ pad, (∀ c ∈ pad, isBlank c = true) ∧ cs = trimEnd cs ++ pad := by
  obtain ⟨pad, hpad, hcs⟩ := exists_pad_append_trimStart cs.reverse
  refine ⟨pad.reverse, fun c hc => hpad c (List.mem_reverse.mp hc), ?_⟩
  rw [trimEnd, ← List.reverse_append, ← hcs, List.reverse_reverse]

/-- Only white space is lost when a text is trimmed. -/
theorem exists_pads_of_trimChars (cs : List Char) : ∃ before after,
    (∀ c ∈ before, isBlank c = true) ∧ (∀ c ∈ after, isBlank c = true)
      ∧ cs = before ++ (trimChars cs ++ after) := by
  obtain ⟨before, hbefore, hstart⟩ := exists_pad_append_trimStart cs
  obtain ⟨after, hafter, hend⟩ := exists_trimEnd_append_pad (trimStart cs)
  refine ⟨before, after, hbefore, hafter, ?_⟩
  rw [trimChars, ← hend, ← hstart]

theorem trimChars_append_left {pad : List Char} (h : ∀ c ∈ pad, isBlank c = true)
    (cs : List Char) : trimChars (pad ++ cs) = trimChars cs := by
  rw [trimChars, trimStart_append h, trimChars]

theorem trimChars_append_right {pad : List Char} (h : ∀ c ∈ pad, isBlank c = true)
    (cs : List Char) : trimChars (cs ++ pad) = trimChars cs := by
  have hpad : trimStart pad = [] := List.dropWhile_eq_nil_iff.mpr h
  have hstart : trimStart (cs ++ pad)
      = if (trimStart cs).isEmpty then [] else trimStart cs ++ pad := by
    rw [trimStart, List.dropWhile_append, ← trimStart, ← trimStart, hpad]
  rw [trimChars, hstart, trimChars]
  split
  · rename_i hnothing
    rw [List.isEmpty_iff.mp hnothing]
  · exact trimEnd_append h _

theorem trimEnd_append_cons {c : Char} (hc : isBlank c = false) (cs rest : List Char) :
    trimEnd (cs ++ c :: rest) = cs ++ c :: trimEnd rest := by
  have hstart : trimStart (rest.reverse ++ c :: cs.reverse)
      = trimStart rest.reverse ++ c :: cs.reverse := by
    have hstop : (c :: cs.reverse).dropWhile isBlank = c :: cs.reverse :=
      List.dropWhile_cons_of_neg (by simp [hc])
    rw [trimStart, List.dropWhile_append, hstop]
    split
    · rename_i hnothing
      rw [trimStart, List.isEmpty_iff.mp hnothing, List.nil_append]
    · rfl
  have hreverse : (cs ++ c :: rest).reverse = rest.reverse ++ c :: cs.reverse := by simp
  rw [trimEnd, hreverse, hstart, List.reverse_append, List.reverse_cons, List.reverse_reverse,
    ← trimEnd, List.append_assoc, List.singleton_append]

/-- The text has no white space at either end. -/
structure Trimmed (cs : List Char) : Prop where
  head : ∀ c ∈ cs.head?, isBlank c = false
  last : ∀ c ∈ cs.getLast?, isBlank c = false

instance (cs : List Char) : Decidable (Trimmed cs) :=
  decidable_of_iff ((cs.head?.all fun c => isBlank c = false) = true
      ∧ (cs.getLast?.all fun c => isBlank c = false) = true) <| by
    simp only [Option.all_eq_true, decide_eq_true_eq]
    exact ⟨fun ⟨hhead, hlast⟩ => ⟨hhead, hlast⟩, fun ⟨hhead, hlast⟩ => ⟨hhead, hlast⟩⟩

theorem trimmed_of_forall {cs : List Char} (h : ∀ c ∈ cs, isBlank c = false) : Trimmed cs where
  head c hc := h c (List.mem_of_mem_head? hc)
  last c hc := h c (List.mem_of_mem_getLast? hc)

theorem trimStart_of_head : ∀ {cs : List Char}, (∀ c ∈ cs.head?, isBlank c = false) →
    trimStart cs = cs
  | [], _ => rfl
  | c :: cs, h => List.dropWhile_cons_of_neg (by simp [h c rfl])

theorem trimEnd_of_last {cs : List Char} (h : ∀ c ∈ cs.getLast?, isBlank c = false) :
    trimEnd cs = cs := by
  rw [trimEnd, trimStart_of_head, List.reverse_reverse]
  rwa [List.head?_reverse]

theorem trimChars_of_trimmed {cs : List Char} (h : Trimmed cs) : trimChars cs = cs := by
  rw [trimChars, trimStart_of_head h.head, trimEnd_of_last h.last]

theorem isBlank_of_mem_head?_trimStart {cs : List Char} {c : Char}
    (h : c ∈ (trimStart cs).head?) : isBlank c = false := by
  have hkept := List.head?_dropWhile_not isBlank cs
  rw [← trimStart, Option.mem_def.mp h] at hkept
  exact hkept

theorem trimmed_trimChars (cs : List Char) : Trimmed (trimChars cs) where
  head c hc := by
    -- The front of what is left is the front of the text without the white space before it.
    have hprefix : trimChars cs <+: trimStart cs := by
      rw [trimChars, trimEnd, ← List.reverse_suffix, List.reverse_reverse]
      exact List.dropWhile_suffix _
    obtain ⟨rest, hrest⟩ := hprefix
    have hfront : c ∈ (trimStart cs).head? := by
      rw [← hrest, List.head?_append, Option.mem_def.mp hc]
      rfl
    exact isBlank_of_mem_head?_trimStart hfront
  last c hc := by
    rw [trimChars, trimEnd, List.getLast?_reverse] at hc
    exact isBlank_of_mem_head?_trimStart hc

/-- A CR that belongs to the end of a line is white space behind it. -/
theorem trimChars_dropCarriageReturn (line : List Char) :
    trimChars (dropCarriageReturn line) = trimChars line := by
  unfold dropCarriageReturn
  split
  · rename_i front h
    have hline : line = front.reverse ++ ['\r'] := by
      rw [← List.reverse_cons, ← h, List.reverse_reverse]
    rw [hline, trimChars_append_right (List.forall_mem_singleton.mpr rfl)]
  · rfl

end ScriptSpelling.Text
