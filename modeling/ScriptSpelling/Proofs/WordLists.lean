import Mathlib.Data.List.Basic
import ScriptSpelling.Proofs.Lines
import ScriptSpelling.Proofs.Sources

/-!
# Word lists are read back

A word list has its words on lines of their own, and much besides: white space around them, flags
behind a slash, comments, blank lines, a count in front. `WordList.Writes` says which texts write
which words, line by line and without the reader; digits alone are a count on the first line and a
word on any other, so each line is told whether it is the first.

Reading gives back the words in lowercase and in order (`WordList.entries_of_writes`): a line on its
own by its form, and the text by induction over its lines. A dictionary that is loaded from the text
then knows the words up to case, and nothing of how they are written is left. This is the main
statement, `WordList.knows_written`.
-/

namespace ScriptSpelling

namespace WordList

/-! ## Words as they are written -/

/-- White space within a line. -/
def IsPad (pad : List Char) : Prop := ∀ c ∈ pad, Text.isBlank c = true ∧ c ≠ '\n'

instance (pad : List Char) : Decidable (IsPad pad) :=
  List.decidableBAll _ pad

/-- A word that a list can hold: what remains of its line when comments, flags and the white space
around it are taken away. -/
structure IsEntry (word : String) : Prop where
  ne_empty : word ≠ ""
  no_newline : '\n' ∉ word.toList
  no_slash : '/' ∉ word.toList
  no_comment : word.toList.head? ≠ some '#'
  trimmed : Text.Trimmed word.toList

instance (word : String) : Decidable (IsEntry word) :=
  decidable_of_iff (word ≠ "" ∧ '\n' ∉ word.toList ∧ '/' ∉ word.toList
      ∧ word.toList.head? ≠ some '#' ∧ Text.Trimmed word.toList)
    ⟨fun ⟨h₁, h₂, h₃, h₄, h₅⟩ => ⟨h₁, h₂, h₃, h₄, h₅⟩,
      fun ⟨h₁, h₂, h₃, h₄, h₅⟩ => ⟨h₁, h₂, h₃, h₄, h₅⟩⟩

def IsNumber (digits : List Char) : Prop := digits ≠ [] ∧ ∀ c ∈ digits, c.isDigit = true

instance (digits : List Char) : Decidable (IsNumber digits) :=
  haveI := List.decidableBAll (fun c : Char => c.isDigit = true) digits
  inferInstanceAs (Decidable (_ ∧ _))

/-- A line without its end, and the words on it: one or none. -/
inductive Line (first : Bool) : List String → List Char → Prop
  | blank (pad : List Char) (hpad : IsPad pad) : Line first [] pad
  | comment (pad note : List Char) (hpad : IsPad pad) (hnote : '\n' ∉ note) :
      Line first [] (pad ++ '#' :: note)
  /-- Nothing but a number is a word on a later line only. -/
  | count (before digits after : List Char) (hfirst : first = true) (hbefore : IsPad before)
      (hdigits : IsNumber digits) (hafter : IsPad after) :
      Line first [] (before ++ (digits ++ after))
  | plain (before : List Char) (word : String) (after : List Char) (hbefore : IsPad before)
      (hword : IsEntry word) (hafter : IsPad after)
      (hnumber : first = true → ¬ IsNumber word.toList) :
      Line first [word] (before ++ (word.toList ++ after))
  | flagged (before : List Char) (word : String) (after flags : List Char)
      (hbefore : IsPad before) (hword : IsEntry word) (hafter : IsPad after)
      (hflags : '\n' ∉ flags) :
      Line first [word] (before ++ (word.toList ++ after ++ '/' :: flags))

def lineEnds : List (List Char) := [['\n'], ['\r', '\n']]

/-- A text and the words on its lines. It is a whole list, or what is left of one after its first
line. The last line need not be ended. -/
inductive Writes : Bool → List String → List Char → Prop
  | nil (first : Bool) : Writes first [] []
  | unended {first : Bool} {words : List String} (line : List Char)
      (hline : Line first words line) : Writes first words line
  | ended {first : Bool} {words more : List String} (line lineEnd rest : List Char)
      (hline : Line first words line) (hend : lineEnd ∈ lineEnds)
      (hrest : Writes false more rest) : Writes first (words ++ more) (line ++ lineEnd ++ rest)

theorem IsPad.blank {pad : List Char} (h : IsPad pad) : ∀ c ∈ pad, Text.isBlank c = true :=
  fun c hc => (h c hc).1

theorem IsPad.no_newline {pad : List Char} (h : IsPad pad) : '\n' ∉ pad := fun hc => (h _ hc).2 rfl

theorem IsEntry.toList_ne_nil {word : String} (h : IsEntry word) : word.toList ≠ [] :=
  mt String.toList_eq_nil_iff.mp h.ne_empty

theorem Line.no_newline {first : Bool} {words : List String} {line : List Char}
    (h : Line first words line) : '\n' ∉ line := by
  cases h with
  | blank pad hpad => exact hpad.no_newline
  | comment pad note hpad hnote => simp [hpad.no_newline, hnote]
  | count before digits after hfirst hbefore hdigits hafter =>
      have hnewline : '\n' ∉ _ := fun hc => absurd (hdigits.2 '\n' hc) (by decide)
      simp [hbefore.no_newline, hnewline, hafter.no_newline]
  | plain before word after hbefore hword hafter hnumber =>
      simp [hbefore.no_newline, hword.no_newline, hafter.no_newline]
  | flagged before word after flags hbefore hword hafter hflags =>
      simp [hbefore.no_newline, hword.no_newline, hafter.no_newline, hflags]

/-- The end of a line is LF, behind white space at most. -/
theorem exists_pad_of_mem_lineEnds {lineEnd : List Char} (h : lineEnd ∈ lineEnds) :
    ∃ pad, IsPad pad ∧ lineEnd = pad ++ ['\n'] := by
  rcases List.mem_cons.mp h with rfl | h
  · exact ⟨[], by decide, rfl⟩
  · obtain rfl := List.mem_singleton.mp h
    exact ⟨['\r'], by decide, rfl⟩

/-! ## One line -/

theorem entryOfLine?_congr {line line' : List Char}
    (h : Text.trimChars line = Text.trimChars line') (first : Bool) :
    entryOfLine? first line = entryOfLine? first line' := by
  simp only [entryOfLine?, h]

theorem beforeSlash_of_not_mem {cs : List Char} (h : '/' ∉ cs) : beforeSlash cs = cs :=
  List.takeWhile_eq_self_iff.mpr fun c hc => by
    simpa using fun heq : c = '/' => h (heq ▸ hc)

theorem beforeSlash_append_slash {cs : List Char} (h : '/' ∉ cs) (rest : List Char) :
    beforeSlash (cs ++ '/' :: rest) = cs := by
  have hall : ∀ c ∈ cs, (c != '/') = true := fun c hc => by
    simpa using fun heq : c = '/' => h (heq ▸ hc)
  rw [beforeSlash, List.takeWhile_append_of_pos hall, List.takeWhile_cons_of_neg (by decide),
    List.append_nil]

theorem isBlank_of_isDigit {c : Char} (h : c.isDigit = true) : Text.isBlank c = false := by
  have hcode : 0x30 ≤ c.toNat ∧ c.toNat ≤ 0x39 := by
    simpa [Char.isDigit, UInt32.le_iff_toNat_le] using h
  simp [Text.isBlank]
  omega

theorem entryOfLine?_of_number {first : Bool} {line digits : List Char} (hdigits : IsNumber digits)
    (htrim : Text.trimChars line = digits) (hfirst : first = true) :
    entryOfLine? first line = none := by
  rw [entryOfLine?, htrim, hfirst]
  have hall : digits.all Char.isDigit = true := List.all_eq_true.mpr hdigits.2
  simp [hall]

/-- A word is read from a line that starts with it, as far as the line goes before a slash. -/
theorem entryOfLine?_of_word {first : Bool} {line rest : List Char} {word : String}
    (hword : IsEntry word) (htrim : Text.trimChars line = word.toList ++ rest)
    (hnumber : first = true → ¬ ∀ c ∈ word.toList ++ rest, c.isDigit = true)
    (hbefore : Text.trimChars (beforeSlash (word.toList ++ rest)) = word.toList) :
    entryOfLine? first line = some (Text.lowerChars word.toList) := by
  obtain ⟨c, cs, hcs⟩ := List.exists_cons_of_ne_nil hword.toList_ne_nil
  have hcomment : c ≠ '#' := by
    rintro rfl
    exact hword.no_comment (by rw [hcs]; rfl)
  rw [entryOfLine?, htrim, hbefore]
  simp only [List.all_eq_true, Bool.and_eq_true, Bool.or_eq_true]
  rw [if_neg (by simp [hcs, hcomment]), if_neg (fun h => hnumber h.1 h.2), if_neg (by simp [hcs])]

theorem Line.toList_entryOfLine? {first : Bool} {words : List String} {line : List Char}
    (h : Line first words line) :
    (entryOfLine? first line).toList = words.map fun word => Text.lowerChars word.toList := by
  cases h with
  | blank pad hpad =>
      have htrim : Text.trimChars line = Text.trimChars [] := by
        simpa using Text.trimChars_append_right hpad.blank []
      rw [entryOfLine?_congr htrim]
      rfl
  | comment pad note hpad hnote =>
      have htrim : Text.trimChars (pad ++ '#' :: note) = '#' :: Text.trimEnd note := by
        rw [Text.trimChars_append_left hpad.blank, Text.trimChars,
          Text.trimStart_of_head (by simp [Text.isBlank]), ← List.nil_append ('#' :: note),
          Text.trimEnd_append_cons (by decide)]
        rfl
      rw [WordList.entryOfLine?, htrim]
      rfl
  | count before digits after hfirst hbefore hdigits hafter =>
      have hblank : ∀ c ∈ digits, Text.isBlank c = false :=
        fun c hc => isBlank_of_isDigit (hdigits.2 c hc)
      have htrim : Text.trimChars (before ++ (digits ++ after)) = digits := by
        rw [Text.trimChars_append_left hbefore.blank, Text.trimChars_append_right hafter.blank,
          Text.trimChars_of_trimmed (Text.trimmed_of_forall hblank)]
      rw [entryOfLine?_of_number hdigits htrim hfirst]
      rfl
  | plain before word after hbefore hword hafter hnumber =>
      have htrim : Text.trimChars (before ++ (word.toList ++ after)) = word.toList ++ [] := by
        rw [Text.trimChars_append_left hbefore.blank, Text.trimChars_append_right hafter.blank,
          Text.trimChars_of_trimmed hword.trimmed, List.append_nil]
      rw [entryOfLine?_of_word hword htrim]
      · rfl
      · rw [List.append_nil]
        exact fun hfirst hall => hnumber hfirst ⟨hword.toList_ne_nil, hall⟩
      · rw [List.append_nil, beforeSlash_of_not_mem hword.no_slash,
          Text.trimChars_of_trimmed hword.trimmed]
  | flagged before word after flags hbefore hword hafter hflags =>
      have htrim : Text.trimChars (before ++ (word.toList ++ after ++ '/' :: flags))
          = word.toList ++ (after ++ '/' :: Text.trimEnd flags) := by
        have hhead : ∀ c ∈ (word.toList ++ after ++ '/' :: flags).head?,
            Text.isBlank c = false := by
          rw [List.append_assoc, List.head?_append_of_ne_nil _ hword.toList_ne_nil]
          exact hword.trimmed.head
        rw [Text.trimChars_append_left hbefore.blank, Text.trimChars,
          Text.trimStart_of_head hhead, Text.trimEnd_append_cons (by decide), List.append_assoc]
      -- White space before the slash is within the line, so it goes only after the line is cut.
      have hslash : '/' ∉ word.toList ++ after := by
        rw [List.mem_append, not_or]
        exact ⟨hword.no_slash, fun hc => absurd (hafter.blank _ hc) (by decide)⟩
      rw [entryOfLine?_of_word hword htrim]
      · rfl
      · intro _ hall
        exact absurd (hall '/' (by simp)) (by decide)
      · rw [← List.append_assoc, beforeSlash_append_slash hslash,
          Text.trimChars_append_right hafter.blank, Text.trimChars_of_trimmed hword.trimmed]

/-! ## A whole list -/

def entriesOn (first : Bool) : List (List Char) → List (List Char)
  | [] => []
  | line :: more => (entryOfLine? first line).toList ++ entriesOn false more

theorem filterMap_zipIdx_eq (more : List (List Char)) : ∀ n : Nat,
    ((more.zipIdx (n + 1)).filterMap fun (line, i) => entryOfLine? (i == 0) line)
      = entriesOn false more := by
  -- The index is never zero here, so no line counts as the first.
  induction more with
  | nil => exact fun _ => rfl
  | cons line more ih =>
      intro n
      rw [List.zipIdx_cons, List.filterMap_cons, entriesOn, ih (n + 1)]
      cases h : entryOfLine? false line <;> simp [h]

theorem entries_eq (text : String) :
    entries text = (entriesOn true (Text.lines text.toList)).map String.ofList := by
  rw [entries]
  cases Text.lines text.toList with
  | nil => rfl
  | cons line more =>
      rw [List.zipIdx_cons, List.filterMap_cons, filterMap_zipIdx_eq, entriesOn]
      cases h : entryOfLine? true line <;> simp [h]

theorem entriesOn_of_writes {first : Bool} {words : List String} {text : List Char}
    (h : Writes first words text) :
    entriesOn first (Text.lines text) = words.map fun word => Text.lowerChars word.toList := by
  induction h with
  | nil first => rfl
  | unended line hline =>
      rw [← hline.toList_entryOfLine?, Text.lines_of_not_mem hline.no_newline]
      split
      · rename_i hempty
        rw [List.isEmpty_iff.mp hempty]
        rfl
      · rw [entriesOn, entriesOn, List.append_nil]
  | ended line lineEnd rest hline hend hrest ih =>
      obtain ⟨pad, hpad, rfl⟩ := exists_pad_of_mem_lineEnds hend
      have hnewline : '\n' ∉ line ++ pad := by
        rw [List.mem_append, not_or]
        exact ⟨hline.no_newline, hpad.no_newline⟩
      have htrim : Text.trimChars (Text.dropCarriageReturn (line ++ pad))
          = Text.trimChars line := by
        rw [Text.trimChars_dropCarriageReturn, Text.trimChars_append_right hpad.blank]
      have hlines : Text.lines (line ++ (pad ++ ['\n']) ++ rest)
          = Text.dropCarriageReturn (line ++ pad) :: Text.lines rest := by
        rw [← Text.lines_append_newline hnewline]
        simp
      rw [hlines, entriesOn, entryOfLine?_congr htrim, hline.toList_entryOfLine?, ih,
        List.map_append]

/-- Reading a list gives its words in lowercase and in order. -/
theorem entries_of_writes {words : List String} {text : String}
    (h : Writes true words text.toList) :
    entries text = words.map Text.lowercase := by
  rw [entries_eq, entriesOn_of_writes h, List.map_map]
  rfl

/-! ## The dictionary of a list -/

/-- A list can always be loaded, and what it knows are its entries. -/
theorem exists_load_wordList (text : String) :
    ∃ d, Dictionary.load [.wordList text] = .ok d
      ∧ ∀ word, d.knows word = true ↔ Text.lowercase word ∈ entries text := by
  obtain ⟨u, hunion⟩ : ∃ u, Engines.inMemory.load [.wordList text] = .ok u := by
    refine (Engines.exists_load_iff Engines.inMemory_sound).mpr
      ⟨List.cons_ne_nil _ _, fun source hsource fault => ?_⟩
    rw [List.mem_singleton.mp hsource]
    exact Engines.not_rejects_wordList text fault
  have hload : Dictionary.load [.wordList text] = .ok (Engines.inMemory.dictionary u) :=
    Engines.loadDictionary_eq_ok_iff.mpr ⟨u, hunion, rfl⟩
  refine ⟨_, hload, fun word => ?_⟩
  rw [Engines.knows_loadDictionary_iff Engines.inMemory_sound hload]
  simp [Engines.KnownBy]

/-- A list that writes the words knows them up to case, and no others. -/
theorem exists_load_of_writes {words : List String} {text : String}
    (h : Writes true words text.toList) :
    ∃ d, Dictionary.load [.wordList text] = .ok d
      ∧ ∀ word, d.knows word = true
        ↔ ∃ entry ∈ words, Text.lowercase word = Text.lowercase entry := by
  obtain ⟨d, hload, hknows⟩ := exists_load_wordList text
  refine ⟨d, hload, fun word => ?_⟩
  rw [hknows, entries_of_writes h, List.mem_map]
  simp only [eq_comm]

/-- **Reading a word list.** Let a text write words, in any of the ways in which a list can be
written. It can be loaded, and the dictionary knows exactly the words that are one of them in
lowercase. So any two texts that write the same words, in whatever order and however often, give
dictionaries that know the same: white space, flags, comments, blank lines and the ends of lines
have no part in it. -/
theorem knows_written {words : List String} {text : String} (h : Writes true words text.toList) :
    (∃ d, Dictionary.load [.wordList text] = .ok d
        ∧ ∀ word, d.knows word = true
          ↔ ∃ entry ∈ words, Text.lowercase word = Text.lowercase entry)
      ∧ ∀ (words' : List String) (text' : String), Writes true words' text'.toList →
        (∀ entry, entry ∈ words ↔ entry ∈ words') →
        ∀ d d', Dictionary.load [.wordList text] = .ok d →
          Dictionary.load [.wordList text'] = .ok d' → ∀ word, d.knows word = d'.knows word := by
  obtain ⟨d, hload, hknows⟩ := exists_load_of_writes h
  refine ⟨⟨d, hload, hknows⟩, fun words' text' h' hsame e e' he he' word => ?_⟩
  obtain ⟨d', hload', hknows'⟩ := exists_load_of_writes h'
  obtain rfl := Except.ok.inj (hload.symm.trans he)
  obtain rfl := Except.ok.inj (hload'.symm.trans he')
  rw [Bool.eq_iff_iff, hknows, hknows']
  simp only [hsame]

/-- A list with a count, flags, a comment, a blank line and a number, of which the last line is not
ended; and its words alone, in another order and ended by LF. -/
theorem knows_written_decorated :
    Writes true ["Alpha", "42", "ΣΑΣ"] "3\r\n Alpha /M S\n# note\r\n\t\n42\nΣΑΣ\r".toList
      ∧ (∃ d, Dictionary.load [.wordList "3\r\n Alpha /M S\n# note\r\n\t\n42\nΣΑΣ\r"] = .ok d
        ∧ d.knows "42" = true ∧ d.knows "σας" = true ∧ d.knows "σασ" = false ∧ d.knows "3" = false
        ∧ ∀ d', Dictionary.load [.wordList "ΣΑΣ\n42\nAlpha\n"] = .ok d' →
          ∀ word, d.knows word = d'.knows word) := by
  have hentry : ∀ word ∈ ["Alpha", "42", "ΣΑΣ"], IsEntry word := by decide
  have hdecorated : Writes true ["Alpha", "42", "ΣΑΣ"]
      "3\r\n Alpha /M S\n# note\r\n\t\n42\nΣΑΣ\r".toList :=
    .ended _ ['\r', '\n'] _ (.count [] ['3'] [] rfl (by decide) (by decide) (by decide))
      (by decide) <|
    .ended _ ['\n'] _ (.flagged [' '] "Alpha" [' '] "M S".toList (by decide)
      (hentry "Alpha" (by decide)) (by decide) (by decide)) (by decide) <|
    .ended _ ['\r', '\n'] _ (.comment [] " note".toList (by decide) (by decide)) (by decide) <|
    .ended _ ['\n'] _ (.blank ['\t'] (by decide)) (by decide) <|
    .ended _ ['\n'] _ (.plain [] "42" [] (by decide) (hentry "42" (by decide)) (by decide)
      (by decide)) (by decide) <|
    .unended _ (.plain [] "ΣΑΣ" ['\r'] (by decide) (hentry "ΣΑΣ" (by decide)) (by decide)
      (by decide))
  have hbare : Writes true ["ΣΑΣ", "42", "Alpha"] "ΣΑΣ\n42\nAlpha\n".toList :=
    .ended _ ['\n'] _ (.plain [] "ΣΑΣ" [] (by decide) (hentry "ΣΑΣ" (by decide)) (by decide)
      (by decide)) (by decide) <|
    .ended _ ['\n'] _ (.plain [] "42" [] (by decide) (hentry "42" (by decide)) (by decide)
      (by decide)) (by decide) <|
    .ended _ ['\n'] _ (.plain [] "Alpha" [] (by decide) (hentry "Alpha" (by decide)) (by decide)
      (by decide)) (by decide) (.nil false)
  obtain ⟨⟨d, hload, hknows⟩, hsame⟩ := knows_written hdecorated
  refine ⟨hdecorated, d, hload, ?_, ?_, ?_, ?_, fun d' hload' => ?_⟩
  · exact (hknows _).mpr ⟨"42", by simp, rfl⟩
  · exact (hknows _).mpr ⟨"ΣΑΣ", by simp, by decide +kernel⟩
  · rw [← Bool.not_eq_true, hknows]
    decide +kernel
  · rw [← Bool.not_eq_true, hknows]
    decide +kernel
  · exact hsame _ _ hbare (by simp [or_comm, or_left_comm]) d d' hload hload'

end WordList

end ScriptSpelling
