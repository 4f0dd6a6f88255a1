import ScriptSpelling.Proofs.WordLists

/-!
# A dictionary of given words

A dictionary is made of given words by way of a word list: the words are put on lines of their own,
and the list is read. Words that a list can hold come back, but the list has a rule of its own, and
it is not meant for given words: a number on its first line is a count. So a number that happens to
be given first is not among the words that the list writes (`WordList.withoutCount`), and the
dictionary knows it only if it is given once more.

The main statement is `Dictionary.knows_ofWords`. It says what a dictionary of given words knows,
when this is what was given, and that the order of the words matters in this one respect.
-/

namespace ScriptSpelling

namespace WordList

/-! ## The list of the words -/

/-- The words without a number in front. -/
def withoutCount : List String → List String
  | [] => []
  | word :: more => if IsNumber word.toList then more else word :: more

theorem withoutCount_of_not_number {words : List String}
    (h : ∀ number ∈ words.head?, ¬ IsNumber number.toList) : withoutCount words = words := by
  cases words with
  | nil => rfl
  | cons word more => exact if_neg (h word rfl)

theorem toList_ofWords_cons_cons (word next : String) (more : List String) :
    (ofWords (word :: next :: more)).toList
      = word.toList ++ ['\n'] ++ (ofWords (next :: more)).toList := by
  rw [ofWords, String.intercalate_cons_cons, String.toList_append, String.toList_append]
  rfl

theorem writes_ofWords_cons {first : Bool} {read more : List String} {word : String}
    (hline : Line first read word.toList) (hmore : Writes false more (ofWords more).toList) :
    Writes first (read ++ more) (ofWords (word :: more)).toList := by
  cases more with
  | nil =>
      rw [List.append_nil, ofWords, String.intercalate_singleton]
      exact .unended _ hline
  | cons next more =>
      rw [toList_ofWords_cons_cons]
      exact .ended _ _ _ hline (by decide) hmore

theorem line_of_isEntry {first : Bool} {word : String} (h : IsEntry word)
    (hnumber : first = true → ¬ IsNumber word.toList) : Line first [word] word.toList := by
  simpa using Line.plain [] word [] (by decide) h (by decide) hnumber

theorem line_of_isNumber {word : String} (h : IsNumber word.toList) : Line true [] word.toList := by
  simpa using Line.count [] word.toList [] rfl (by decide) h (by decide)

theorem writes_false_ofWords : ∀ {words : List String}, (∀ word ∈ words, IsEntry word) →
    Writes false words (ofWords words).toList
  | [], _ => .nil false
  | word :: more, h => by
      rw [List.forall_mem_cons] at h
      have hline : Line false [word] word.toList :=
        line_of_isEntry h.1 fun hfirst => nomatch hfirst
      exact writes_ofWords_cons hline (writes_false_ofWords h.2)

/-- The list of the words writes them, but for a number in front. -/
theorem writes_ofWords {words : List String} (h : ∀ word ∈ words, IsEntry word) :
    Writes true (withoutCount words) (ofWords words).toList := by
  cases words with
  | nil => exact .nil true
  | cons word more =>
      rw [List.forall_mem_cons] at h
      rw [withoutCount]
      split
      · exact writes_ofWords_cons (line_of_isNumber ‹_›) (writes_false_ofWords h.2)
      · exact writes_ofWords_cons (line_of_isEntry h.1 fun _ => ‹_›) (writes_false_ofWords h.2)

end WordList

namespace Dictionary

/-! ## What is known -/

open WordList

theorem exists_ofWords {words : List String} (h : ∀ word ∈ words, IsEntry word) :
    ∃ d, ofWords words = .ok d ∧ ∀ word, d.knows word = true
      ↔ ∃ entry ∈ withoutCount words, Text.lowercase word = Text.lowercase entry :=
  exists_load_of_writes (writes_ofWords h)

/-- Nothing is lost with a number in front if another of the words is the same in lowercase. -/
theorem withoutCount_same_iff (words : List String) :
    (∀ word, (∃ entry ∈ withoutCount words, Text.lowercase word = Text.lowercase entry)
        ↔ ∃ entry ∈ words, Text.lowercase word = Text.lowercase entry)
      ↔ ∀ number ∈ words.head?, IsNumber number.toList →
        ∃ entry ∈ words.tail, Text.lowercase number = Text.lowercase entry := by
  cases words with
  | nil => simp [withoutCount]
  | cons first more =>
      rw [withoutCount]
      split
      · rename_i hnumber
        simp only [List.head?_cons, Option.mem_some_iff, forall_eq', List.tail_cons, List.mem_cons,
          exists_eq_or_imp]
        constructor
        · exact fun hsame _ => (hsame first).mpr (.inl rfl)
        · intro hagain word
          refine ⟨.inr, ?_⟩
          rintro (heq | hlater)
          · rw [heq]
            exact hagain hnumber
          · exact hlater
      · rename_i hnumber
        simp [hnumber]

/-- **The given words.** Words that a list can hold always make a dictionary. It knows exactly the
words that are, in lowercase, one of the given words without a number in front. This is the same
as one of the given words if and only if they do not start with a number, or with one that occurs
again; and as long as no number is in front, neither order nor repetition matters. -/
theorem knows_ofWords {words : List String} (h : ∀ word ∈ words, IsEntry word) :
    ∃ d, ofWords words = .ok d
      ∧ (∀ word, d.knows word = true
        ↔ ∃ entry ∈ withoutCount words, Text.lowercase word = Text.lowercase entry)
      ∧ ((∀ word, d.knows word = true
          ↔ ∃ entry ∈ words, Text.lowercase word = Text.lowercase entry)
        ↔ ∀ number ∈ words.head?, IsNumber number.toList →
          ∃ entry ∈ words.tail, Text.lowercase number = Text.lowercase entry)
      ∧ ((∀ number ∈ words.head?, ¬ IsNumber number.toList) →
        ∀ words', (∀ entry, entry ∈ words' ↔ entry ∈ words) →
          (∀ number ∈ words'.head?, ¬ IsNumber number.toList) →
          ∃ d', ofWords words' = .ok d' ∧ ∀ word, d'.knows word = d.knows word) := by
  obtain ⟨d, hload, hknows⟩ := exists_ofWords h
  refine ⟨d, hload, hknows, ?_, fun hfront words' hsame hfront' => ?_⟩
  · simp only [hknows]
    exact withoutCount_same_iff words
  · obtain ⟨d', hload', hknows'⟩ := exists_ofWords fun word hword => h word ((hsame word).mp hword)
    refine ⟨d', hload', fun word => ?_⟩
    rw [Bool.eq_iff_iff, hknows, hknows', withoutCount_of_not_number hfront,
      withoutCount_of_not_number hfront']
    simp only [hsame]

/-- A number that is not in front is known, whatever the order of the words is. -/
theorem knows_ofWords_number_behind :
    (∀ word ∈ ["World", "42", "Test"], IsEntry word)
      ∧ ∃ d, ofWords ["World", "42", "Test"] = .ok d ∧ d.knows "42" = true ∧ d.knows "WORLD" = true
        ∧ d.knows "4" = false
        ∧ ∃ d', ofWords ["Test", "World", "42", "World"] = .ok d'
          ∧ ∀ word, d'.knows word = d.knows word := by
  have hentries : ∀ word ∈ ["World", "42", "Test"], IsEntry word := by decide
  obtain ⟨d, hload, hknows, -, hsame⟩ := knows_ofWords hentries
  refine ⟨hentries, d, hload, (hknows _).mpr (by decide), (hknows _).mpr (by decide), ?_,
    hsame (by decide) _ (fun entry => ?_) (by decide)⟩
  · rw [← Bool.not_eq_true, hknows]
    decide
  · simp only [List.mem_cons, List.not_mem_nil]
    tauto

/-- A number that is given first is not known, and becomes known when it is given last. -/
theorem ofWords_loses_number_in_front :
    (∀ word ∈ ["42", "acme"], IsEntry word)
      ∧ (∃ entry ∈ ["42", "acme"], Text.lowercase "42" = Text.lowercase entry)
      ∧ (∃ d, ofWords ["42", "acme"] = .ok d ∧ d.knows "42" = false)
      ∧ ∃ d, ofWords ["acme", "42"] = .ok d ∧ d.knows "42" = true := by
  have hentries : ∀ word ∈ ["42", "acme"], IsEntry word := by decide
  refine ⟨hentries, by decide, ?_, ?_⟩
  · obtain ⟨d, hload, hknows⟩ := exists_ofWords hentries
    refine ⟨d, hload, ?_⟩
    rw [← Bool.not_eq_true, hknows]
    decide
  · have hentries' : ∀ word ∈ ["acme", "42"], IsEntry word := by decide
    obtain ⟨d, hload, hknows⟩ := exists_ofWords hentries'
    exact ⟨d, hload, (hknows _).mpr (by decide)⟩

end Dictionary

end ScriptSpelling
