import ScriptSpelling.Proofs.Occurrence
import ScriptSpelling.Proofs.Sources

/-!
# A larger dictionary only clears words

Which words are looked at depends on the source, the settings and the exempt words alone; the
dictionary is asked last, once for each word. So two checks that differ in the dictionary stop at
the same places, and where one dictionary knows all words of another, a finding can only turn from
a misspelling into a known word (`Finding.Clears`). The main statement is `check_withDictionary`.

That a dictionary grows with its sources is the last part of it: it knows what some source knows,
and further sources take none away.
-/

namespace ScriptSpelling

open Syntax

/-! ## Dictionaries and their sources -/

namespace Dictionary

/-- One dictionary is part of another if it knows no other words. -/
instance : HasSubset Dictionary :=
  ⟨fun d d' => ∀ word, d.knows word = true → d'.knows word = true⟩

theorem unknown_of_subset {d d' : Dictionary} (h : d ⊆ d') {word : String}
    (hunknown : d'.knows word = false) : d.knows word = false := by
  by_contra hknown
  rw [Bool.not_eq_false] at hknown
  rw [h word hknown] at hunknown
  cases hunknown

end Dictionary

/-- A dictionary made from more sources knows no fewer words. -/
theorem Engines.subset_of_loadDictionary_append {Lex LexFault Words WordsFault : Type}
    {e : Engines Lex LexFault Words WordsFault} (he : e.Sound) {xs ys : List DictionarySource}
    {d d' : Dictionary} (h : e.loadDictionary xs = .ok d)
    (h' : e.loadDictionary (xs ++ ys) = .ok d') : d ⊆ d' := by
  intro word hword
  obtain ⟨s, hs, hknown⟩ := (knows_loadDictionary_iff he h word).mp hword
  exact (knows_loadDictionary_iff he h' word).mpr ⟨s, List.mem_append_left ys hs, hknown⟩

/-! ## One finding -/

/-- The finding `f'` is about the same word as `f`, which may have become known: then, and only
then, the message is another one. -/
structure Finding.Clears (f f' : Finding) : Prop where
  category_eq : f'.category = f.category
  word_eq : f'.word = f.word
  text_eq : f'.text = f.text
  line_eq : f'.line = f.line
  misspelled_of : f'.misspelled = true → f.misspelled = true
  message_eq_iff : f'.message = f.message ↔ f'.misspelled = f.misspelled

theorem Finding.Clears.refl (f : Finding) : f.Clears f :=
  ⟨rfl, rfl, rfl, rfl, id, iff_of_true rfl rfl⟩

namespace Checker

def withDictionary (c : Checker) (d : Dictionary) : Checker := { c with dictionary := d }

theorem misspelling_ne (c : Checker) (category : Category) (display word : String) :
    c.misspelling category display word ≠ "No misspelled word" := by
  have hhead : (c.misspelling category display word).toList.head? = some 'Y' := by
    unfold misspelling
    split <;> simp
  intro heq
  rw [heq] at hhead
  exact absurd hhead (by decide)

/-- With a larger dictionary the finding for a word is the same, or clears it. -/
theorem clears_findingFor {c : Checker} {d : Dictionary} (h : c.dictionary ⊆ d)
    (category : Category) (node : SourceNode) (display word : String) :
    (c.findingFor category node display word).Clears
      ((c.withDictionary d).findingFor category node display word) where
  category_eq := rfl
  word_eq := rfl
  text_eq := rfl
  line_eq := rfl
  misspelled_of hmisspelled := by
    have hunknown : d.knows word = false := by simpa [findingFor, withDictionary] using hmisspelled
    simp [findingFor, Dictionary.unknown_of_subset h hunknown]
  message_eq_iff := by
    have hmessage : (c.withDictionary d).misspelling category display word
        = c.misspelling category display word := rfl
    have hne := c.misspelling_ne category display word
    cases hknown : c.dictionary.knows word with
    | true => simp [findingFor, withDictionary, hknown, h word hknown]
    | false =>
        cases hknown' : d.knows word with
        | true => simp [findingFor, withDictionary, hknown, hknown', hne.symm]
        | false =>
            have hunknown : (c.withDictionary d).dictionary.knows word = false := hknown'
            simp [findingFor, hknown, hunknown, hmessage]

/-- Where known words are shown, a word is reported with either dictionary or with none. -/
theorem finding?_clears {c : Checker} {d : Dictionary} (h : c.dictionary ⊆ d)
    (hshow : c.settings.showSuccesses = true) (category : Category) (node : SourceNode)
    (display word : String) :
    Option.Rel Finding.Clears (c.finding? category node display word)
      ((c.withDictionary d).finding? category node display word) := by
  have hshow' : (c.withDictionary d).settings.showSuccesses = true := hshow
  have hlength : (c.withDictionary d).settings.minLength = c.settings.minLength := rfl
  rw [finding?_eq, finding?_eq, hlength, hshow, hshow']
  by_cases hlong : c.settings.minLength ≤ word.length
  · rw [if_pos ⟨hlong, .inr rfl⟩, if_pos ⟨hlong, .inr rfl⟩]
    exact .some (clears_findingFor h category node display word)
  · rw [if_neg fun hdue => hlong hdue.1, if_neg fun hdue => hlong hdue.1]
    exact .none

/-- Where known words are hidden, a word is reported as before unless it has become known. -/
theorem finding?_withDictionary {c : Checker} {d : Dictionary} (h : c.dictionary ⊆ d)
    (hshow : c.settings.showSuccesses = false) (category : Category) (node : SourceNode)
    (display word : String) :
    (c.withDictionary d).finding? category node display word
      = (c.finding? category node display word).filter
          fun f => f.category = none ∨ d.knows f.word = false := by
  have hshow' : (c.withDictionary d).settings.showSuccesses = false := hshow
  have hdictionary : (c.withDictionary d).dictionary = d := rfl
  have hlength : (c.withDictionary d).settings.minLength = c.settings.minLength := rfl
  rw [finding?_eq, finding?_eq, hlength, hdictionary, hshow, hshow']
  cases hunknown : d.knows word with
  | true =>
      rw [if_neg (by simp)]
      symm
      rw [Option.filter_eq_none_iff]
      intro f hf
      split at hf
      · obtain rfl := Option.some.inj hf
        simp [findingFor, hunknown]
      · cases hf
  | false =>
      -- The word is unknown to both, so the finding is the same one.
      have hunknown' : c.dictionary.knows word = false := Dictionary.unknown_of_subset h hunknown
      have hsame : (c.withDictionary d).findingFor category node display word
          = c.findingFor category node display word := by
        simp [findingFor, hdictionary, hunknown, hunknown']
        rfl
      rw [hunknown', hsame]
      split
      · exact (Option.filter_some_pos (by simp [findingFor, hunknown])).symm
      · rfl

/-! ## Whole checks -/

/-- Where known words are shown, the findings with a larger dictionary are those with the smaller
one, some of them cleared. -/
theorem forall₂_clears_check {c : Checker} {d : Dictionary} (h : c.dictionary ⊆ d)
    (hshow : c.settings.showSuccesses = true) (outcome : Except SyntaxFault SourceTree) :
    List.Forall₂ Finding.Clears (c.check outcome) ((c.withDictionary d).check outcome) := by
  cases outcome with
  | error fault => exact .cons (Finding.Clears.refl _) .nil
  | ok tree =>
      have hplaces : (c.withDictionary d).occurrences tree = c.occurrences tree :=
        occurrences_congr rfl tree
      rw [check_ok_eq_filterMap, check_ok_eq_filterMap, hplaces]
      have hskip : (c.withDictionary d).skip = c.skip := rfl
      exact forall₂_filterMap_filterMap
        (findingAt?_related hskip .none (finding?_clears h hshow) tree) _

/-- Where known words are hidden, the findings with a larger dictionary are those with the smaller
one whose words it does not know either. -/
theorem check_withDictionary_hidden {c : Checker} {d : Dictionary} (h : c.dictionary ⊆ d)
    (hshow : c.settings.showSuccesses = false) (outcome : Except SyntaxFault SourceTree) :
    (c.withDictionary d).check outcome
      = (c.check outcome).filter fun f => f.category = none ∨ d.knows f.word = false := by
  have hskip : (c.withDictionary d).skip = c.skip := rfl
  exact check_eq_filter_of_finding? hskip rfl (fun _ => ⟨rfl, decide_eq_true (.inl rfl)⟩)
    (finding?_withDictionary h hshow) outcome

/-- **A larger dictionary.** Let `d` know every word that the dictionary of `c` knows. Where
known words are shown, the findings with `d` go one for one with those of `c`, about the same
words and places, and can only turn from a misspelling into a known word, which changes the message
of exactly these. Where known words are hidden, the findings with `d` are those of `c` that are
a parse failure or whose word `d` does not know. A dictionary that is loaded from more sources is
larger in this sense, whatever the engines are. -/
theorem check_withDictionary :
    (∀ (c : Checker) (d : Dictionary), c.dictionary ⊆ d → ∀ outcome,
        (c.settings.showSuccesses = true →
          List.Forall₂ Finding.Clears (c.check outcome) ((c.withDictionary d).check outcome))
        ∧ (c.settings.showSuccesses = false →
          (c.withDictionary d).check outcome
            = (c.check outcome).filter fun f => f.category = none ∨ d.knows f.word = false))
      ∧ (∀ {Lex LexFault Words WordsFault : Type} (e : Engines Lex LexFault Words WordsFault),
        e.Sound → ∀ xs ys d d', e.loadDictionary xs = .ok d →
          e.loadDictionary (xs ++ ys) = .ok d' → d ⊆ d')
      ∧ ∀ xs ys d d', Dictionary.load xs = .ok d → Dictionary.load (xs ++ ys) = .ok d' → d ⊆ d' :=
  ⟨fun _ _ h outcome => ⟨fun hshow => forall₂_clears_check h hshow outcome,
      fun hshow => check_withDictionary_hidden h hshow outcome⟩,
    fun _ he _ _ _ _ => Engines.subset_of_loadDictionary_append he,
    fun _ _ _ _ => Engines.subset_of_loadDictionary_append Engines.inMemory_sound⟩

/-- A second list makes one of the two words of a comment known: it is shown as such, or is not
shown any more. -/
theorem check_withDictionary_second_list :
    let e := Engines.plain
    let d := e.dictionary ⟨[], ["a"]⟩
    let d' := e.dictionary ⟨[], ["a", "test"]⟩
    let shown := Checker.mk d .empty { showSuccesses := true } false
    let hidden := Checker.mk d .empty {} false
    let tree : SourceTree := ⟨"// test tset".toList,
      .mk { kind := .comment, start := .zero, stop := ⟨12, 0, 12⟩ } []⟩
    (e.Sound ∧ e.loadDictionary [.wordList "a"] = .ok d
        ∧ e.loadDictionary ([.wordList "a"] ++ [.wordList "test"]) = .ok d' ∧ d ⊆ d')
      ∧ (List.Forall₂ Finding.Clears (shown.check (.ok tree))
          ((shown.withDictionary d').check (.ok tree))
        ∧ (shown.check (.ok tree)).map (fun f => (f.word, f.misspelled))
          = [("test", true), ("tset", true)]
        ∧ ((shown.withDictionary d').check (.ok tree)).map (fun f => (f.word, f.misspelled))
          = [("test", false), ("tset", true)])
      ∧ (hidden.withDictionary d').check (.ok tree)
          = (hidden.check (.ok tree)).filter (fun f => f.category = none ∨ d'.knows f.word = false)
        ∧ ((hidden.withDictionary d').check (.ok tree)).map Finding.word = ["tset"] := by
  intro e d d' shown hidden tree
  have hload : e.loadDictionary [.wordList "a"] = .ok d := by rfl
  have hload' : e.loadDictionary ([.wordList "a"] ++ [.wordList "test"]) = .ok d' := by rfl
  obtain ⟨hlarger, hsubset, -⟩ := check_withDictionary
  have hpart : d ⊆ d' := hsubset e Engines.plain_sound _ _ d d' hload hload'
  refine ⟨⟨Engines.plain_sound, hload, hload', hpart⟩,
    ⟨(hlarger shown d' hpart (.ok tree)).1 rfl, by decide, by decide⟩,
    (hlarger hidden d' hpart (.ok tree)).2 rfl, by decide⟩

end Checker

end ScriptSpelling
