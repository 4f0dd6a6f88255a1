import Std.Data.HashSet.Lemmas
import Std.Data.TreeSet.Lemmas
import ScriptSpelling.Dictionary

/-!
# A dictionary is the union of its sources

Lexicons are kept as a list and the words of all lists as one set, so the sources of a dictionary
cannot be told from it any more. What they were still shows in what it knows: `Engines.KnownBy`
says of a single source what it knows, and `Engines.knows_iff` that a union knows the words that
some source knows. `Engines.exists_load_iff` says which sources can be loaded at all. The laws of
the union - joining two lists of sources, permuting and repeating them - follow from these two and
never look at the representation again.

The engines are any that keep the promise of a set of words: it takes words in strictly ascending
order, and holds these and no others (`Engines.Sound`). That the words of all lists come in this
order, whatever the lists are, is `Text.pairwise_ascending`.
-/

namespace ScriptSpelling

/-! ## Ascending texts -/

namespace Text

/-- The text `s` comes before `t` in the order of their bytes. -/
def Precedes (s t : String) : Prop := bytes s < bytes t

instance (s t : String) : Decidable (Precedes s t) :=
  inferInstanceAs (Decidable (bytes s < bytes t))

theorem bytes_injective {s t : String} (h : bytes s = bytes t) : s = t :=
  String.toByteArray_inj.mp (ByteArray.ext (Array.toList_inj.mp h))

theorem compare_eq_lt_iff : ∀ as bs : List UInt8, compare as bs = .lt ↔ as < bs
  | [], [] => by simp
  | [], _ :: _ => by simp
  | _ :: _, [] => by simp
  | a :: as, b :: bs => by
      rw [List.compare_cons_cons, Ordering.then_eq_lt, compare_eq_lt_iff as bs,
        List.cons_lt_cons_iff, Std.compare_eq_lt, Std.compare_eq_iff_eq]

instance : Std.TransCmp compareBytes := inferInstanceAs (Std.TransCmp (compareOn bytes))

instance : Std.LawfulEqCmp compareBytes where
  eq_of_compare {s t} (h : compare (bytes s) (bytes t) = .eq) :=
    bytes_injective (Std.compare_eq_iff_eq.mp h)

theorem mem_ascending {texts : List String} {s : String} : s ∈ ascending texts ↔ s ∈ texts := by
  rw [ascending, Std.TreeSet.mem_toList, Std.TreeSet.mem_ofList, List.contains_iff_mem]

theorem pairwise_ascending (texts : List String) : (ascending texts).Pairwise Precedes := by
  have hordered : (ascending texts).Pairwise fun s t => compareBytes s t = .lt :=
    Std.TreeSet.ordered_toList
  exact hordered.imp fun {s t} h => (compare_eq_lt_iff (bytes s) (bytes t)).mp h

end Text

/-! ## Loading -/

namespace Engines

variable {Lex LexFault Words WordsFault : Type} {e : Engines Lex LexFault Words WordsFault}

/-- A set of words can be built from words in strictly ascending order, and holds exactly the words
that it was built from. -/
structure Sound (e : Engines Lex LexFault Words WordsFault) : Prop where
  collects : ∀ words : List String, words.Pairwise Text.Precedes → ∃ set, e.collect words = .ok set
  contains_iff : ∀ {words : List String} {set : Words}, e.collect words = .ok set →
    ∀ word, e.contains set word = true ↔ word ∈ words

/-- The source is a malformed lexicon. -/
def Rejects (e : Engines Lex LexFault Words WordsFault) (source : DictionarySource)
    (fault : LexFault) : Prop :=
  ∃ affixes entries, source = .lexicon affixes entries
    ∧ e.readLexicon affixes entries = .error fault

/-- The first malformed lexicon among the sources has the given fault. -/
def FirstRejected (e : Engines Lex LexFault Words WordsFault) (sources : List DictionarySource)
    (fault : LexFault) : Prop :=
  ∃ before source after, sources = before ++ source :: after ∧ e.Rejects source fault
    ∧ ∀ s ∈ before, ∀ f, ¬ e.Rejects s f

/-- What a single source knows. -/
def KnownBy (e : Engines Lex LexFault Words WordsFault) (source : DictionarySource)
    (word : String) : Prop :=
  match source with
  | .lexicon affixes entries =>
    ∃ lex, e.readLexicon affixes entries = .ok lex ∧ e.asksLexicon lex word = true
  | .wordList text => Text.lowercase word ∈ WordList.entries text

theorem not_rejects_wordList (text : String) (fault : LexFault) :
    ¬ e.Rejects (.wordList text) fault := by
  rintro ⟨affixes, entries, hsource, -⟩
  cases hsource

theorem rejects_lexicon {affixes entries : String} {fault : LexFault} :
    e.Rejects (.lexicon affixes entries) fault ↔ e.readLexicon affixes entries = .error fault := by
  constructor
  · rintro ⟨_, _, hsource, hread⟩
    cases hsource
    exact hread
  · exact fun hread => ⟨affixes, entries, rfl, hread⟩

/-- The first rejected source is at the front or behind a source that is not rejected. -/
theorem firstRejected_cons {source : DictionarySource} {sources : List DictionarySource}
    {fault : LexFault} :
    e.FirstRejected (source :: sources) fault
      ↔ e.Rejects source fault
        ∨ (∀ f, ¬ e.Rejects source f) ∧ e.FirstRejected sources fault := by
  constructor
  · rintro ⟨before, s, after, hsources, hrejects, hbefore⟩
    cases before with
    | nil =>
        obtain ⟨rfl, -⟩ := List.cons.inj hsources
        exact .inl hrejects
    | cons b before =>
        obtain ⟨rfl, htail⟩ := List.cons.inj hsources
        exact .inr ⟨hbefore _ List.mem_cons_self, before, s, after, htail, hrejects,
          fun t ht => hbefore t (List.mem_cons_of_mem _ ht)⟩
  · rintro (hrejects | ⟨hfirst, before, s, after, rfl, hrejects, hbefore⟩)
    · exact ⟨[], source, sources, rfl, hrejects, fun s hs => absurd hs List.not_mem_nil⟩
    · refine ⟨source :: before, s, after, rfl, hrejects, fun t ht => ?_⟩
      rcases List.mem_cons.mp ht with rfl | ht
      · exact hfirst
      · exact hbefore t ht

theorem not_firstRejected_nil (fault : LexFault) : ¬ e.FirstRejected [] fault := by
  rintro ⟨before, source, after, hsources, -⟩
  cases before <;> cases hsources

/-- Lexicons cannot be read exactly if one of them is malformed, and the first such is told. -/
theorem readLexicons_eq_error_iff {fault : LexFault} : ∀ sources : List DictionarySource,
    e.readLexicons sources = .error fault ↔ e.FirstRejected sources fault
  | [] => iff_of_false (by simp [readLexicons]) (not_firstRejected_nil fault)
  | .wordList text :: sources => by
      rw [readLexicons, readLexicons_eq_error_iff sources, firstRejected_cons]
      constructor
      · exact fun h => .inr ⟨not_rejects_wordList text, h⟩
      · rintro (hrejects | ⟨-, h⟩)
        · exact absurd hrejects (not_rejects_wordList text fault)
        · exact h
  | .lexicon affixes entries :: sources => by
      have ih : e.readLexicons sources = .error fault ↔ e.FirstRejected sources fault :=
        readLexicons_eq_error_iff sources
      simp only [firstRejected_cons, rejects_lexicon, ← ih, readLexicons]
      cases hread : e.readLexicon affixes entries with
      | error f => simp [bind, Except.bind]
      | ok lex => cases e.readLexicons sources <;> simp [bind, Except.bind, pure, Except.pure]

/-- Some source is the first rejected one as soon as one is rejected at all. -/
theorem exists_firstRejected_iff : ∀ sources : List DictionarySource,
    (∃ fault, e.FirstRejected sources fault) ↔ ∃ s ∈ sources, ∃ fault, e.Rejects s fault
  | [] => iff_of_false (fun ⟨fault, h⟩ => not_firstRejected_nil fault h)
      (fun ⟨_, hs, _⟩ => List.not_mem_nil hs)
  | source :: sources => by
      have ih := exists_firstRejected_iff sources
      constructor
      · rintro ⟨fault, h⟩
        rcases firstRejected_cons.mp h with hrejects | ⟨-, hlater⟩
        · exact ⟨source, List.mem_cons_self, fault, hrejects⟩
        · obtain ⟨s, hs, hrejects⟩ := ih.mp ⟨fault, hlater⟩
          exact ⟨s, List.mem_cons_of_mem _ hs, hrejects⟩
      · rintro ⟨s, hs, fault, hrejects⟩
        by_cases hfirst : ∃ f, e.Rejects source f
        · obtain ⟨f, hf⟩ := hfirst
          exact ⟨f, firstRejected_cons.mpr (.inl hf)⟩
        · rcases List.mem_cons.mp hs with rfl | hs
          · exact absurd ⟨fault, hrejects⟩ hfirst
          · obtain ⟨f, hf⟩ := ih.mpr ⟨s, hs, fault, hrejects⟩
            exact ⟨f, firstRejected_cons.mpr (.inr ⟨not_exists.mp hfirst, hf⟩)⟩

theorem load_of_lexicons_error {sources : List DictionarySource} {fault : LexFault}
    (hne : sources ≠ []) (h : e.readLexicons sources = .error fault) :
    e.load sources = .error (.lexicon fault) := by
  rw [load, if_neg (by simpa using hne), h]
  rfl

theorem load_of_words_error {sources : List DictionarySource} {lexicons : List Lex}
    {fault : WordsFault} (hne : sources ≠ []) (h : e.readLexicons sources = .ok lexicons)
    (hwords : e.collect (Text.ascending (listedWords sources)) = .error fault) :
    e.load sources = .error (.wordList fault) := by
  rw [load, if_neg (by simpa using hne), h, hwords]
  rfl

theorem load_of_ok {sources : List DictionarySource} {lexicons : List Lex} {words : Words}
    (hne : sources ≠ []) (h : e.readLexicons sources = .ok lexicons)
    (hwords : e.collect (Text.ascending (listedWords sources)) = .ok words) :
    e.load sources = .ok ⟨lexicons, words⟩ := by
  rw [load, if_neg (by simpa using hne), h, hwords]
  rfl

theorem load_eq_ok_iff {sources : List DictionarySource} {d : Union Lex Words} :
    e.load sources = .ok d ↔ sources ≠ [] ∧ e.readLexicons sources = .ok d.lexicons
      ∧ e.collect (Text.ascending (listedWords sources)) = .ok d.words := by
  constructor
  · intro h
    have hne : sources ≠ [] := by
      rintro rfl
      cases h
    refine ⟨hne, ?_⟩
    cases hlexicons : e.readLexicons sources with
    | error fault =>
        rw [load_of_lexicons_error hne hlexicons] at h
        cases h
    | ok lexicons =>
        cases hwords : e.collect (Text.ascending (listedWords sources)) with
        | error fault =>
            rw [load_of_words_error hne hlexicons hwords] at h
            cases h
        | ok words =>
            rw [load_of_ok hne hlexicons hwords] at h
            obtain rfl := Except.ok.inj h
            exact ⟨rfl, rfl⟩
  · rintro ⟨hne, hlexicons, hwords⟩
    exact load_of_ok hne hlexicons hwords

/-- Loading fails when there is no source, and with the fault of the first malformed lexicon. The
listed words never make it fail: they come in the order that a set asks for. -/
theorem load_eq_error_iff (h : e.Sound) {sources : List DictionarySource}
    {fault : UnionFault LexFault WordsFault} :
    e.load sources = .error fault
      ↔ sources = [] ∧ fault = .noSource
        ∨ ∃ f, e.FirstRejected sources f ∧ fault = .lexicon f := by
  simp only [← readLexicons_eq_error_iff]
  by_cases hnil : sources = []
  · subst hnil
    simp [load, readLexicons, eq_comm]
  · obtain ⟨words, hwords⟩ := h.collects _ (Text.pairwise_ascending (listedWords sources))
    cases hlexicons : e.readLexicons sources with
    | error f =>
        rw [load_of_lexicons_error hnil hlexicons]
        simp [hnil, eq_comm]
    | ok lexicons =>
        rw [load_of_ok hnil hlexicons hwords]
        simp [hnil]

theorem exists_load_iff (h : e.Sound) {sources : List DictionarySource} :
    (∃ d, e.load sources = .ok d)
      ↔ sources ≠ [] ∧ ∀ s ∈ sources, ∀ fault, ¬ e.Rejects s fault := by
  have hfails : (∃ fault, e.load sources = .error fault)
      ↔ sources = [] ∨ ∃ s ∈ sources, ∃ fault, e.Rejects s fault := by
    rw [← exists_firstRejected_iff]
    simp only [load_eq_error_iff h]
    constructor
    · rintro ⟨fault, ⟨hnil, -⟩ | ⟨f, hfirst, -⟩⟩
      · exact .inl hnil
      · exact .inr ⟨f, hfirst⟩
    · rintro (hnil | ⟨f, hfirst⟩)
      · exact ⟨.noSource, .inl ⟨hnil, rfl⟩⟩
      · exact ⟨.lexicon f, .inr ⟨f, hfirst, rfl⟩⟩
  cases hload : e.load sources with
  | ok d =>
      have hnot : ¬ ∃ fault, e.load sources = .error fault := by simp [hload]
      rw [hfails, not_or] at hnot
      refine iff_of_true ⟨d, rfl⟩ ⟨hnot.1, fun s hs fault hrejects => ?_⟩
      exact hnot.2 ⟨s, hs, fault, hrejects⟩
  | error fault =>
      refine iff_of_false (by simp) fun ⟨hne, hnone⟩ => ?_
      rcases hfails.mp ⟨fault, hload⟩ with hnil | ⟨s, hs, f, hrejects⟩
      · exact hne hnil
      · exact hnone s hs f hrejects

/-! ## Knowing -/

theorem mem_listedWords {sources : List DictionarySource} {word : String} :
    word ∈ listedWords sources
      ↔ ∃ text, .wordList text ∈ sources ∧ word ∈ WordList.entries text := by
  rw [listedWords, List.mem_flatMap]
  constructor
  · rintro ⟨source, hsource, hword⟩
    cases source with
    | lexicon affixes entries => exact absurd hword List.not_mem_nil
    | wordList text => exact ⟨text, hsource, hword⟩
  · rintro ⟨text, hsource, hword⟩
    exact ⟨.wordList text, hsource, hword⟩

/-- The lexicons that were read know what the lexicons among the sources know. -/
theorem any_asksLexicon_iff (word : String) : ∀ {sources : List DictionarySource}
    {lexicons : List Lex}, e.readLexicons sources = .ok lexicons →
    (lexicons.any (e.asksLexicon · word) = true
      ↔ ∃ affixes entries, .lexicon affixes entries ∈ sources
        ∧ e.KnownBy (.lexicon affixes entries) word)
  | [], _, hread => by
      obtain rfl := Except.ok.inj hread
      simp
  | .wordList text :: sources, _, hread => by
      have hrest : e.readLexicons sources = .ok _ := hread
      rw [any_asksLexicon_iff word hrest]
      simp
  | .lexicon affixes entries :: sources, _, hread => by
      rw [readLexicons] at hread
      cases hlex : e.readLexicon affixes entries with
      | error fault => simp [hlex, bind, Except.bind] at hread
      | ok lex =>
          cases hrest : e.readLexicons sources with
          | error fault => simp [hlex, hrest, bind, Except.bind] at hread
          | ok rest =>
              rw [hlex, hrest] at hread
              obtain rfl := Except.ok.inj hread
              have ih := any_asksLexicon_iff word hrest
              have hhead : e.KnownBy (.lexicon affixes entries) word
                  ↔ e.asksLexicon lex word = true := by simp [KnownBy, hlex]
              rw [List.any_cons, Bool.or_eq_true, ih, ← hhead]
              constructor
              · rintro (hknown | ⟨a, t, hmem, hknown⟩)
                · exact ⟨affixes, entries, List.mem_cons_self, hknown⟩
                · exact ⟨a, t, List.mem_cons_of_mem _ hmem, hknown⟩
              · rintro ⟨a, t, hmem, hknown⟩
                rcases List.mem_cons.mp hmem with heq | hmem
                · cases heq
                  exact .inl hknown
                · exact .inr ⟨a, t, hmem, hknown⟩

/-- A union knows the words that some source knows. -/
theorem knows_iff (h : e.Sound) {sources : List DictionarySource} {d : Union Lex Words}
    (hload : e.load sources = .ok d) (word : String) :
    e.knows d word = true ↔ ∃ s ∈ sources, e.KnownBy s word := by
  obtain ⟨-, hread, hcollect⟩ := load_eq_ok_iff.mp hload
  rw [knows, Bool.or_eq_true, any_asksLexicon_iff word hread, h.contains_iff hcollect,
    Text.mem_ascending, mem_listedWords]
  constructor
  · rintro (⟨affixes, entries, hmem, hknown⟩ | ⟨text, hmem, hlisted⟩)
    · exact ⟨_, hmem, hknown⟩
    · exact ⟨_, hmem, hlisted⟩
  · rintro ⟨source, hmem, hknown⟩
    cases source with
    | lexicon affixes entries => exact .inl ⟨affixes, entries, hmem, hknown⟩
    | wordList text => exact .inr ⟨text, hmem, hknown⟩

theorem not_rejects_of_knownBy {source : DictionarySource} {word : String}
    (hknown : e.KnownBy source word) (fault : LexFault) : ¬ e.Rejects source fault := by
  cases source with
  | wordList text => exact not_rejects_wordList text fault
  | lexicon affixes entries =>
      obtain ⟨lex, hread, -⟩ := hknown
      rw [rejects_lexicon, hread]
      exact fun h => nomatch h

theorem loadDictionary_eq_ok_iff {sources : List DictionarySource} {d : Dictionary} :
    e.loadDictionary sources = .ok d ↔ ∃ u, e.load sources = .ok u ∧ e.dictionary u = d := by
  rw [loadDictionary]
  cases e.load sources <;> simp [Except.map]

theorem knows_loadDictionary_iff (h : e.Sound) {sources : List DictionarySource} {d : Dictionary}
    (hload : e.loadDictionary sources = .ok d) (word : String) :
    d.knows word = true ↔ ∃ s ∈ sources, e.KnownBy s word := by
  obtain ⟨u, hunion, rfl⟩ := loadDictionary_eq_ok_iff.mp hload
  exact knows_iff h hunion word

/-- What a source knows is what it knows when it is loaded alone. -/
theorem knownBy_iff_load (h : e.Sound) (source : DictionarySource) (word : String) :
    e.KnownBy source word ↔ ∃ d, e.load [source] = .ok d ∧ e.knows d word = true := by
  constructor
  · intro hknown
    obtain ⟨d, hload⟩ : ∃ d, e.load [source] = .ok d := by
      refine (exists_load_iff h).mpr ⟨List.cons_ne_nil _ _, fun s hs => ?_⟩
      rw [List.mem_singleton.mp hs]
      exact not_rejects_of_knownBy hknown
    exact ⟨d, hload, (knows_iff h hload word).mpr ⟨source, List.mem_singleton_self _, hknown⟩⟩
  · rintro ⟨d, hload, hknows⟩
    obtain ⟨s, hs, hknown⟩ := (knows_iff h hload word).mp hknows
    rwa [List.mem_singleton.mp hs] at hknown

/-- Two lists of sources that can be loaded can be loaded together, which gives their union. -/
theorem exists_load_append (h : e.Sound) {xs ys : List DictionarySource} {d d' : Union Lex Words}
    (hload : e.load xs = .ok d) (hload' : e.load ys = .ok d') :
    ∃ u, e.load (xs ++ ys) = .ok u
      ∧ ∀ word, e.knows u word = (e.knows d word || e.knows d' word) := by
  obtain ⟨hne, hfine⟩ := (exists_load_iff h).mp ⟨d, hload⟩
  obtain ⟨-, hfine'⟩ := (exists_load_iff h).mp ⟨d', hload'⟩
  obtain ⟨u, hunion⟩ : ∃ u, e.load (xs ++ ys) = .ok u := by
    refine (exists_load_iff h).mpr ⟨List.append_ne_nil_of_left_ne_nil hne ys, fun s hs => ?_⟩
    exact (List.mem_append.mp hs).elim (hfine s) (hfine' s)
  refine ⟨u, hunion, fun word => ?_⟩
  rw [Bool.eq_iff_iff, Bool.or_eq_true, knows_iff h hunion, knows_iff h hload, knows_iff h hload']
  constructor
  · rintro ⟨s, hs, hknown⟩
    exact (List.mem_append.mp hs).imp (⟨s, ·, hknown⟩) (⟨s, ·, hknown⟩)
  · rintro (⟨s, hs, hknown⟩ | ⟨s, hs, hknown⟩)
    · exact ⟨s, List.mem_append_left _ hs, hknown⟩
    · exact ⟨s, List.mem_append_right _ hs, hknown⟩

/-- Only which sources there are matters, not their order nor how often they are given. -/
theorem load_congr (h : e.Sound) {xs ys : List DictionarySource} (hsame : ∀ s, s ∈ xs ↔ s ∈ ys) :
    ((∃ d, e.load xs = .ok d) ↔ ∃ d, e.load ys = .ok d)
      ∧ ∀ d d', e.load xs = .ok d → e.load ys = .ok d' →
        ∀ word, e.knows d word = e.knows d' word := by
  constructor
  · have hnil : xs = [] ↔ ys = [] := by simp only [List.eq_nil_iff_forall_not_mem, hsame]
    simp only [exists_load_iff h, hsame, ne_eq, hnil]
  · intro d d' hload hload' word
    rw [Bool.eq_iff_iff, knows_iff h hload, knows_iff h hload']
    simp only [hsame]

theorem inMemory_sound : inMemory.Sound where
  collects words _ := ⟨.ofList words, rfl⟩
  contains_iff {words set} hcollect word := by
    obtain rfl : Std.HashSet.ofList words = set := Except.ok.inj hcollect
    change (Std.HashSet.ofList words).contains word = true ↔ word ∈ words
    rw [Std.HashSet.contains_ofList, List.contains_iff_mem]

/-- Without lexicons, a dictionary knows the words of its set up to case. -/
theorem knows_dictionary_ofList (words : List String) (word : String) :
    (inMemory.dictionary ⟨[], .ofList words⟩).knows word
      = words.contains (Text.lowercase word) := by
  change (Std.HashSet.ofList words).contains (Text.lowercase word) = _
  rw [Std.HashSet.contains_ofList]

/-- **The union of its sources.** Whatever reads the lexicons, and whatever set takes the listed
words in strictly ascending order: loading fails exactly if there is no source, or with the fault of
the first malformed lexicon and its text, and the set never refuses the words. What was
loaded knows the words that some source knows when it is loaded alone. So two lists of sources
load together to the union of what they load to, and neither the order of the sources nor their
repetition matters. -/
theorem load_union (e : Engines Lex LexFault Words WordsFault) (h : e.Sound) :
    (∀ sources fault, e.load sources = .error fault
        ↔ sources = [] ∧ fault = .noSource
          ∨ ∃ f, e.FirstRejected sources f ∧ fault = .lexicon f
            ∧ e.message fault = "Failed to parse dictionary: " ++ e.lexiconText f)
      ∧ (∀ sources, (Text.ascending (listedWords sources)).Pairwise Text.Precedes
        ∧ ∀ f, e.load sources ≠ .error (.wordList f))
      ∧ (∀ sources d, e.load sources = .ok d → ∀ word, e.knows d word = true
        ↔ ∃ s ∈ sources, ∃ alone, e.load [s] = .ok alone ∧ e.knows alone word = true)
      ∧ (∀ xs ys d d', e.load xs = .ok d → e.load ys = .ok d' →
        ∃ u, e.load (xs ++ ys) = .ok u
          ∧ ∀ word, e.knows u word = (e.knows d word || e.knows d' word))
      ∧ ∀ xs ys, (∀ s, s ∈ xs ↔ s ∈ ys) →
        ((∃ d, e.load xs = .ok d) ↔ ∃ d, e.load ys = .ok d)
          ∧ ∀ d d', e.load xs = .ok d → e.load ys = .ok d' →
            ∀ word, e.knows d word = e.knows d' word := by
  refine ⟨fun sources fault => ?_, fun sources => ⟨Text.pairwise_ascending _, fun f hload => ?_⟩,
    fun sources d hload word => ?_, fun _ _ _ _ => exists_load_append h,
    fun _ _ => load_congr h⟩
  · rw [load_eq_error_iff h]
    refine or_congr_right (exists_congr fun f => and_congr_right fun _ => ?_)
    exact ⟨fun hfault => ⟨hfault, by rw [hfault]; rfl⟩, And.left⟩
  · rcases (load_eq_error_iff h).mp hload with ⟨-, hfault⟩ | ⟨_, -, hfault⟩ <;> cases hfault
  · simp only [knows_iff h hload, knownBy_iff_load h]

/-- Engines to compute with. A lexicon has no rules: after the count, each line of its entry file is
a word. The set is the list of its words, and is refused unless they ascend. -/
def plain : Engines (List String) String (List String) String where
  readLexicon _ entries :=
    match Text.lines entries.toList with
    | [] => .error "failed to parse .dic file: expected 1 arguments but found 0"
    | count :: words =>
      if count.all Char.isDigit then .ok (words.map String.ofList)
      else .error "failed to parse .dic file on line 1: invalid digit found in string"
  asksLexicon lexicon word := lexicon.contains word
  lexiconText := id
  collect words := if words.Pairwise Text.Precedes then .ok words else .error "out of order"
  contains words word := words.contains word
  wordsText := id

theorem plain_sound : plain.Sound where
  collects words hwords := ⟨words, if_pos hwords⟩
  contains_iff {words set} hcollect word := by
    change (if words.Pairwise Text.Precedes then Except.ok words else _) = Except.ok set at hcollect
    split at hcollect
    · obtain rfl := Except.ok.inj hcollect
      exact List.contains_iff_mem
    · cases hcollect

/-- A lexicon and a list that is out of order, joined, and then with the list in front and behind;
and two malformed lexicons behind a list, of which the first is told. -/
theorem load_union_lexicon_and_list :
    plain.Sound
      ∧ plain.load [.lexicon "SET UTF-8" "1\nhello"] = .ok ⟨[["hello"]], []⟩
      ∧ plain.load [.wordList "Lodash\njquery"] = .ok ⟨[], ["jquery", "lodash"]⟩
      ∧ (∃ u, plain.load [.lexicon "SET UTF-8" "1\nhello", .wordList "Lodash\njquery"] = .ok u
        ∧ plain.knows u "hello" = true ∧ plain.knows u "LODASH" = true
        ∧ plain.knows u "world" = false
        ∧ (∃ s ∈ [.lexicon "SET UTF-8" "1\nhello", .wordList "Lodash\njquery"],
            ∃ alone, plain.load [s] = .ok alone ∧ plain.knows alone "hello" = true)
        ∧ ∃ u', plain.load [.wordList "Lodash\njquery", .lexicon "SET UTF-8" "1\nhello",
            .wordList "Lodash\njquery"] = .ok u'
          ∧ ∀ word, plain.knows u word = plain.knows u' word)
      ∧ plain.load [.wordList "a", .lexicon "" "x", .lexicon "" ""]
        = .error (.lexicon
          "failed to parse .dic file on line 1: invalid digit found in string") := by
  obtain ⟨hfails, -, hknows, happend, hcongr⟩ := load_union plain plain_sound
  have hlexicon : plain.load [.lexicon "SET UTF-8" "1\nhello"] = .ok ⟨[["hello"]], []⟩ := by rfl
  have hlist : plain.load [.wordList "Lodash\njquery"] = .ok ⟨[], ["jquery", "lodash"]⟩ := by rfl
  refine ⟨plain_sound, hlexicon, hlist, ?_, ?_⟩
  · obtain ⟨u, hu, hunion⟩ := happend _ _ _ _ hlexicon hlist
    obtain ⟨u', hu', -⟩ := happend _ _ _ _ hlist hu
    have hhello : plain.knows u "hello" = true := by
      rw [hunion]
      rfl
    refine ⟨u, hu, hhello, ?_, ?_, (hknows _ u hu "hello").mp hhello, u', hu', ?_⟩
    · rw [hunion]
      rfl
    · rw [hunion]
      rfl
    · refine (hcongr _ _ fun s => ?_).2 u u' hu hu'
      grind
  · refine (hfails _ _).mpr (.inr ⟨_, ⟨[.wordList "a"], .lexicon "" "x", [.lexicon "" ""], rfl,
      rejects_lexicon.mpr rfl, fun s hs f => ?_⟩, rfl, rfl⟩)
    rw [List.mem_singleton.mp hs]
    exact not_rejects_wordList _ f

end Engines

end ScriptSpelling
