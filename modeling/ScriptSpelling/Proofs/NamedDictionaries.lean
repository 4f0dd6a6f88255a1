import Mathlib.Data.List.Forall2
import ScriptSpelling.Config.Effective
import ScriptSpelling.Files.Tree
import ScriptSpelling.Proofs.Sources

/-!
# Dictionaries that a configuration names

The files of all dictionaries are read before anything is made of them, so a file that cannot be
read comes before a malformed lexicon, wherever the two stand. Which file is told is a matter of
the order of reading (`DictionaryPaths.FirstUnreadable`): the entry file of a dictionary before its
affix file, and one dictionary after the other. If every file can be read, the dictionaries hold
one source each (`DictionaryPaths.Holds`), and these are loaded as a union.

The main statement is `Config.dictionary_stages`. Like the laws of the union it holds for all
engines; `Config.dictionary` has those of this library.
-/

namespace ScriptSpelling

/-! ## Reading the files -/

namespace DictionaryPaths

/-- The files of a dictionary, in the order in which they are read. -/
def paths (d : DictionaryPaths) : List String := d.entries :: d.affixes.toList

/-- The files of the dictionary hold the source: a lexicon if there is an affix file, and else a
list. -/
inductive Holds (files : Files) : DictionaryPaths → DictionarySource → Prop
  | lexicon {affixPath entryPath affixes entries : String}
      (hentries : files.read entryPath = .ok entries)
      (haffixes : files.read affixPath = .ok affixes) :
      Holds files ⟨some affixPath, entryPath⟩ (.lexicon affixes entries)
  | wordList {path text : String} (htext : files.read path = .ok text) :
      Holds files ⟨none, path⟩ (.wordList text)

def Readable (files : Files) (paths : List String) : Prop :=
  ∀ path ∈ paths, ∃ text, files.read path = .ok text

/-- The path is the first that leads to no text, with the given fault. -/
def FirstUnreadable (files : Files) (paths : List String) (path : String) (fault : ReadFault) :
    Prop :=
  ∃ before after, paths = before ++ path :: after ∧ files.read path = .error fault
    ∧ Readable files before

theorem FirstUnreadable.not_readable {files : Files} {paths : List String} {path : String}
    {fault : ReadFault} (h : FirstUnreadable files paths path fault) : ¬ Readable files paths := by
  obtain ⟨before, after, rfl, hfault, -⟩ := h
  intro hreadable
  obtain ⟨text, htext⟩ := hreadable path (by simp)
  rw [hfault] at htext
  cases htext

theorem FirstUnreadable.append_left {files : Files} {paths : List String} {path : String}
    {fault : ReadFault} (h : FirstUnreadable files paths path fault) (more : List String) :
    FirstUnreadable files (paths ++ more) path fault := by
  obtain ⟨before, after, rfl, hfault, hbefore⟩ := h
  exact ⟨before, after ++ more, by simp, hfault, hbefore⟩

theorem FirstUnreadable.append_right {files : Files} {paths more : List String} {path : String}
    {fault : ReadFault} (hreadable : Readable files paths)
    (h : FirstUnreadable files more path fault) :
    FirstUnreadable files (paths ++ more) path fault := by
  obtain ⟨before, after, rfl, hfault, hbefore⟩ := h
  refine ⟨paths ++ before, after, by simp, hfault, fun p hp => ?_⟩
  exact (List.mem_append.mp hp).elim (hreadable p) (hbefore p)

theorem FirstUnreadable.unique {files : Files} {paths : List String} {path path' : String}
    {fault fault' : ReadFault} (h : FirstUnreadable files paths path fault)
    (h' : FirstUnreadable files paths path' fault') : path = path' ∧ fault = fault' := by
  obtain ⟨before, after, rfl, hfault, hbefore⟩ := h
  obtain ⟨before', after', hpaths, hfault', hbefore'⟩ := h'
  have hnot {p : String} {f : ReadFault} (hf : files.read p = .error f) :
      ¬ ∃ text, files.read p = .ok text := by simp [hf]
  -- Of the two parts before, one starts the other, and what follows it there could not be read.
  rcases List.append_eq_append_iff.mp hpaths with ⟨between, rfl, hsplit⟩ | ⟨between, rfl, hsplit⟩
  · cases between with
    | nil =>
        obtain ⟨rfl, -⟩ := List.cons.inj hsplit
        exact ⟨rfl, Except.error.inj (hfault.symm.trans hfault')⟩
    | cons p between =>
        obtain ⟨rfl, -⟩ := List.cons.inj hsplit
        exact absurd (hbefore' path (by simp)) (hnot hfault)
  · cases between with
    | nil =>
        obtain ⟨rfl, -⟩ := List.cons.inj hsplit
        exact ⟨rfl, Except.error.inj (hfault.symm.trans hfault')⟩
    | cons p between =>
        obtain ⟨rfl, -⟩ := List.cons.inj hsplit
        exact absurd (hbefore path' (by simp)) (hnot hfault')

theorem Holds.readable {files : Files} {d : DictionaryPaths} {source : DictionarySource}
    (h : d.Holds files source) : Readable files d.paths := by
  cases h with
  | lexicon hentries haffixes =>
      rintro path hpath
      rcases List.mem_cons.mp hpath with rfl | hpath
      · exact ⟨_, hentries⟩
      · obtain rfl := List.mem_singleton.mp hpath
        exact ⟨_, haffixes⟩
  | wordList htext =>
      rintro path hpath
      obtain rfl := List.mem_singleton.mp hpath
      exact ⟨_, htext⟩

theorem read_of_holds {files : Files} {d : DictionaryPaths} {source : DictionarySource}
    (h : d.Holds files source) : d.read files = .ok source := by
  cases h with
  | lexicon hentries haffixes =>
      simp only [read, readDictionaryFile, hentries, haffixes]
      rfl
  | wordList htext =>
      simp only [read, readDictionaryFile, htext]
      rfl

/-- The files of a dictionary hold a source, or reading them stops at the first that is no text. -/
theorem holds_or_unreadable (files : Files) (d : DictionaryPaths) :
    (∃ source, d.Holds files source) ∨ ∃ path fault, FirstUnreadable files d.paths path fault
      ∧ d.read files = .error (.dictionaryUnreadable path fault) := by
  obtain ⟨affixes, entryPath⟩ := d
  cases hentries : files.read entryPath with
  | error fault =>
      refine .inr ⟨entryPath, fault,
        ⟨[], affixes.toList, rfl, hentries, fun _ hp => nomatch hp⟩, ?_⟩
      simp only [read, readDictionaryFile, hentries]
      rfl
  | ok entries =>
      cases affixes with
      | none => exact .inl ⟨_, .wordList hentries⟩
      | some affixPath =>
          cases haffixes : files.read affixPath with
          | ok affixes => exact .inl ⟨_, .lexicon hentries haffixes⟩
          | error fault =>
              refine .inr ⟨affixPath, fault, ⟨[entryPath], [], rfl, haffixes, ?_⟩, ?_⟩
              · rintro path hpath
                obtain rfl := List.mem_singleton.mp hpath
                exact ⟨_, hentries⟩
              · simp only [read, readDictionaryFile, hentries, haffixes]
                rfl

theorem readAll_of_holds {files : Files} {ds : List DictionaryPaths}
    {sources : List DictionarySource} (h : List.Forall₂ (Holds files) ds sources) :
    readAll files ds = .ok sources := by
  induction h with
  | nil => rfl
  | cons hd hds ih =>
      rw [readAll, read_of_holds hd, ih]
      rfl

theorem readable_of_holds {files : Files} {ds : List DictionaryPaths}
    {sources : List DictionarySource} (h : List.Forall₂ (Holds files) ds sources) :
    Readable files (ds.flatMap paths) := by
  induction h with
  | nil => exact fun _ hp => nomatch hp
  | cons hd hds ih =>
      intro path hpath
      rw [List.flatMap_cons, List.mem_append] at hpath
      exact hpath.elim (hd.readable path) (ih path)

/-- The dictionaries hold a source each, or reading them stops at the first file that is no
text. -/
theorem all_hold_or_unreadable (files : Files) : ∀ ds : List DictionaryPaths,
    (∃ sources, List.Forall₂ (Holds files) ds sources)
      ∨ ∃ path fault, FirstUnreadable files (ds.flatMap paths) path fault
        ∧ readAll files ds = .error (.dictionaryUnreadable path fault)
  | [] => .inl ⟨[], .nil⟩
  | d :: ds => by
      rw [List.flatMap_cons]
      rcases holds_or_unreadable files d with ⟨source, hd⟩ | ⟨path, fault, hfirst, hread⟩
      · rcases all_hold_or_unreadable files ds with ⟨sources, hds⟩ | ⟨path, fault, hfirst, hread⟩
        · exact .inl ⟨source :: sources, .cons hd hds⟩
        · refine .inr ⟨path, fault, hfirst.append_right hd.readable, ?_⟩
          rw [readAll, read_of_holds hd, hread]
          rfl
      · refine .inr ⟨path, fault, hfirst.append_left _, ?_⟩
        rw [readAll, hread]
        rfl

theorem readAll_eq_ok_iff {files : Files} {ds : List DictionaryPaths}
    {sources : List DictionarySource} :
    readAll files ds = .ok sources ↔ List.Forall₂ (Holds files) ds sources := by
  refine ⟨fun hread => ?_, readAll_of_holds⟩
  rcases all_hold_or_unreadable files ds with ⟨sources', hds⟩ | ⟨path, fault, -, hfails⟩
  · rw [readAll_of_holds hds] at hread
    rwa [← Except.ok.inj hread]
  · rw [hfails] at hread
    cases hread

theorem readAll_eq_error_iff {files : Files} {ds : List DictionaryPaths} {failure : Failure} :
    readAll files ds = .error failure ↔ ∃ path fault, failure = .dictionaryUnreadable path fault
      ∧ FirstUnreadable files (ds.flatMap paths) path fault := by
  rcases all_hold_or_unreadable files ds with ⟨sources, hds⟩ | ⟨path, fault, hfirst, hfails⟩
  · refine iff_of_false (by simp [readAll_of_holds hds]) ?_
    rintro ⟨path, fault, -, hfirst⟩
    exact hfirst.not_readable (readable_of_holds hds)
  · rw [hfails, Except.error.injEq]
    constructor
    · exact fun heq => ⟨path, fault, heq.symm, hfirst⟩
    · rintro ⟨path', fault', rfl, hfirst'⟩
      obtain ⟨rfl, rfl⟩ := hfirst.unique hfirst'
      rfl

theorem exists_holds_iff {files : Files} {ds : List DictionaryPaths} :
    (∃ sources, List.Forall₂ (Holds files) ds sources) ↔ Readable files (ds.flatMap paths) := by
  constructor
  · rintro ⟨sources, hds⟩
    exact readable_of_holds hds
  · intro hreadable
    rcases all_hold_or_unreadable files ds with hds | ⟨path, fault, hfirst, -⟩
    · exact hds
    · exact absurd hreadable hfirst.not_readable

theorem Holds.unique {files : Files} {d : DictionaryPaths} {source source' : DictionarySource}
    (h : d.Holds files source) (h' : d.Holds files source') : source = source' :=
  Except.ok.inj ((read_of_holds h).symm.trans (read_of_holds h'))

theorem mem_sources_iff {files : Files} {ds : List DictionaryPaths}
    {sources : List DictionarySource} (h : List.Forall₂ (Holds files) ds sources)
    (source : DictionarySource) : source ∈ sources ↔ ∃ d ∈ ds, d.Holds files source := by
  induction h with
  | nil => simp
  | cons hd hds ih =>
      simp only [List.mem_cons, ih, exists_eq_or_imp]
      exact or_congr_left ⟨fun heq => heq ▸ hd, fun hd' => hd'.unique hd⟩

end DictionaryPaths

/-! ## Loading what was read -/

open DictionaryPaths

namespace Engines

variable {Lex LexFault Words WordsFault : Type} {e : Engines Lex LexFault Words WordsFault}

/-- The union of the dictionaries at the paths. It is a failure of reading, on the left, or a fault
of loading that keeps it from being made. -/
def loadFiles (e : Engines Lex LexFault Words WordsFault) (files : Files)
    (ds : List DictionaryPaths) :
    Except (Failure ⊕ UnionFault LexFault WordsFault) (Union Lex Words) := do
  let sources ← (readAll files ds).mapError .inl
  (e.load sources).mapError .inr

theorem loadFiles_of_error {files : Files} {ds : List DictionaryPaths} {failure : Failure}
    (h : readAll files ds = .error failure) : e.loadFiles files ds = .error (.inl failure) := by
  rw [loadFiles, h]
  rfl

theorem loadFiles_of_holds {files : Files} {ds : List DictionaryPaths}
    {sources : List DictionarySource} (h : List.Forall₂ (Holds files) ds sources) :
    e.loadFiles files ds = (e.load sources).mapError .inr := by
  rw [loadFiles, readAll_of_holds h]
  rfl

theorem loadFiles_eq_inl_iff {files : Files} {ds : List DictionaryPaths} {failure : Failure} :
    e.loadFiles files ds = .error (.inl failure) ↔ readAll files ds = .error failure := by
  cases hread : readAll files ds with
  | error failure' => simp [loadFiles_of_error hread]
  | ok sources =>
      rw [loadFiles_of_holds (readAll_eq_ok_iff.mp hread)]
      cases e.load sources <;> simp [Except.mapError]

theorem loadFiles_eq_inr_iff {files : Files} {ds : List DictionaryPaths}
    {fault : UnionFault LexFault WordsFault} :
    e.loadFiles files ds = .error (.inr fault)
      ↔ ∃ sources, List.Forall₂ (Holds files) ds sources ∧ e.load sources = .error fault := by
  simp only [← readAll_eq_ok_iff]
  cases hread : readAll files ds with
  | error failure => simp [loadFiles_of_error hread]
  | ok sources =>
      rw [loadFiles_of_holds (readAll_eq_ok_iff.mp hread)]
      cases hload : e.load sources <;> simp [Except.mapError, hload]

theorem loadFiles_eq_ok_iff {files : Files} {ds : List DictionaryPaths} {u : Union Lex Words} :
    e.loadFiles files ds = .ok u
      ↔ ∃ sources, List.Forall₂ (Holds files) ds sources ∧ e.load sources = .ok u := by
  simp only [← readAll_eq_ok_iff]
  cases hread : readAll files ds with
  | error failure => simp [loadFiles_of_error hread]
  | ok sources =>
      rw [loadFiles_of_holds (readAll_eq_ok_iff.mp hread)]
      cases hload : e.load sources <;> simp [Except.mapError, hload]

theorem eq_nil_iff_of_holds {files : Files} {ds : List DictionaryPaths}
    {sources : List DictionarySource} (h : List.Forall₂ (Holds files) ds sources) :
    sources = [] ↔ ds = [] := by
  cases h <;> simp

/-- Once the files have been read, loading fails for want of a name or for a malformed lexicon. -/
theorem loadFiles_eq_fault_iff (h : e.Sound) {files : Files} {ds : List DictionaryPaths}
    {fault : UnionFault LexFault WordsFault} :
    e.loadFiles files ds = .error (.inr fault)
      ↔ ds = [] ∧ fault = .noSource
        ∨ ∃ sources f, List.Forall₂ (Holds files) ds sources ∧ e.FirstRejected sources f
          ∧ fault = .lexicon f := by
  rw [loadFiles_eq_inr_iff]
  simp only [load_eq_error_iff h]
  constructor
  · rintro ⟨sources, hsources, ⟨hnil, hfault⟩ | ⟨f, hfirst, hfault⟩⟩
    · exact .inl ⟨(eq_nil_iff_of_holds hsources).mp hnil, hfault⟩
    · exact .inr ⟨sources, f, hsources, hfirst, hfault⟩
  · rintro (⟨rfl, hfault⟩ | ⟨sources, f, hsources, hfirst, hfault⟩)
    · exact ⟨[], .nil, .inl ⟨rfl, hfault⟩⟩
    · exact ⟨sources, hsources, .inr ⟨f, hfirst, hfault⟩⟩

theorem exists_loadFiles_iff (h : e.Sound) {files : Files} {ds : List DictionaryPaths} :
    (∃ u, e.loadFiles files ds = .ok u)
      ↔ Readable files (ds.flatMap paths) ∧ ds ≠ []
        ∧ ∀ d ∈ ds, ∀ source, d.Holds files source → ∀ fault, ¬ e.Rejects source fault := by
  simp only [loadFiles_eq_ok_iff, ← exists_holds_iff]
  constructor
  · rintro ⟨u, sources, hsources, hload⟩
    obtain ⟨hne, hfine⟩ := (exists_load_iff h).mp ⟨u, hload⟩
    refine ⟨⟨sources, hsources⟩, mt (eq_nil_iff_of_holds hsources).mpr hne, ?_⟩
    intro d hd source hholds
    exact hfine source ((mem_sources_iff hsources source).mpr ⟨d, hd, hholds⟩)
  · rintro ⟨⟨sources, hsources⟩, hne, hfine⟩
    obtain ⟨u, hload⟩ : ∃ u, e.load sources = .ok u := by
      refine (exists_load_iff h).mpr ⟨mt (eq_nil_iff_of_holds hsources).mp hne, ?_⟩
      intro source hmem
      obtain ⟨d, hd, hholds⟩ := (mem_sources_iff hsources source).mp hmem
      exact hfine d hd source hholds
    exact ⟨u, sources, hsources, hload⟩

theorem knows_loadFiles_iff (h : e.Sound) {files : Files} {ds : List DictionaryPaths}
    {u : Union Lex Words} (hload : e.loadFiles files ds = .ok u) (word : String) :
    e.knows u word = true ↔ ∃ d ∈ ds, ∃ source, d.Holds files source ∧ e.KnownBy source word := by
  obtain ⟨sources, hsources, hunion⟩ := loadFiles_eq_ok_iff.mp hload
  rw [knows_iff h hunion]
  simp only [mem_sources_iff hsources]
  constructor
  · rintro ⟨source, ⟨d, hd, hholds⟩, hknown⟩
    exact ⟨d, hd, source, hholds, hknown⟩
  · rintro ⟨d, hd, source, hholds, hknown⟩
    exact ⟨source, ⟨d, hd, hholds⟩, hknown⟩

end Engines

namespace Config

variable {Lex LexFault Words WordsFault : Type}

/-- A configuration's dictionary is the union of the files that it names, by the engines of this
library. -/
theorem dictionary_eq_loadFiles (config : Config) (files : Files) :
    config.dictionary files
      = ((Engines.inMemory.loadFiles files config.dictionaries).map
          Engines.inMemory.dictionary).mapError (Sum.elim id .dictionary) := by
  rw [dictionary, Engines.loadFiles]
  cases readAll files config.dictionaries with
  | error failure => rfl
  | ok sources =>
      change (Dictionary.load sources).mapError _ = _
      rw [Dictionary.load, Engines.loadDictionary]
      cases hload : Engines.inMemory.load sources <;>
        simp [bind, Except.bind, Except.mapError, Except.map, hload]

/-- **What comes of the named dictionaries.** A configuration's dictionary is the union of what its
files hold, by the engines of this library. Whatever the engines are: a file that cannot be read is
told first, and the first such in the order of reading. If all can be read, nothing is loaded from
no name at all, and of the malformed lexicons the first is told. In every other case there is a
dictionary. It is loaded from one source for each name, a lexicon where there is an affix file and
else a list, and knows the words that one of these knows. -/
theorem dictionary_stages (e : Engines Lex LexFault Words WordsFault) (h : e.Sound)
    (files : Files) (config : Config) :
    let named := config.dictionaries
    config.dictionary files
        = ((Engines.inMemory.loadFiles files named).map Engines.inMemory.dictionary).mapError
            (Sum.elim id .dictionary)
      ∧ (∀ failure, e.loadFiles files named = .error (.inl failure)
        ↔ ∃ path fault, failure = .dictionaryUnreadable path fault
          ∧ FirstUnreadable files (named.flatMap paths) path fault)
      ∧ (∀ fault, e.loadFiles files named = .error (.inr fault)
        ↔ named = [] ∧ fault = .noSource
          ∨ ∃ sources f, List.Forall₂ (Holds files) named sources ∧ e.FirstRejected sources f
            ∧ fault = .lexicon f)
      ∧ ((∃ u, e.loadFiles files named = .ok u)
        ↔ Readable files (named.flatMap paths) ∧ named ≠ []
          ∧ ∀ d ∈ named, ∀ source, d.Holds files source → ∀ f, ¬ e.Rejects source f)
      ∧ ∀ u, e.loadFiles files named = .ok u →
        (∃ sources, List.Forall₂ (Holds files) named sources ∧ e.load sources = .ok u)
          ∧ ∀ word, e.knows u word = true
            ↔ ∃ d ∈ named, ∃ source, d.Holds files source ∧ e.KnownBy source word := by
  intro named
  refine ⟨config.dictionary_eq_loadFiles files, fun failure => ?_,
    fun fault => Engines.loadFiles_eq_fault_iff h, Engines.exists_loadFiles_iff h,
    fun u hload => ⟨Engines.loadFiles_eq_ok_iff.mp hload, Engines.knows_loadFiles_iff h hload⟩⟩
  rw [Engines.loadFiles_eq_inl_iff, readAll_eq_error_iff]

/-- A file without text behind a malformed lexicon, the malformed lexicon alone, and a lexicon with
a list. -/
theorem dictionary_stages_mixed :
    let e := Engines.plain
    let files := (FileTree.ofPaths [("/work/en.aff", .text "SET UTF-8"),
      ("/work/en.dic", .text "1\nhello"), ("/work/bad.dic", .text "x"),
      ("/work/words", .text "Lodash"), ("/work/raw", .bytes)]).files ["work"]
    e.Sound
      ∧ e.loadFiles files [⟨some "en.aff", "bad.dic"⟩, ⟨some "none", "raw"⟩]
        = .error (.inl (.dictionaryUnreadable "raw" .invalidText))
      ∧ e.loadFiles files [⟨none, "words"⟩, ⟨some "en.aff", "bad.dic"⟩]
        = .error (.inr (.lexicon
          "failed to parse .dic file on line 1: invalid digit found in string"))
      ∧ e.loadFiles files [] = .error (.inr .noSource)
      ∧ ∃ u, e.loadFiles files [⟨some "en.aff", "en.dic"⟩, ⟨none, "words"⟩] = .ok u
        ∧ e.knows u "hello" = true ∧ e.knows u "LODASH" = true ∧ e.knows u "world" = false := by
  intro e files
  have haff : files.read "en.aff" = .ok "SET UTF-8" := by decide +kernel
  have hdic : files.read "en.dic" = .ok "1\nhello" := by decide +kernel
  have hbad : files.read "bad.dic" = .ok "x" := by decide +kernel
  have hwords : files.read "words" = .ok "Lodash" := by decide +kernel
  have hraw : files.read "raw" = .error .invalidText := by decide +kernel
  have hlist : Holds files ⟨none, "words"⟩ (.wordList "Lodash") := .wordList hwords
  refine ⟨Engines.plain_sound, ?_, ?_, ?_, ?_⟩
  · obtain ⟨-, hunreadable, -⟩ := dictionary_stages e Engines.plain_sound files
      { dictionaries := [⟨some "en.aff", "bad.dic"⟩, ⟨some "none", "raw"⟩] }
    refine (hunreadable _).mpr
      ⟨"raw", .invalidText, rfl, ["bad.dic", "en.aff"], ["none"], rfl, hraw, ?_⟩
    rintro path hpath
    rcases List.mem_cons.mp hpath with rfl | hpath
    · exact ⟨_, hbad⟩
    · obtain rfl := List.mem_singleton.mp hpath
      exact ⟨_, haff⟩
  · obtain ⟨-, -, hrejected, -⟩ := dictionary_stages e Engines.plain_sound files
      { dictionaries := [⟨none, "words"⟩, ⟨some "en.aff", "bad.dic"⟩] }
    refine (hrejected _).mpr (.inr ⟨[.wordList "Lodash", .lexicon "SET UTF-8" "x"], _,
      .cons hlist (.cons (.lexicon hbad haff) .nil), ⟨[.wordList "Lodash"], _, [], rfl,
      Engines.rejects_lexicon.mpr rfl, fun s hs f => ?_⟩, rfl⟩)
    rw [List.mem_singleton.mp hs]
    exact Engines.not_rejects_wordList _ f
  · obtain ⟨-, -, hnothing, -⟩ := dictionary_stages e Engines.plain_sound files {}
    exact (hnothing _).mpr (.inl ⟨rfl, rfl⟩)
  · obtain ⟨-, -, -, -, hknows⟩ := dictionary_stages e Engines.plain_sound files
      { dictionaries := [⟨some "en.aff", "en.dic"⟩, ⟨none, "words"⟩] }
    have hlexicon : Holds files ⟨some "en.aff", "en.dic"⟩ (.lexicon "SET UTF-8" "1\nhello") :=
      .lexicon hdic haff
    have hload : e.loadFiles files [⟨some "en.aff", "en.dic"⟩, ⟨none, "words"⟩]
        = .ok ⟨[["hello"]], ["lodash"]⟩ :=
      (Engines.loadFiles_of_holds (.cons hlexicon (.cons hlist .nil))).trans (by rfl)
    have hlisted : Text.lowercase "LODASH" ∈ WordList.entries "Lodash" := by decide
    refine ⟨_, hload, ((hknows _ hload).2 "hello").mpr ?_, ((hknows _ hload).2 "LODASH").mpr ?_,
      by rfl⟩
    · exact ⟨_, List.mem_cons_self, _, hlexicon, ["hello"], by rfl, by rfl⟩
    · exact ⟨_, List.mem_cons_of_mem _ List.mem_cons_self, _, hlist, hlisted⟩

end Config

end ScriptSpelling
