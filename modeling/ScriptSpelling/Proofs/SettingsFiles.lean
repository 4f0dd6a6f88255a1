import Mathlib.Data.List.Forall2
import ScriptSpelling.Command.Run
import ScriptSpelling.Files.Tree
import ScriptSpelling.Proofs.Layering
import ScriptSpelling.Proofs.Paths

/-!
# What two settings files decide

A settings file is missing, bad, or holds a layer. `ConfigLayer.Holds` and `ConfigLayer.Fails` tell
these states apart by whether the file is there, what reading it gives, and what the reader of
settings makes of its text (`ConfigLayer.holds_or_fails`); `Config.mergeFile` does what they ask
for. Which texts write a layer is a matter of the reader, and any reader will do here.
`Config.Decided` then says setting by setting what the two layers make of the defaults, with paths
as the files write them; `Config.decided_iff` is the bridge to the way the layers are merged one
after the other.

The main statement is `Config.load_layers`.
-/

namespace ScriptSpelling

/-! ## States of a settings file -/

namespace ConfigLayer

variable {reader : SettingsReader} {files : Files} {path : String}

/-- The settings file at the path holds the layer: there is none and the layer is empty, or its
text writes the layer. -/
inductive Holds (reader : SettingsReader) (files : Files) (path : String) : ConfigLayer → Prop
  | missing (hentry : files.hasEntry path = false) : Holds reader files path {}
  | written {text : String} {layer : ConfigLayer} (hentry : files.hasEntry path = true)
      (htext : files.read path = .ok text) (hlayer : reader text = .ok layer) :
      Holds reader files path layer

/-- There is a settings file at the path, and it cannot be read or its text writes no layer. -/
inductive Fails (reader : SettingsReader) (files : Files) (path : String) : Failure → Prop
  | unreadable {fault : ReadFault} (hentry : files.hasEntry path = true)
      (htext : files.read path = .error fault) :
      Fails reader files path (.settingsUnreadable path fault)
  | malformed {text reason : String} (hentry : files.hasEntry path = true)
      (htext : files.read path = .ok text) (hlayer : reader text = .error reason) :
      Fails reader files path (.settingsMalformed ⟨path, reason⟩)

theorem Fails.hasEntry {failure : Failure} (h : Fails reader files path failure) :
    files.hasEntry path = true := by
  cases h <;> assumption

theorem not_fails_of_holds {layer : ConfigLayer} (h : Holds reader files path layer)
    (failure : Failure) : ¬ Fails reader files path failure := by
  intro hfails
  cases h with
  | missing hentry =>
      rw [hfails.hasEntry] at hentry
      cases hentry
  | written _ htext hlayer =>
      cases hfails with
      | unreadable _ htext' =>
          rw [htext] at htext'
          cases htext'
      | malformed _ htext' hlayer' =>
          obtain rfl := Except.ok.inj (htext.symm.trans htext')
          rw [hlayer] at hlayer'
          cases hlayer'

/-- A settings file fails exactly if it holds no layer. -/
theorem holds_or_fails (reader : SettingsReader) (files : Files) (path : String) :
    (∃ layer, Holds reader files path layer) ↔ ¬ ∃ failure, Fails reader files path failure := by
  constructor
  · rintro ⟨layer, hholds⟩ ⟨failure, hfails⟩
    exact not_fails_of_holds hholds failure hfails
  · intro hfine
    cases hentry : files.hasEntry path with
    | false => exact ⟨{}, .missing hentry⟩
    | true =>
        cases htext : files.read path with
        | error fault => exact absurd ⟨_, .unreadable hentry htext⟩ hfine
        | ok text =>
            cases hlayer : reader text with
            | error reason => exact absurd ⟨_, .malformed hentry htext hlayer⟩ hfine
            | ok layer => exact ⟨layer, .written hentry htext hlayer⟩

end ConfigLayer

/-- The dictionary `d'` is `d` with its paths seen from the directory `base`. -/
structure DictionaryPaths.SeenFrom (base : String) (d d' : DictionaryPaths) : Prop where
  affixes : Option.Rel (Files.SeenFrom base) d.affixes d'.affixes
  entries : Files.SeenFrom base d.entries d'.entries

theorem DictionaryPaths.seenFrom_iff {base : String} {d d' : DictionaryPaths} :
    DictionaryPaths.SeenFrom base d d' ↔ d' = d.resolve base := by
  obtain ⟨affixes, entries⟩ := d
  obtain ⟨affixes', entries'⟩ := d'
  constructor
  · rintro ⟨haffixes, hentries⟩
    obtain rfl := Files.seenFrom_iff.mp hentries
    cases haffixes with
    | none => rfl
    | some haffixes =>
        obtain rfl := Files.seenFrom_iff.mp haffixes
        rfl
  · intro h
    obtain ⟨rfl, rfl⟩ := DictionaryPaths.mk.injEq .. ▸ h
    refine ⟨?_, Files.seenFrom_iff.mpr rfl⟩
    cases affixes with
    | none => exact .none
    | some path => exact .some (Files.seenFrom_iff.mpr rfl)

theorem DictionaryPaths.forall₂_seenFrom_iff {base : String} : ∀ {ds ds' : List DictionaryPaths},
    List.Forall₂ (DictionaryPaths.SeenFrom base) ds ds' ↔ ds' = ds.map (·.resolve base)
  | [], ds' => by simp
  | d :: ds, [] => by simp
  | d :: ds, d' :: ds' => by
      rw [List.forall₂_cons, seenFrom_iff, forall₂_seenFrom_iff, List.map_cons, List.cons.injEq]

namespace Config

open ConfigLayer

variable {reader : SettingsReader} {files : Files}

/-- A settings file adds the layer that it holds, with its paths seen from the file's directory. -/
theorem mergeFile_of_holds {path : String} {layer : ConfigLayer} (config : Config)
    (h : Holds reader files path layer) :
    mergeFile reader files config path
      = .ok (config.merge (layer.resolve (Files.parent path))) := by
  cases h with
  | missing hentry =>
      have hnothing : ConfigLayer.resolve (Files.parent path) {} = {} := rfl
      rw [mergeFile, hentry, hnothing, merge_empty]
      rfl
  | written hentry htext hlayer =>
      rw [mergeFile, if_pos hentry, ConfigLayer.read, htext]
      simp only [hlayer]
      rfl

theorem mergeFile_of_fails {path : String} {failure : Failure} (config : Config)
    (h : Fails reader files path failure) :
    mergeFile reader files config path = .error failure := by
  cases h with
  | unreadable hentry htext =>
      rw [mergeFile, if_pos hentry, ConfigLayer.read, htext]
      rfl
  | malformed hentry htext hlayer =>
      rw [mergeFile, if_pos hentry, ConfigLayer.read, htext]
      simp only [hlayer]
      rfl

/-! ## Two layers on the defaults -/

/-- The configuration that the layer of the user and the local one decide, with the directories of
the user. -/
structure Decided (dirs : UserDirectories) (user own : ConfigLayer) (config : Config) : Prop where
  categories_eq : config.categories = (own.categories.or user.categories).getD Category.all
  minLength_eq : config.minLength = (own.minLength.or user.minLength).getD 0
  showSuccesses_eq : config.showSuccesses = (own.showSuccesses.or user.showSuccesses).getD false
  color_eq : config.color = (own.color.or user.color).getD true
  skipWords_eq : config.skipWords = user.skipWords ++ own.skipWords
  /-- Paths of the local file are seen from the working directory already. -/
  own_dictionaries : ∀ ds, own.dictionaries = some ds → ds ≠ [] → config.dictionaries = ds
  /-- Paths of the user's file are seen from its directory. -/
  user_dictionaries : ∀ ds, own.dictionaries = none → user.dictionaries = some ds → ds ≠ [] →
    List.Forall₂ (DictionaryPaths.SeenFrom (Files.parent dirs.settingsFile)) ds config.dictionaries
  default_dictionary : (own.dictionaries.or user.dictionaries).getD [] = [] →
    config.dictionaries
      = [⟨some (Files.join dirs.data "en_US.aff"), Files.join dirs.data "en_US.dic"⟩]

/-- The defaults with the layer of the user and then the local one, and with the user's own
dictionary if none is named. -/
def layered (dirs : UserDirectories) (user own : ConfigLayer) : Config :=
  ((({} : Config).merge (user.resolve (Files.parent dirs.settingsFile))).merge
    (own.resolve (Files.parent localFile))).withDefaultDictionary (some dirs)

/-- The local file is in the working directory, so its paths stay as they are. -/
theorem resolve_local (layer : ConfigLayer) : layer.resolve (Files.parent localFile) = layer := by
  have hparent : Files.parent localFile = "" := by decide
  have hjoin : Files.join "" = id := funext fun path => by simp [Files.join_eq]
  have hpaths : DictionaryPaths.resolve "" = id := funext fun d => by
    simp [DictionaryPaths.resolve, hjoin]
  simp [ConfigLayer.resolve, hparent, hpaths]

/-- The dictionaries of the last layer that names any, seen from the directory of its file. -/
def named (dirs : UserDirectories) (user own : ConfigLayer) : List DictionaryPaths :=
  own.dictionaries.getD
    ((user.dictionaries.getD []).map (·.resolve (Files.parent dirs.settingsFile)))

theorem dictionaries_layered (dirs : UserDirectories) (user own : ConfigLayer) :
    (layered dirs user own).dictionaries
      = match named dirs user own with
        | [] => [dirs.dictionary]
        | d :: ds => d :: ds := by
  have hmerged : ((({} : Config).merge (user.resolve (Files.parent dirs.settingsFile))).merge
      own).dictionaries = named dirs user own := by
    simp only [merge, ConfigLayer.resolve, named]
    cases user.dictionaries <;> rfl
  rw [layered, resolve_local, withDefaultDictionary, hmerged]
  generalize named dirs user own = ds at hmerged ⊢
  cases ds with
  | nil => rfl
  | cons d ds => exact hmerged

/-- The user's own dictionary stands in for missing ones and touches nothing else. -/
theorem withDefaultDictionary_eq (config : Config) (dirs : Option UserDirectories) :
    config.withDefaultDictionary dirs = { config with
      dictionaries := (config.withDefaultDictionary dirs).dictionaries } := by
  unfold withDefaultDictionary
  split <;> rfl

theorem decided_layered (dirs : UserDirectories) (user own : ConfigLayer) :
    Decided dirs user own (layered dirs user own) where
  categories_eq := by
    rw [layered, withDefaultDictionary_eq, Option.getD_or]
    rfl
  minLength_eq := by
    rw [layered, withDefaultDictionary_eq, Option.getD_or]
    rfl
  showSuccesses_eq := by
    rw [layered, withDefaultDictionary_eq, Option.getD_or]
    rfl
  color_eq := by
    rw [layered, withDefaultDictionary_eq, Option.getD_or]
    rfl
  skipWords_eq := by
    rw [layered, withDefaultDictionary_eq]
    rfl
  own_dictionaries ds hown hne := by
    rw [dictionaries_layered, named, hown]
    cases ds with
    | nil => exact absurd rfl hne
    | cons d ds => rfl
  user_dictionaries ds hown huser hne := by
    rw [DictionaryPaths.forall₂_seenFrom_iff, dictionaries_layered, named, hown, huser]
    cases ds with
    | nil => exact absurd rfl hne
    | cons d ds => rfl
  default_dictionary hnone := by
    rw [Option.getD_or] at hnone
    rw [dictionaries_layered, named]
    cases hown : own.dictionaries with
    | some ds =>
        obtain rfl : ds = [] := by rwa [hown] at hnone
        rfl
    | none =>
        rw [hown, Option.getD_none] at hnone
        rw [Option.getD_none, hnone]
        rfl

/-- What two layers decide is one configuration. -/
theorem Decided.eq {dirs : UserDirectories} {user own : ConfigLayer} {config config' : Config}
    (h : Decided dirs user own config) (h' : Decided dirs user own config') :
    config = config' := by
  -- Every field is given by an equation except the dictionaries, where it matters who names them.
  have hdictionaries : config.dictionaries = config'.dictionaries := by
    by_cases hnone : (own.dictionaries.or user.dictionaries).getD [] = []
    · rw [h.default_dictionary hnone, h'.default_dictionary hnone]
    · cases hown : own.dictionaries with
      | some ds =>
          rw [hown] at hnone
          rw [h.own_dictionaries ds hown hnone, h'.own_dictionaries ds hown hnone]
      | none =>
          cases huser : user.dictionaries with
          | none =>
              rw [hown, huser] at hnone
              exact absurd rfl hnone
          | some ds =>
              rw [hown, huser] at hnone
              rw [DictionaryPaths.forall₂_seenFrom_iff.mp (h.user_dictionaries ds hown huser hnone),
                DictionaryPaths.forall₂_seenFrom_iff.mp (h'.user_dictionaries ds hown huser hnone)]
  obtain ⟨categories, minLength, showSuccesses, skipWords, color, dictionaries⟩ := config
  obtain rfl := hdictionaries
  obtain rfl := h.categories_eq.trans h'.categories_eq.symm
  obtain rfl := h.minLength_eq.trans h'.minLength_eq.symm
  obtain rfl := h.showSuccesses_eq.trans h'.showSuccesses_eq.symm
  obtain rfl := h.skipWords_eq.trans h'.skipWords_eq.symm
  obtain rfl := h.color_eq.trans h'.color_eq.symm
  rfl

theorem decided_iff {dirs : UserDirectories} {user own : ConfigLayer} {config : Config} :
    Decided dirs user own config ↔ config = layered dirs user own := by
  constructor
  · exact fun h => h.eq (decided_layered dirs user own)
  · rintro rfl
    exact decided_layered dirs user own

/-! ## Loading -/

section Loading

variable {dirs : UserDirectories}

theorem load_of_holds {user own : ConfigLayer} (huser : Holds reader files dirs.settingsFile user)
    (hown : Holds reader files localFile own) :
    load files (some dirs) reader = .ok (layered dirs user own) := by
  simp only [load, mergeFile_of_holds _ huser, bind, Except.bind, mergeFile_of_holds _ hown, pure,
    Except.pure, layered]

theorem load_of_user_fails {failure : Failure}
    (h : Fails reader files dirs.settingsFile failure) :
    load files (some dirs) reader = .error failure := by
  simp only [load, mergeFile_of_fails _ h, bind, Except.bind]

theorem load_of_own_fails {user : ConfigLayer} {failure : Failure}
    (huser : Holds reader files dirs.settingsFile user)
    (h : Fails reader files localFile failure) :
    load files (some dirs) reader = .error failure := by
  simp only [load, mergeFile_of_holds _ huser, bind, Except.bind, mergeFile_of_fails _ h]

theorem load_eq_error_iff {failure : Failure} :
    load files (some dirs) reader = .error failure
      ↔ Fails reader files dirs.settingsFile failure
        ∨ (¬ ∃ f, Fails reader files dirs.settingsFile f)
          ∧ Fails reader files localFile failure := by
  -- The user's file comes first: only if nothing is wrong with it does the local one count.
  by_cases huser : ∃ f, Fails reader files dirs.settingsFile f
  · obtain ⟨f, hf⟩ := huser
    rw [load_of_user_fails hf]
    constructor
    · intro h
      obtain rfl := Except.error.inj h
      exact .inl hf
    · rintro (h | ⟨hnone, -⟩)
      · rw [← load_of_user_fails hf, load_of_user_fails h]
      · exact absurd ⟨f, hf⟩ hnone
  · obtain ⟨user, hheld⟩ := (holds_or_fails reader files dirs.settingsFile).mpr huser
    by_cases hown : ∃ f, Fails reader files localFile f
    · obtain ⟨f, hf⟩ := hown
      rw [load_of_own_fails hheld hf]
      constructor
      · intro h
        obtain rfl := Except.error.inj h
        exact .inr ⟨huser, hf⟩
      · rintro (h | ⟨-, h⟩)
        · exact absurd ⟨failure, h⟩ huser
        · rw [← load_of_own_fails hheld hf, load_of_own_fails hheld h]
    · obtain ⟨own, hheld'⟩ := (holds_or_fails reader files localFile).mpr hown
      rw [load_of_holds hheld hheld']
      refine iff_of_false (fun h => nomatch h) ?_
      rintro (h | ⟨-, h⟩)
      · exact huser ⟨failure, h⟩
      · exact hown ⟨failure, h⟩

theorem load_eq_ok_iff {config : Config} :
    load files (some dirs) reader = .ok config
      ↔ ∃ user own, Holds reader files dirs.settingsFile user ∧ Holds reader files localFile own
        ∧ Decided dirs user own config := by
  constructor
  · intro h
    have hfine : ∀ f, ¬ load files (some dirs) reader = .error f := fun f hf => by
      rw [h] at hf
      cases hf
    have huser : ¬ ∃ f, Fails reader files dirs.settingsFile f := fun ⟨f, hf⟩ =>
      hfine f (load_of_user_fails hf)
    have hown : ¬ ∃ f, Fails reader files localFile f := fun ⟨f, hf⟩ =>
      hfine f (load_eq_error_iff.mpr (.inr ⟨huser, hf⟩))
    obtain ⟨user, hheld⟩ := (holds_or_fails reader files dirs.settingsFile).mpr huser
    obtain ⟨own, hheld'⟩ := (holds_or_fails reader files localFile).mpr hown
    rw [load_of_holds hheld hheld'] at h
    exact ⟨user, own, hheld, hheld', decided_iff.mpr (Except.ok.inj h).symm⟩
  · rintro ⟨user, own, hheld, hheld', hdecided⟩
    rw [load_of_holds hheld hheld', decided_iff.mp hdecided]

end Loading

/-- The settings file of a user stands directly in the user's directory for settings. -/
theorem parent_settingsFile {lookup : String → Option String} {dirs : UserDirectories}
    (h : Command.userDirectories lookup = some dirs) :
    Files.parent dirs.settingsFile = dirs.config := by
  unfold Command.userDirectories at h
  split at h
  · cases h
  · cases h
  · obtain rfl := Option.some.inj h
    exact Files.parent_join (Files.endsInName_join _ (by decide) (by decide)) (by decide)
      (by decide)

/-- **Two settings files.** Whatever reads the texts of settings files: loading fails exactly if
the user's settings file is there and cannot be read or taken as a layer, or else the local one, and
with the failure of that file. Otherwise - each file is missing, or holds a layer - it gives the
configuration that the two layers decide: the local value of a setting if there is one, else the
user's, else the default; the exempt words of both, one after the other; and the dictionaries of the
last layer that names them, seen from the directory of its file, or the user's own if there are
none. The directory of the user's file is the one that the system names for settings. -/
theorem load_layers (reader : SettingsReader) (files : Files) (dirs : UserDirectories) :
    (∀ failure, load files (some dirs) reader = .error failure
        ↔ Fails reader files dirs.settingsFile failure
          ∨ (¬ ∃ f, Fails reader files dirs.settingsFile f)
            ∧ Fails reader files localFile failure)
      ∧ (∀ config, load files (some dirs) reader = .ok config
        ↔ ∃ user own, Holds reader files dirs.settingsFile user
          ∧ Holds reader files localFile own ∧ Decided dirs user own config)
      ∧ (∀ path, (∃ layer, Holds reader files path layer)
        ↔ ¬ ∃ failure, Fails reader files path failure)
      ∧ ∀ lookup, Command.userDirectories lookup = some dirs →
        Files.parent dirs.settingsFile = dirs.config :=
  ⟨fun _ => load_eq_error_iff, fun _ => load_eq_ok_iff, holds_or_fails reader files,
    fun _ => parent_settingsFile⟩

/-- A local file that names the default length puts it in place of the user's, and leaves the user's
dictionary. The user's file does not count if its directory may not be searched, be it malformed or
not; but a directory in its place is a failure. -/
theorem load_layers_default_length :
    let dirs : UserDirectories := ⟨"/home/u/.config/lintspell", "/home/u/.local/share/lintspell"⟩
    let own := ("/work/.lintspell.toml", FileEntry.text "min_length = 0\nskip_words = ['acme']\n")
    let files := (FileTree.ofPaths [own, ("/home/u/.config/lintspell/config.toml",
      .text "min_length = 4\n[[dicts]]\naff = 'en.aff'\ndic = '/usr/en.dic'\n")]).files ["work"]
    let locked := (FileTree.ofPaths [own, ("/home/u/.config/lintspell", .locked),
      ("/home/u/.config/lintspell/config.toml", .text "min_length =")]).files ["work"]
    let misplaced := (FileTree.ofPaths [own,
      ("/home/u/.config/lintspell/config.toml", .directory)]).files ["work"]
    let lookup := fun name => if name = "HOME" then some "/home/u" else none
    Command.userDirectories lookup = some dirs ∧ Files.parent dirs.settingsFile = dirs.config
      ∧ load files (some dirs) = .ok {
        minLength := 0
        skipWords := ["acme"]
        dictionaries := [⟨some "/home/u/.config/lintspell/en.aff", "/usr/en.dic"⟩] }
      ∧ load locked (some dirs) = .ok {
        skipWords := ["acme"]
        dictionaries := [⟨some "/home/u/.local/share/lintspell/en_US.aff",
          "/home/u/.local/share/lintspell/en_US.dic"⟩] }
      ∧ load misplaced (some dirs)
        = .error (.settingsUnreadable "/home/u/.config/lintspell/config.toml" .isADirectory) := by
  intro dirs own files locked misplaced lookup
  have hdirs : Command.userDirectories lookup = some dirs := by decide +kernel
  have huser : Holds ofToml files dirs.settingsFile
      { minLength := some 4, dictionaries := some [⟨some "en.aff", "/usr/en.dic"⟩] } :=
    .written (by decide +kernel) (show files.read dirs.settingsFile
      = .ok "min_length = 4\n[[dicts]]\naff = 'en.aff'\ndic = '/usr/en.dic'\n" by decide +kernel)
      (by decide +kernel)
  have hown {t : Files} (hentry : t.hasEntry localFile = true)
      (htext : t.read localFile = .ok "min_length = 0\nskip_words = ['acme']\n") :
      Holds ofToml t localFile { minLength := some 0, skipWords := ["acme"] } :=
    .written hentry htext (by decide +kernel)
  obtain ⟨-, hok, -, hparent⟩ := load_layers ofToml files dirs
  obtain ⟨-, hlocked, -, -⟩ := load_layers ofToml locked dirs
  obtain ⟨hmisplaced, -, -, -⟩ := load_layers ofToml misplaced dirs
  refine ⟨hdirs, hparent lookup hdirs, (hok _).mpr ?_, (hlocked _).mpr ?_, (hmisplaced _).mpr ?_⟩
  · exact ⟨_, _, huser, hown (by decide +kernel) (by decide +kernel),
      decided_iff.mpr (by decide +kernel)⟩
  · exact ⟨_, _, .missing (by decide +kernel), hown (by decide +kernel) (by decide +kernel),
      decided_iff.mpr (by decide +kernel)⟩
  · have hpath : dirs.settingsFile = "/home/u/.config/lintspell/config.toml" := by decide +kernel
    rw [← hpath]
    exact .inl (.unreadable (by decide +kernel) (by decide +kernel))

end Config

end ScriptSpelling
