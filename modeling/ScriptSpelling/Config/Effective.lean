import ScriptSpelling.Check
import ScriptSpelling.Config.Layer
import ScriptSpelling.Syntax.Repair

/-!
# Effective configuration

The defaults, changed by the layer of the user and then by that of the working directory. The last
layer that mentions a setting decides it; exempt words add up.
-/

namespace ScriptSpelling

/-- The configuration after all layers. -/
structure Config where
  categories : List Category := Category.all
  minLength : Nat := 0
  showSuccesses : Bool := false
  skipWords : List String := []
  color : Bool := true
  dictionaries : List DictionaryPaths := []
deriving Repr, DecidableEq

/-- The directories of a user in which the program looks for its files. -/
structure UserDirectories where
  config : String
  data : String
deriving Repr, DecidableEq

def UserDirectories.settingsFile (dirs : UserDirectories) : String :=
  Files.join dirs.config "config.toml"

/-- The dictionary that is used when no other is named. -/
def UserDirectories.dictionary (dirs : UserDirectories) : DictionaryPaths :=
  ⟨some (Files.join dirs.data "en_US.aff"), Files.join dirs.data "en_US.dic"⟩

namespace Config

/-- The settings file of the working directory. -/
def localFile : String := ".lintspell.toml"

/-- The configuration with one more layer. -/
def merge (config : Config) (layer : ConfigLayer) : Config where
  categories := layer.categories.getD config.categories
  minLength := layer.minLength.getD config.minLength
  showSuccesses := layer.showSuccesses.getD config.showSuccesses
  skipWords := config.skipWords ++ layer.skipWords
  color := layer.color.getD config.color
  dictionaries := layer.dictionaries.getD config.dictionaries

/-- The configuration with the layer of a settings file, if there is one at the path. -/
def mergeFile (reader : SettingsReader) (files : Files) (config : Config) (path : String) :
    Except Failure Config :=
  if files.hasEntry path then (ConfigLayer.read files path reader).map config.merge else .ok config

/-- The configuration with the user's own dictionary, if none is named. -/
def withDefaultDictionary (config : Config) (dirs : Option UserDirectories) : Config :=
  if config.dictionaries.isEmpty then
    { config with dictionaries := (dirs.map UserDirectories.dictionary).toList }
  else config

/-- Reads the configuration: defaults, the user's settings file, the local one. -/
def load (files : Files) (dirs : Option UserDirectories)
    (reader : SettingsReader := ConfigLayer.ofToml) : Except Failure Config := do
  let config ←
    match dirs with
    | some dirs => mergeFile reader files {} dirs.settingsFile
    | none => .ok {}
  let config ← mergeFile reader files config localFile
  return config.withDefaultDictionary dirs

def settings (config : Config) : Settings where
  categories := config.categories
  minLength := config.minLength
  showSuccesses := config.showSuccesses
  skipWords := config.skipWords
  color := config.color

end Config

/-! ## Dictionaries and checkers -/

def readDictionaryFile (files : Files) (path : String) : Except Failure String :=
  (files.read path).mapError (.dictionaryUnreadable path)

/-- Reads the files of a dictionary, the entry file first. -/
def DictionaryPaths.read (files : Files) (paths : DictionaryPaths) :
    Except Failure DictionarySource := do
  let entries ← readDictionaryFile files paths.entries
  match paths.affixes with
  | some path => return .lexicon (← readDictionaryFile files path) entries
  | none => return .wordList entries

def DictionaryPaths.readAll (files : Files) : List DictionaryPaths →
    Except Failure (List DictionarySource)
  | [] => .ok []
  | paths :: more => do
    let source ← paths.read files
    return source :: (← readAll files more)

/-- The dictionary made of everything that the configuration names. -/
def Config.dictionary (config : Config) (files : Files) : Except Failure Dictionary := do
  let sources ← DictionaryPaths.readAll files config.dictionaries
  (Dictionary.load sources).mapError .dictionary

def Checker.ofConfig (config : Config) (files : Files) (codes : Bool) : Except Failure Checker :=
  (config.dictionary files).map fun dictionary => .new config.settings dictionary codes

def Checker.checkFile (c : Checker) (files : Files) (path : String)
    (grammar : Syntax.Grammar := Syntax.scriptTree) : Except Failure (List Finding) :=
  match files.read path with
  | .ok source => .ok (c.checkSource grammar source)
  | .error fault => .error (.sourceUnreadable path fault)

end ScriptSpelling
