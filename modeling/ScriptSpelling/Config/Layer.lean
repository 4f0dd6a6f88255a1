import ScriptSpelling.Category
import ScriptSpelling.Failure
import ScriptSpelling.Files.Path
import ScriptSpelling.Toml.Read

/-!
# Layers of configuration

A layer is what one settings file says. What it does not mention is left to other layers. Paths of
dictionaries are relative to the directory of the file that names them.
-/

namespace ScriptSpelling

/-- A dictionary on disk: an entry file, with its affix file or as a plain list of words. -/
structure DictionaryPaths where
  affixes : Option String
  entries : String
deriving Repr, DecidableEq

def DictionaryPaths.resolve (base : String) (d : DictionaryPaths) : DictionaryPaths :=
  ⟨d.affixes.map (Files.join base), Files.join base d.entries⟩

/-- What one settings file says. -/
structure ConfigLayer where
  categories : Option (List Category) := none
  minLength : Option Nat := none
  showSuccesses : Option Bool := none
  skipWords : List String := []
  color : Option Bool := none
  dictionaries : Option (List DictionaryPaths) := none
deriving Repr, DecidableEq

/-- What makes a layer of the text of a settings file, or tells why the text is malformed. Paths are
left as they are written. -/
abbrev SettingsReader := String → Except String ConfigLayer

namespace ConfigLayer

open Toml

/-- Each item of a list in another form, if all of them have one. -/
def traverse {α β : Type} (f : α → Option β) : List α → Option (List β)
  | [] => some []
  | a :: as => do
    let b ← f a
    return b :: (← traverse f as)

/-! ## Values of settings -/

def text? : Value → Option String
  | .string s => some s
  | _ => none

def truth? : Value → Option Bool
  | .boolean b => some b
  | _ => none

/-- A length: an integer that is not negative. -/
def length? : Value → Option Nat
  | .integer (.ofNat n) => some n
  | _ => none

/-- A list of what `item?` reads. -/
def list? {α : Type} (item? : Value → Option α) : Value → Option (List α)
  | .array _ items => traverse item? items
  | _ => none

/-- A value that holds nothing. -/
def isVoid : Value → Bool
  | .array _ items => items.isEmpty
  | .table _ entries => entries.isEmpty
  | _ => false

/-- A category: its name, or a table whose only key is its name and holds nothing. -/
def category? : Value → Option Category
  | .string name => Category.ofName? name
  | .table _ [(name, value)] => if isVoid value then Category.ofName? name else none
  | _ => none

/-- The value under a key as `read` takes it, if there is one. It is a fault if `read` cannot. -/
def optionalField {α : Type} (read : Value → Option α) (entries : Entries) (key : String) :
    Option (Option α) :=
  match entries.get? key with
  | none => some none
  | some value => (read value).map some

/-- A dictionary: a table, or the list of its affix file and its entry file. -/
def dictionary? : Value → Option DictionaryPaths
  | .table _ entries => do
    return ⟨← optionalField text? entries "aff", ← (Entries.get? entries "dic").bind text?⟩
  | .array _ (affixes :: entries :: _) => do return ⟨some (← text? affixes), ← text? entries⟩
  | _ => none

/-! ## Files -/

/-- The layer that the entries of a settings file describe. Keys without a meaning are ignored. -/
def ofEntries? (entries : Entries) : Option ConfigLayer := do
  return {
    categories := ← optionalField (list? category?) entries "checkers"
    minLength := ← optionalField length? entries "min_length"
    showSuccesses := ← optionalField truth? entries "show_successes"
    skipWords := (← optionalField (list? text?) entries "skip_words").getD []
    color := ← optionalField truth? entries "color"
    dictionaries := ← optionalField (list? dictionary?) entries "dicts" }

def resolve (base : String) (layer : ConfigLayer) : ConfigLayer :=
  { layer with dictionaries := layer.dictionaries.map (·.map (·.resolve base)) }

/-- Reads TOML. What is wrong with a malformed text is not told in detail. -/
def ofToml : SettingsReader := fun text =>
  match (readDocument text).bind ofEntries? with
  | some layer => .ok layer
  | none => .error "TOML parse error"

/-- Reads the settings file at the path. Its paths are seen from the directory of the file. -/
def read (files : Files) (path : String) (reader : SettingsReader := ofToml) :
    Except Failure ConfigLayer :=
  match files.read path with
  | .error fault => .error (.settingsUnreadable path fault)
  | .ok text =>
    match reader text with
    | .ok layer => .ok (layer.resolve (Files.parent path))
    | .error reason => .error (.settingsMalformed ⟨path, reason⟩)

end ConfigLayer

end ScriptSpelling
