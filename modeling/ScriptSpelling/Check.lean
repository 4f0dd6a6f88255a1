import ScriptSpelling.Dictionary
import ScriptSpelling.Exempt.SkipSet
import ScriptSpelling.Finding
import ScriptSpelling.Literal
import ScriptSpelling.Syntax.Source
import ScriptSpelling.Terminal
import ScriptSpelling.Text.Words

/-!
# Checking a source

A `Checker` takes the nodes of each of its categories from the tree of a source, cuts their text
into words and reports the words that its dictionary does not know. A node with an exempt word is
passed over as a whole, however short or well spelled its words are. A source that cannot be read
gives one finding that tells why.
-/

namespace ScriptSpelling

open Syntax Terminal

/-! ## Nodes of a category -/

def Category.select (category : Category) (tree : SourceTree) : List SourceNode :=
  match category.selector with
  | .kinds names => tree.nodesOfKind names
  | .comments => tree.comments

/-- The text of a node that holds its words: an identifier as it is, the value of a string, or a
line comment after its slashes. Other nodes hold none. -/
def Category.text? (category : Category) (node : SourceNode) : Option String :=
  match category with
  | .identifier => some node.text
  | .string => Literal.value? node.text
  | .comment =>
    match node.text.toList with
    | '/' :: '/' :: rest => some (String.ofList rest)
    | _ => none

/-- The look of a category's label in messages. -/
def Category.style : Category → Style
  | .identifier => .cyan
  | .string => .green
  | .comment => .yellow

/-! ## Checkers -/

/-- What words are checked against, and how they are reported. -/
structure Checker where
  dictionary : Dictionary
  skip : SkipSet
  settings : Settings
  /-- Whether a message may hold codes for a terminal. -/
  codes : Bool

namespace Checker

/-- The checker whose exempt words are the built-in ones and those of the settings. -/
def new (settings : Settings) (dictionary : Dictionary) (codes : Bool) : Checker :=
  { dictionary, settings, codes, skip := SkipSet.builtin.withWords settings.skipWords }

/-- The categories that are checked, each once, in order of first mention. -/
def categories (c : Checker) : List Category := c.settings.categories.eraseDups

/-- Text in a style, where messages are styled. -/
def styled (c : Checker) (style : Style) (text : String) : String :=
  paint (c.settings.color && c.codes) style text

/-- Whether the words of a node are checked: none of them is exempt, nor is the whole name of an
identifier. -/
def admits (c : Checker) (category : Category) (raw : String) (words : List String) : Bool :=
  !(category == .identifier && c.skip.isExemptWhole raw) && !c.skip.intersects words

/-- The message for an unknown word. The word is named unless it is all of the displayed text. -/
def misspelling (c : Checker) (category : Category) (display word : String) : String :=
  let message := "You have a misspelled " ++ c.styled category.style category.label ++ " " ++
    c.styled .bold display
  if display == word then message else message ++ " misspelled: " ++ c.styled .bold word

/-- The finding for a word, if it is to be reported. -/
def finding? (c : Checker) (category : Category) (node : SourceNode) (display word : String) :
    Option Finding :=
  let finding (misspelled : Bool) (message : String) : Finding :=
    { category := some category, word, text := display, line := some node.line, misspelled,
      message }
  if word.length < c.settings.minLength then none
  else if !c.dictionary.knows word then
    some (finding true (c.misspelling category display word))
  else if c.settings.showSuccesses then some (finding false "No misspelled word")
  else none

def checkNode (c : Checker) (category : Category) (node : SourceNode) : List Finding :=
  match category.text? node with
  | none => []
  | some raw =>
    let words := Text.normalize raw
    if c.admits category raw words then
      words.filterMap (c.finding? category node (Text.trim raw))
    else []

def checkTree (c : Checker) (tree : SourceTree) (category : Category) : List Finding :=
  (category.select tree).flatMap (c.checkNode category)

/-- The finding for a source that cannot be read. -/
def failure (c : Checker) (fault : SyntaxFault) : Finding where
  category := none
  word := ""
  text := ""
  line := fault.line
  misspelled := false
  message := c.styled .boldRed "Can't check spelling - parser error: " ++ fault.cause.description

/-- The findings for a source that has been read, or the one for a source that could not be. -/
def check (c : Checker) : Except SyntaxFault SourceTree → List Finding
  | .ok tree => c.categories.flatMap (c.checkTree tree)
  | .error fault => [c.failure fault]

/-- The findings for a source that a grammar reads, one category after the other. -/
def checkSource (c : Checker) (grammar : Grammar) (source : String) : List Finding :=
  c.check (grammar.read source)

end Checker

end ScriptSpelling
