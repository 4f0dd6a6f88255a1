/-!
# Categories of checked text

The three syntactic categories from which words are taken, how they are named, and which nodes of
a syntax tree belong to each.
-/

namespace ScriptSpelling

/-- Where in a source a word was found. -/
inductive Category where
  | identifier
  | string
  | comment
deriving Repr, DecidableEq

namespace Category

/-- Every category, in the order in which they are checked by default. -/
def all : List Category := [identifier, string, comment]

/-- The name used in settings. -/
def name : Category → String
  | identifier => "identifier"
  | string => "string"
  | comment => "comment"

/-- The capitalized name used in messages. -/
def label : Category → String
  | identifier => "Identifier"
  | string => "String"
  | comment => "Comment"

def ofName? (name : String) : Option Category := all.find? (·.name == name)

end Category

/-- How a category finds its nodes in a syntax tree: by their kinds, or as the comments. -/
inductive Selector where
  | kinds (names : List String)
  | comments
deriving Repr, DecidableEq

/-- The nodes whose words belong to the category. -/
def Category.selector : Category → Selector
  | .identifier => .kinds [
      "identifier",
      "property_identifier",
      "shorthand_property_identifier",
      "shorthand_property_identifier_pattern",
      "statement_identifier",
      "private_property_identifier"]
  | .string => .kinds ["string"]
  | .comment => .comments

end ScriptSpelling
