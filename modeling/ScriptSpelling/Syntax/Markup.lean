import ScriptSpelling.Syntax.Members

/-!
# Markup in expressions

Tags with attributes and children. A tag's name is a word, a word with dashes, words with dots or
two words with a colon; opening and closing names need not agree.
-/

namespace ScriptSpelling.Syntax

open Reader

/-- Reads a word, possibly with dashes, as a leaf of the given kind. Answers whether it has a
dash. -/
def markupWord (kind : Kind) : Reader Bool := do
  match dashedLength (← rest) with
  | some n =>
    if wordLength (← rest) ≤ n then
      leaf kind n
      return true
    else
      word kind
      return false
  | none =>
    word kind
    return false

def namespaceRest (m : Nat) : Reader Unit := do
  token ":"
  skip
  let _ ← markupWord .identifier
  close .jsxNamespaceName m

def tagName : Reader Unit := do
  let m ← mark
  let dashed ← markupWord .identifier
  skip
  if ← meets ":" then namespaceRest m
  else if !dashed then
    loop do
      skip
      if ← meets "." then
        token "."
        skip
        word .propertyIdentifier
        close .memberExpression m
        return true
      else return false

/-- Reads an expression in braces, which may be a spread or empty. -/
def bracedExpression (rules : Rules) : Reader Unit := do
  let m ← mark
  token "\x7b"
  skip
  if ← meets "..." then
    let inner ← mark
    token "..."
    rules.expression
    close .spreadElement inner
  else if !(← meets "\x7d") then expressions rules {}
  skipBeforeOperator
  token "\x7d"
  close .jsxExpression m

/-- Reads the string of an attribute. It takes no escapes, and may span lines. -/
def attributeString (quote : Char) : Reader Unit := do
  let m ← mark
  quoteMark quote
  loop do
    if !(← meetsNoHtml) then return ← comment true
    let cs ← rest
    let n := attributeTextLength quote cs
    if 0 < n then
      leaf .stringFragment n
      return true
    match referenceLength cs with
    | some n =>
      leaf .htmlCharacterReference n
      return true
    | none => return false
  quoteMark quote
  close .string m

def tagAttribute (rules : Rules) : Reader Unit := do
  let m ← mark
  if ← meets "\x7b" then bracedExpression rules
  else
    let _ ← markupWord .propertyIdentifier
    skip
    if ← meets ":" then
      rewriteTop fun n => some (n.withKind .identifier)
      namespaceRest m
      skip
    if ← meets "=" then
      token "="
      skip
      match ← peek with
      | some '"' => attributeString '"'
      | some '\'' => attributeString '\''
      | some '{' => bracedExpression rules
      | some '<' => rules .markup
      | _ => fail
    close .jsxAttribute m

def markupChildren (rules : Rules) : Reader Unit :=
  loop do
    match markupTextLength false false (← rest) with
    | some n =>
      leaf .jsxText n
      return true
    | none =>
      skip
      if ← meets "</" then return false
      match ← peek with
      | some '<' => rules .markup
      | some '{' => bracedExpression rules
      | some '&' =>
        match referenceLength (← rest) with
        | some n => leaf .htmlCharacterReference n
        | none => fail
      | _ => fail
      return true

def closingTag : Reader Unit := do
  let m ← mark
  token "</"
  skip
  if !(← meets ">") then
    tagName
    skip
  token ">"
  close .jsxClosingElement m

def markup (rules : Rules) : Reader Unit := do
  skip
  let m ← mark
  token "<"
  skip
  if ← meets ">" then
    token ">"
    close .jsxOpeningElement m
    markupChildren rules
    closingTag
    close .jsxElement m
  else
    tagName
    skip
    loop do
      if (← meets ">") || (← meets "/>") then return false
      tagAttribute rules
      skip
      return true
    if ← meets "/>" then
      token "/>"
      close .jsxSelfClosingElement m
    else
      token ">"
      close .jsxOpeningElement m
      markupChildren rules
      closingTag
      close .jsxElement m

end ScriptSpelling.Syntax
