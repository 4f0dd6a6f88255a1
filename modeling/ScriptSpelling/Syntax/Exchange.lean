import ScriptSpelling.Syntax.Expression

/-!
# Declarations, imports and exports

Declarations of variables, functions and classes, and the statements by which a module exchanges
names with others.
-/

namespace ScriptSpelling.Syntax

open Reader

/-! ## Variables -/

/-- Reads the name or the pattern that a declaration binds. -/
def binding (rules : Rules) : Reader Unit := do
  skip
  if ← meets "[" then
    arrayLiteral rules
    rewriteTop (Node.toPattern? .target)
  else if ← meets "\x7b" then
    objectLiteral rules .object false
    rewriteTop (Node.toPattern? .target)
  else word .identifier

/-- Reads an initial value, if there is one. Answers whether there is. -/
def initializer (rules : Rules) (ctx : Context) : Reader Bool := do
  if ← skipToSemicolon ctx.mayEnd true then return false
  if ← meets "=" then
    token "="
    rules.expression ctx
    return true
  else return false

def declarators (rules : Rules) : Reader Unit := do
  loop do
    skip
    let m ← mark
    binding rules
    let initialized ← initializer rules { mayEnd := true }
    close .variableDeclarator m
    if ← skipToSemicolon true (!initialized) then return false
    if ← meets "," then
      token ","
      return true
    else
      token ";"
      return false

/-- Reads a declaration with `var`, `let` or `const`. -/
def variableDeclaration (rules : Rules) (w : String) : Reader Unit := do
  let m ← mark
  keyword w
  declarators rules
  close (if w == "var" then .variableDeclaration else .lexicalDeclaration) m

/-! ## Functions and classes -/

/-- Whether what follows a named function or class shows that it is an operand. -/
def continuesOperand : Reader Bool := do
  if ← skipToSemicolon true false then return false
  else goesOnAsOperand

/-- Reads a function or a class; the mark is before its decorators. Answers whether it is a
declaration: it has a name, and it is no operand, where it can be one. -/
def functionOrClass (rules : Rules) (m : Nat) (canBeOperand : Bool := true) : Reader Bool := do
  if (← peekWord) == "class" then
    let named ← classRest rules
    let declares := named && !(canBeOperand && (← continuesOperand))
    close (if declares then .classDeclaration else .classExpression) m
    endDeclaration declares
  else
    if (← peekWord) == "async" then
      keyword "async"
      skip
    let (generator, named) ← functionRest rules
    let declares := named && !(canBeOperand && (← continuesOperand))
    close (functionKind declares generator) m
    endDeclaration declares
where
  /-- Goes on after the body, of a declaration if the answer is to be `true`. -/
  endDeclaration (declares : Bool) : Reader Bool := do
    if declares then
      let _ ← mayEndHere
    return declares

def meetsAsyncFunction : Reader Bool := do
  let found ← ahead do
    keyword "async"
    require (!(← skipToSemicolon true false))
    keyword "function"
  return found.isSome

def declaration (rules : Rules) : Reader Unit := do
  skip
  let m ← mark
  let _ ← decorators rules
  let w ← peekWord
  if w == "var" || w == "let" || w == "const" then variableDeclaration rules w
  else require (← functionOrClass rules m false)

/-! ## Imports -/

/-- Reads the name of what is exchanged: a word or a string. -/
def exchangedName : Reader Unit := do
  skip
  match ← peek with
  | some '"' | some '\'' => anyString
  | _ => word .identifier

/-- Reads `as` and another name, if they come next. Answers whether they do. -/
def otherName (name : Reader Unit) : Reader Bool := do
  skip
  if (← peekWord) == "as" then
    keyword "as"
    name
    return true
  else return false

def fromClause : Reader Unit := do
  skip
  keyword "from"
  skip
  anyString

/-- Reads specifiers in braces. There may be none, and still a comma. -/
def specifiers (kind itemKind : Kind) (item : Reader Unit) : Reader Unit := do
  let m ← mark
  token "\x7b"
  skip
  if ← meets "," then
    token ","
    skip
    require (← meets "\x7d")
  commaList "\x7d" false do
    let inner ← mark
    item
    close itemKind inner
  token "\x7d"
  close kind m

/-- Reads one imported name. A string needs another name. -/
def importSpecifier : Reader Unit := do
  exchangedName
  let isString := (← topKind) == .string
  let aliased ← otherName (do skip; word .identifier)
  require (aliased || !isString)

def wholeModule (kind : Kind) (name : Reader Unit) : Reader Unit := do
  let m ← mark
  token "*"
  require (← otherName name)
  close kind m

/-- Reads names in braces, or a name for the whole module. -/
def namedImports : Reader Unit := do
  if ← meets "*" then wholeModule .namespaceImport (do skip; word .identifier)
  else specifiers .namedImports .importSpecifier importSpecifier

def importClause : Reader Unit := do
  let m ← mark
  if (← meets "*") || (← meets "\x7b") then namedImports
  else
    word .identifier
    skip
    if ← meets "," then
      token ","
      skip
      namedImports
  close .importClause m

def importAttributes (rules : Rules) : Reader Bool := do
  if ← skipToSemicolon true true then return false
  if (← peekWord) == "with" then
    let m ← mark
    keyword "with"
    skip
    objectLiteral rules .object false
    settle
    close .importAttribute m
    return true
  else return false
where
  /-- Fails if the object can only become a pattern. -/
  settle : Reader Unit := do
    match ← top with
    | some n => require (!n.patternOnly)
    | none => fail

def importStatement (rules : Rules) : Reader Unit := do
  let m ← mark
  keyword "import"
  skip
  match ← peek with
  | some '"' | some '\'' => anyString
  | _ =>
    importClause
    fromClause
  let _ ← importAttributes rules
  semicolon true
  close .importStatement m

/-! ## Exports -/

/-- Reads one exported name. -/
def exportSpecifier : Reader Unit := do
  exchangedName
  let _ ← otherName exchangedName

/-- Reads what follows `export default`. -/
def exportedValue (rules : Rules) : Reader Unit := do
  skip
  let ctx : Context := { mayEnd := true }
  let m ← mark
  let value : Reader Unit := do
    rules.expression ctx
    semicolon false
  let decorated ← decorators rules
  let w ← peekWord
  require (!decorated || w == "class")
  if w == "function" || w == "class" || (← meetsAsyncFunction) then
    if !(← functionOrClass rules m) then
      expressionRest rules ctx m
      semicolon false
  else if w == "var" || w == "const" then variableDeclaration rules w
  else if w == "let" then either (variableDeclaration rules w) value
  else value

/-- Reads an export statement; the mark is before its decorators. Names in a list take none. -/
def exportStatement (rules : Rules) (m : Nat) (decorated : Bool := false) : Reader Unit := do
  keyword "export"
  skip
  require (!(decorated && ((← meets "*") || (← meets "\x7b"))))
  match ← peek with
  | some '*' =>
    let inner ← mark
    token "*"
    if ← otherName exchangedName then close .namespaceExport inner
    fromClause
    semicolon true
  | some '{' =>
    specifiers .exportClause .exportSpecifier exportSpecifier
    if !(← skipToSemicolon true true) && (← peekWord) == "from" then fromClause
    semicolon true
  | _ =>
    if (← peekWord) == "default" then
      keyword "default"
      exportedValue rules
    else declaration rules
  close .exportStatement m

end ScriptSpelling.Syntax
