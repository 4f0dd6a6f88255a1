import ScriptSpelling.Syntax.Quoted

/-!
# Functions, objects and classes

Lists of parameters and arguments, functions, array and object literals, and classes with their
members. A word such as `get` or `static` is a modifier only when the name of a member follows.
-/

namespace ScriptSpelling.Syntax

open Reader

/-! ## Lists -/

/-- Reads an expression that may still become a pattern, or a spread of one. -/
def listItem (rules : Rules) : Reader Unit := do
  let m ← mark
  if ← meets "..." then
    token "..."
    rules.expression { cover := true }
    close .spreadElement m
  else rules.expression { cover := true }

def arrayLiteral (rules : Rules) : Reader Unit := do
  let m ← mark
  token "["
  commaList "]" true (listItem rules)
  token "]"
  close .array m

/-- Reads arguments that may still become parameters. -/
def coverArguments (rules : Rules) : Reader Unit := do
  let m ← mark
  token "("
  commaList ")" true (listItem rules)
  token ")"
  close .arguments m

/-- Fails if something in the latest node can only become a pattern. -/
def settleArguments : Reader Unit := do
  match ← top with
  | some n => require (!anyPatternOnly n.children)
  | none => fail

def arguments (rules : Rules) : Reader Unit := do
  coverArguments rules
  settleArguments

def toParameters (latestFirst : List Node) : Option (List Node) :=
  if hasNoHoles (latestFirst.reverse.filter (!isExtra ·)) then
    (elementsToPattern? latestFirst.reverse).map fun nodes =>
      gather .formalParameters nodes.reverse
  else none

def argumentsToParameters (n : Node) : Option Node :=
  if hasNoHoles (n.children.filter (!isExtra ·)) then
    (elementsToPattern? n.children).map (.mk { n.label with kind := .formalParameters })
  else none

def parameters (rules : Rules) : Reader Unit := do
  skip
  let m ← mark
  token "("
  commaList ")" false (listItem rules)
  token ")"
  rework m toParameters

/-! ## Functions -/

/-- Reads a function from the word `function` on. Answers whether it is a generator and whether
it has a name. -/
def functionRest (rules : Rules) : Reader (Bool × Bool) := do
  keyword "function"
  skip
  let generator ← meets "*"
  if generator then
    token "*"
    skip
  let named := (← peekWord) != ""
  if named then word .identifier
  parameters rules
  rules .block
  return (generator, named)

def functionKind (declaration generator : Bool) : Kind :=
  match declaration, generator with
  | true, true => .generatorFunctionDeclaration
  | true, false => .functionDeclaration
  | false, true => .generatorFunction
  | false, false => .functionExpression

/-! ## Names of members -/

def computedName (rules : Rules) : Reader Unit := do
  let m ← mark
  token "["
  rules.expression
  skipBeforeOperator
  token "]"
  close .computedPropertyName m

def memberName (rules : Rules) : Reader Unit := do
  match ← peek with
  | some '"' => string '"'
  | some '\'' => string '\''
  | some '[' => computedName rules
  | some '#' => privateName
  | some c =>
    if c.isDigit || c == '.' then number else word .propertyIdentifier
  | none => fail
where
  /-- Reads a private name. -/
  privateName : Reader Unit := do
    let n := wordLength ((← rest).drop 1)
    require (0 < n)
    leaf .privatePropertyIdentifier (n + 1)

/-- Whether a name has ended here: what follows cannot start another name. -/
def nameEnds : Reader Bool := do
  match ← peek with
  | some c => return "(:,\x7d=;".toList.contains c
  | none => return true

/-- Reads the word as a modifier, if the name of a member follows. -/
def modifier (text : String) (mayEnd noOperator : Bool) : Reader Bool := do
  if (← peekWord) != text then return false
  let found ← ahead do
    keyword text
    require (!(← skipToSemicolon mayEnd noOperator))
    require (!(← nameEnds))
  if found.isSome then
    keyword text
    if mayEnd then skipBeforeOperator else skip
    return true
  else return false

/-- The length of the words `static` and `get` with a line break directly after them. -/
def staticGetLength (cs : List Char) : Option Nat :=
  if "static".toList.isPrefixOf cs then
    let n := spanLength Text.isBlank (cs.drop 6)
    if 0 < n && "get".toList.isPrefixOf (cs.drop (6 + n)) then
      let after := (cs.drop (9 + n)).takeWhile Text.isBlank
      let kept := (after.reverse.dropWhile (· != '\n')).length
      if 0 < kept then some (9 + n + kept) else none
    else none
  else none

/-- Reads the modifiers of a member. Answers whether it is static, and whether it must be a
method. -/
def modifiers (mayEnd noOperator : Bool) : Reader (Bool × Bool) := do
  match staticGetLength (← rest) with
  | some n =>
    leaf (.token "static get") n
    skip
    let _ ← accessors false
    return (true, true)
  | none =>
    let isStatic ← modifier "static" mayEnd noOperator
    let isMethod ← accessors mayEnd
    return (isStatic, isMethod)
where
  /-- Reads `async`, `get`, `set` and the star of a generator. -/
  accessors (mayEnd : Bool) : Reader Bool := do
    let isAsync ← modifier "async" mayEnd noOperator
    if ← meets "*" then
      token "*"
      skip
      return true
    let mayEnd := mayEnd && !isAsync
    if ← modifier "get" mayEnd noOperator then return true
    if ← modifier "set" mayEnd noOperator then return true
    return isAsync

def methodRest (rules : Rules) (m : Nat) : Reader Unit := do
  parameters rules
  rules .block
  close .methodDefinition m

/-! ## Decorators -/

def decorator (rules : Rules) : Reader Unit := do
  let m ← mark
  token "@"
  skip
  let inner ← mark
  word .identifier
  loop do
    skipBeforeOperator
    if ← meets "." then
      token "."
      skip
      word .propertyIdentifier
      close .memberExpression inner
      return true
    else return false
  if ← meets "(" then
    arguments rules
    close .callExpression inner
  close .decorator m

/-- Reads decorators. Answers whether there was one. -/
def decorators (rules : Rules) : Reader Bool := do
  let found ← meets "@"
  loop do
    if ← meets "@" then
      decorator rules
      skip
      return true
    else return false
  return found

/-! ## Objects -/

/-- Reads the rest of an object's member after the word that may be all of it. -/
def shorthandRest (rules : Rules) (m : Nat) : Reader Unit := do
  if ← meets "=" then
    rewriteTop fun n => some (n.withKind .shorthandPropertyIdentifierPattern)
    token "="
    rules.expression
    close .objectAssignmentPattern m
  else rewriteTop fun n => some (n.withKind .shorthandPropertyIdentifier)

/-- Reads a member of an object. With `blockStart`, it is the first one after a brace that may
open a block as well: words that start statements, and a word that could end one, do not occur. -/
def objectMember (rules : Rules) (blockStart : Bool) : Reader Unit := do
  let m ← mark
  if ← meets "..." then
    listItem rules
    return ()
  let decorated ← decorators rules
  let first ← peekWord
  if blockStart then
    require (!(operandWords.contains first || statementWords.contains first))
  let (isStatic, isMethod) ← modifiers blockStart false
  let isWord := (← peekWord) != ""
  memberName rules
  if blockStart then
    require (!(← skipToSemicolon true false))
    require (!(← meets ","))
  else skipBeforeOperator
  if ← meets "(" then methodRest rules m
  else
    require (!isStatic && !isMethod && !decorated)
    if ← meets ":" then
      token ":"
      skip
      listItem rules
      close .pair m
    else if isWord then shorthandRest rules m
    else fail

/-- Whether what follows an empty pair of braces shows that it is an object. -/
def goesOnAsOperand : Reader Bool := do
  match ← rest with
  | '.' :: c :: _ => return !c.isDigit
  | '<' :: c :: _ => return c == '=' || c == '<'
  | '=' :: '>' :: _ => return false
  | '!' :: c :: _ => return c == '='
  | c :: _ =>
    if "=*%>?&|^,".toList.contains c then return true
    let next ← peekWord
    return next == "in" || next == "instanceof"
  | [] => return false

/-- Whether empty braces are an object, in the given use. -/
def emptyIsObject (brace : BraceUse) (mayEnd : Bool) : Reader Bool := do
  match brace with
  | .object => return true
  | .statement =>
    if ← skipToSemicolon true false then return false
    else goesOnAsOperand
  | .arrowBody =>
    if ← skipToSemicolon mayEnd false then return false
    else return (← meets "=") && !(← meets "==") && !(← meets "=>")

def objectLiteral (rules : Rules) (brace : BraceUse) (mayEnd : Bool) : Reader Unit := do
  let m ← mark
  token "\x7b"
  skip
  if ← meets "\x7d" then
    token "\x7d"
    close .object m
    require (← emptyIsObject brace mayEnd)
  else
    if brace ≠ .object then
      if ← meets "," then pure ()
      else
        objectMember rules true
        skipBeforeOperator
        require ((← meets ",") || (← meets "\x7d"))
      if ← meets "," then
        token ","
    commaList "\x7d" true (objectMember rules false)
    token "\x7d"
    close .object m

/-! ## Classes -/

/-- Reads a block that runs when the class is made. -/
def staticBlock (rules : Rules) (m : Nat) : Reader Unit := do
  keyword "static"
  require (!(← skipToSemicolon true true))
  require (← meets "\x7b")
  rules .block
  close .classStaticBlock m
  let _ ← mayEndHere

def fieldOrMethod (rules : Rules) (m : Nat) : Reader Unit := do
  let _ ← decorators rules
  let (_, isMethod) ← modifiers true true
  memberName rules
  let ended ← skipToSemicolon (!isMethod) true
  if !ended && (← meets "(") then
    methodRest rules m
    if !(← mayEndHere) && (← meets ";") then token ";"
  else
    require (!isMethod)
    if !ended && (← meets "=") then
      token "="
      rules.expression { mayEnd := true }
      close .fieldDefinition m
      semicolon false
    else
      close .fieldDefinition m
      semicolon true

def classBody (rules : Rules) : Reader Unit := do
  skip
  let m ← mark
  token "\x7b"
  skip
  loop do
    if ← meets "\x7d" then return false
    if ← meets ";" then token ";"
    else
      let inner ← mark
      either (staticBlock rules inner) (fieldOrMethod rules inner)
    skip
    return true
  token "\x7d"
  close .classBody m

/-- Reads a class from the word `class` on. Answers whether it has a name. -/
def classRest (rules : Rules) : Reader Bool := do
  keyword "class"
  skip
  let first ← peekWord
  let named := first != "" && first != "extends"
  if named then
    word .identifier
    skip
  if (← peekWord) == "extends" then
    let m ← mark
    keyword "extends"
    rules.expression
    close .classHeritage m
  classBody rules
  return named

end ScriptSpelling.Syntax
