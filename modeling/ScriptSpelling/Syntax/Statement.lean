import ScriptSpelling.Syntax.Exchange

/-!
# Statements

A statement is told by its first word or mark. Words that start a construct do so only where that
construct can stand: `else` or `default` on its own is a name. A brace opens an object where what
follows can be one, and otherwise a block.
-/

namespace ScriptSpelling.Syntax

open Reader

/-! ## Blocks and plain expressions -/

/-- Reads statements up to the closing brace of a block that starts at the mark. -/
def blockRest (rules : Rules) (m : Nat) : Reader Unit := do
  skip
  loop do
    if ← meets "\x7d" then return false
    rules .statement
    skip
    return true
  token "\x7d"
  close .statementBlock m

def block (rules : Rules) : Reader Unit := do
  skip
  let m ← mark
  token "\x7b"
  blockRest rules m

def expressionStatement (rules : Rules) (brace : BraceUse := .object) : Reader Unit := do
  let m ← mark
  expressions rules { mayEnd := true, brace }
  semicolon false
  close .expressionStatement m

/-- Goes on with an expression statement of which a first operand was read. -/
def operandStatement (rules : Rules) (m : Nat) : Reader Unit := do
  let ctx : Context := { mayEnd := true }
  expressionRest rules ctx m
  loop do
    if ← skipToSemicolon true false then return false
    if ← meets "," then
      token ","
      rules.expression ctx
      return true
    else return false
  if ((← get).done.take ((← get).count - m)).any (·.kind == .token ",") then
    close .sequenceExpression m
  semicolon false
  close .expressionStatement m

/-! ## Braces -/

/-- Whether a brace comes next and, directly after it, a name with a parenthesis: a method of an
object or a call in a block. -/
def meetsBracedCall : Reader Bool := do
  let found ← ahead do
    token "\x7b"
    skip
    let w ← peekWord
    require (!(contextualWords ++ operandWords ++ statementWords).contains w)
    word .identifier
    require (!(← skipToSemicolon true false))
    token "("
  return found.isSome

/-- Reads a block that starts with a call, unless it can be read as an object. What is in the
parentheses is read only once. -/
def bracedCall (rules : Rules) (asObject : Reader Unit) : Reader Unit := do
  let start ← get
  let m ← mark
  token "\x7b"
  skip
  let inner ← mark
  word .identifier
  skip
  coverArguments rules
  let afterArguments ← get
  let asBlock : Reader Unit := do
    set afterArguments
    settleArguments
    close .callExpression inner
    operandStatement rules inner
    blockRest rules m
  skip
  if ← meets "\x7b" then
    set start
    either asObject asBlock
  else asBlock

/-- Whether an empty pair of braces comes next and, after it, an operator that is a word. -/
def meetsEmptyOperand : Reader Bool := do
  let found ← ahead do
    token "\x7b"
    skip
    token "\x7d"
    require (!(← skipToSemicolon true false))
    let w ← peekWord
    require (w == "in" || w == "instanceof")
  return found.isSome

/-- Reads what starts with a brace: an object if it can be one, and otherwise a block. -/
def objectOrBlock (rules : Rules) (asObject : Reader Unit) : Reader Unit := do
  if ← meetsBracedCall then bracedCall rules asObject
  else if ← meetsEmptyOperand then asObject
  else either asObject (rules .block)

/-- Reads the body of an arrow function that starts with a brace. -/
def arrowBody (rules : Rules) (ctx : Context) : Reader Unit :=
  objectOrBlock rules (rules.expression { ctx with brace := .arrowBody })

/-- Reads a statement that starts with a function or a class; the mark is before its decorators. -/
def functionStatement (rules : Rules) (m : Nat) : Reader Unit := do
  if !(← functionOrClass rules m) then operandStatement rules m

/-! ## Branches and loops -/

def ifStatement (rules : Rules) (m : Nat) : Reader Unit := do
  keyword "if"
  parenthesized rules
  rules .statement
  skip
  if (← peekWord) == "else" then
    let inner ← mark
    keyword "else"
    rules .statement
    close .elseClause inner
  close .ifStatement m

def caseBody (rules : Rules) : Reader Unit := do
  skipBeforeOperator
  token ":"
  skip
  loop do
    if ← meets "\x7d" then return false
    let w ← peekWord
    if w == "case" || w == "default" then return false
    rules .statement
    skip
    return true

def switchStatement (rules : Rules) (m : Nat) : Reader Unit := do
  keyword "switch"
  parenthesized rules
  skip
  let body ← mark
  token "\x7b"
  skip
  loop do
    if ← meets "\x7d" then return false
    let inner ← mark
    if (← peekWord) == "default" then
      keyword "default"
      caseBody rules
      close .switchDefault inner
    else
      keyword "case"
      expressions rules {}
      caseBody rules
      close .switchCase inner
    return true
  token "\x7d"
  close .switchBody body
  close .switchStatement m

/-- Whether the word `let` can start a declaration in the head of a loop: it is no operand. -/
def meetsLoopLet : Reader Bool := do
  let found ← ahead do
    keyword "let"
    skipBeforeOperator
    let w ← peekWord
    require (!(["of", "in", "instanceof"].contains w))
  return found.isSome

/-- Reads the target of a loop over what is in or of a value. -/
def loopTarget (rules : Rules) : Reader Unit := do
  let w ← peekWord
  let declares : Reader Unit := do
    keyword w
    binding rules
    if w == "var" then
      let _ ← initializer rules { noIn := true }
    else
      let _ ← skipToSemicolon true true
  let assigns : Reader Unit := do
    leftHand rules { cover := true, head := true }
    let kind ← topKind
    require (isAssignable kind)
    if kind == .array || kind == .object then rewriteTop (Node.toPattern? .target)
  if w == "var" || w == "const" then declares
  else if w == "let" then
    if ← meetsLoopLet then either declares assigns else assigns
  else assigns

/-- Reads the head and the body of a loop over what is in or of a value. -/
def forInRest (rules : Rules) (m : Nat) : Reader Unit := do
  token "("
  skip
  loopTarget rules
  skip
  let w ← peekWord
  require (w == "in" || w == "of")
  keyword w
  expressions rules {}
  skipBeforeOperator
  token ")"
  rules .statement
  close .forInStatement m

/-- Reads a part of the head of a loop up to its semicolon; an empty part is a statement. -/
def loopPart (rules : Rules) : Reader Unit := do
  skip
  if ← meets ";" then leaf .emptyStatement 1
  else
    expressions rules {}
    skipBeforeOperator
    token ";"

/-- Reads the head and the body of a loop with a condition and a step. -/
def forRest (rules : Rules) (m : Nat) : Reader Unit := do
  token "("
  skip
  let w ← peekWord
  if w == "var" || w == "const" then variableDeclaration rules w
  else if w == "let" && (← meetsLoopLet) then either (variableDeclaration rules w) (loopPart rules)
  else loopPart rules
  loopPart rules
  skip
  if !(← meets ")") then expressions rules {}
  skipBeforeOperator
  token ")"
  rules .statement
  close .forStatement m

def forStatement (rules : Rules) (m : Nat) : Reader Unit := do
  keyword "for"
  skip
  if (← peekWord) == "await" then
    keyword "await"
    skip
    forInRest rules m
  else either (forInRest rules m) (forRest rules m)

/-- Reads a statement with `while` or `with`. -/
def guardedStatement (rules : Rules) (w : String) (kind : Kind) (m : Nat) : Reader Unit := do
  keyword w
  parenthesized rules
  rules .statement
  close kind m

def doStatement (rules : Rules) (m : Nat) : Reader Unit := do
  keyword "do"
  rules .statement
  skip
  keyword "while"
  parenthesized rules
  if !(← mayEndHere) && (← meets ";") then token ";"
  close .doStatement m

def tryStatement (rules : Rules) (m : Nat) : Reader Unit := do
  let part : Reader Unit := do
    rules .block
    let _ ← mayEndHere
  keyword "try"
  part
  skip
  if (← peekWord) == "catch" then
    let inner ← mark
    keyword "catch"
    skip
    if ← meets "(" then
      token "("
      binding rules
      skipBeforeOperator
      token ")"
    part
    close .catchClause inner
    skip
  if (← peekWord) == "finally" then
    let inner ← mark
    keyword "finally"
    part
    close .finallyClause inner
  close .tryStatement m

/-! ## Jumps -/

/-- Reads a statement that leaves a loop or a labeled statement. -/
def jumpStatement (w : String) (kind : Kind) (m : Nat) : Reader Unit := do
  keyword w
  if !(← skipToSemicolon true true) && (← peekWord) != "" then word .statementIdentifier
  semicolon true
  close kind m

def returnStatement (rules : Rules) (m : Nat) : Reader Unit := do
  keyword "return"
  let bare := (← mayEndHere) || (← meets ";")
  if bare then semicolon true
  else
    expressions rules { mayEnd := true }
    semicolon false
  close .returnStatement m

def throwStatement (rules : Rules) (m : Nat) : Reader Unit := do
  keyword "throw"
  expressions rules { mayEnd := true }
  semicolon false
  close .throwStatement m

/-! ## Statements by their first word -/

def meetsLabel : Reader Bool := do
  let found ← ahead do
    word .identifier
    require (!(← skipToSemicolon true false))
    token ":"
  return found.isSome

/-- Whether the word `let` starts a declaration here. -/
def meetsLet : Reader Bool := do
  let found ← ahead do
    keyword "let"
    require (!(← skipToSemicolon true false))
    let w ← peekWord
    require ((← meets "[") || (← meets "\x7b") ||
      (w != "" && w != "in" && w != "instanceof"))
  return found.isSome

def meetsExport : Reader Bool := do
  let found ← ahead do
    keyword "export"
    require (!(← skipToSemicolon true false))
    let w ← peekWord
    let star := (← meets "*") && !(← meets "**") && !(← meets "*=")
    require (star || (← meets "\x7b") || (← meets "@") ||
      ["default", "var", "let", "const", "function", "class", "async"].contains w)
  return found.isSome

/-- Whether the word `import` starts an import here, and not an expression. -/
def meetsImport : Reader Bool := do
  let found ← ahead do
    keyword "import"
    skip
    require (!((← meets "(") || (← meets ".") || (← meets "?.")))
  return found.isSome

def wordStatement (rules : Rules) (m : Nat) (w : String) : Reader Unit := do
  let labelOrExpression : Reader Unit := do
    if ← meetsLabel then
      word .statementIdentifier
      skipBeforeOperator
      token ":"
      rules .statement
      close .labeledStatement m
    else expressionStatement rules
  match w with
  | "var" | "const" => variableDeclaration rules w
  | "let" => if ← meetsLet then variableDeclaration rules w else labelOrExpression
  | "function" | "class" => functionStatement rules m
  | "async" => if ← meetsAsyncFunction then functionStatement rules m else labelOrExpression
  | "export" => if ← meetsExport then exportStatement rules m else labelOrExpression
  | "import" => if ← meetsImport then importStatement rules else expressionStatement rules
  | "if" => ifStatement rules m
  | "switch" => switchStatement rules m
  | "for" => forStatement rules m
  | "while" => guardedStatement rules w .whileStatement m
  | "with" => guardedStatement rules w .withStatement m
  | "do" => doStatement rules m
  | "try" => tryStatement rules m
  | "break" => jumpStatement w .breakStatement m
  | "continue" => jumpStatement w .continueStatement m
  | "debugger" =>
    keyword w
    semicolon true
    close .debuggerStatement m
  | "return" => returnStatement rules m
  | "throw" => throwStatement rules m
  | _ => if operandWords.contains w then expressionStatement rules else labelOrExpression

def decoratedStatement (rules : Rules) (m : Nat) : Reader Unit := do
  let _ ← decorators rules
  if (← peekWord) == "export" then exportStatement rules m true
  else
    require ((← peekWord) == "class")
    functionStatement rules m

def statement (rules : Rules) : Reader Unit := do
  skip
  let m ← mark
  match ← peek with
  | none => fail
  | some '{' =>
    objectOrBlock rules (expressionStatement rules .statement)
    if (← topKind) == .statementBlock then
      let _ ← mayEndHere
  | some ';' => leaf .emptyStatement 1
  | some '@' => decoratedStatement rules m
  | _ =>
    let w ← peekWord
    if w == "" then expressionStatement rules else wordStatement rules m w

end ScriptSpelling.Syntax
