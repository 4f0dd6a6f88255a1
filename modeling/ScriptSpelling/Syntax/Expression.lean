import ScriptSpelling.Syntax.Markup

/-!
# Expressions

Operands, what may follow them, and operators by the tightness of their binding. Assignments and
arrow functions may stand wherever an operand may: `a + b = c` is `a + (b = c)`.
-/

namespace ScriptSpelling.Syntax

open Reader

/-! ## Operators -/

/-- How tightly a binary operator binds, and whether it groups to the right. Larger is tighter. -/
def binaryLevel? : String → Option (Nat × Bool)
  | "??" => some (1, false)
  | "||" => some (2, false)
  | "&&" => some (3, false)
  | "|" => some (4, false)
  | "^" => some (5, false)
  | "&" => some (6, false)
  | "==" | "===" | "!=" | "!==" => some (7, false)
  | "<" | "<=" | ">" | ">=" | "in" | "instanceof" => some (8, false)
  | "<<" | ">>" | ">>>" => some (9, false)
  | "+" | "-" => some (10, false)
  | "*" | "/" | "%" => some (11, false)
  | "**" => some (12, true)
  | _ => none

def conditionalLevel : Nat := 1

def relationOperandLevel : Nat := 9

def unaryLevel : Nat := 13

/-- The operators that are written with marks, longer ones first. -/
def operatorMarks : List String := [
  ">>>=", "===", "!==", "**=", "<<=", ">>=", ">>>", "&&=", "||=", "??=", "=>", "==", "!=", "<=",
  ">=", "&&", "||", "??", "?.", "++", "--", "+=", "-=", "*=", "/=", "%=", "&=", "|=", "^=", "<<",
  ">>", "**", "=", "<", ">", "+", "-", "*", "/", "%", "&", "|", "^"]

def assigningOperators : List String := [
  "+=", "-=", "*=", "/=", "%=", "^=", "&=", "|=", ">>=", ">>>=", "<<=", "**=", "&&=", "||=",
  "??="]

/-- The operator that comes next; empty if there is none. -/
def peekOperator : Reader String := do
  let cs ← rest
  match operatorMarks.find? (·.toList.isPrefixOf cs) with
  | some op => return op
  | none =>
    let w ← peekWord
    return if w == "in" || w == "instanceof" then w else ""

/-! ## Kinds of operands -/

/-- Whether a template or an optional call may follow directly. -/
def isPrimary : Kind → Bool
  | .newExpression | .updateExpression | .jsxElement | .jsxSelfClosingElement
  | .yieldExpression => false
  | _ => true

/-- Whether `=` may follow. -/
def isAssignable : Kind → Bool
  | .memberExpression | .subscriptExpression | .identifier | .undefinedLiteral
  | .parenthesizedExpression | .array | .object => true
  | _ => false

/-- Whether an operator such as `+=` may follow. -/
def isUpdatable : Kind → Bool
  | .memberExpression | .subscriptExpression | .identifier | .parenthesizedExpression => true
  | _ => false

/-! ## What follows an operand -/

def propertyName : Reader Unit := do
  skip
  if ← meets "#" then memberName.privateName
  else word .propertyIdentifier

def index (rules : Rules) (m : Nat) : Reader Unit := do
  token "["
  expressions rules {}
  skipBeforeOperator
  token "]"
  close .subscriptExpression m

/-- Reads what follows `?.`. -/
def optionalRest (rules : Rules) (m : Nat) (kind : Kind) : Reader Unit := do
  leaf .optionalChain 2
  skip
  if ← meets "(" then
    require (isPrimary kind)
    arguments rules
    close .callExpression m
  else if ← meets "[" then index rules m
  else
    propertyName
    close .memberExpression m

/-- Reads one thing that may follow an operand: a property, an index, a template and, unless the
operand is that of `new`, arguments or `++` and `--`. Answers whether there was one. -/
def suffix (rules : Rules) (ctx : Context) (m : Nat) (constructs : Bool) : Reader Bool := do
  let kind ← topKind
  if ← skipToSemicolon ctx.mayEnd false then return false
  let cs ← rest
  match cs with
  | '(' :: _ =>
    if constructs && (isPrimary kind || kind == .newExpression) then return false
    arguments rules
    close .callExpression m
    return true
  | '[' :: _ =>
    index rules m
    return true
  | '.' :: _ =>
    if meetsConditionalMark ctx.mayEnd (← get).gap then return false
    token "."
    propertyName
    close .memberExpression m
    return true
  | '?' :: '.' :: _ =>
    if isConditionalMark cs then return false
    optionalRest rules m kind
    return true
  | '\x60' :: _ =>
    require (isPrimary kind || kind == .newExpression)
    template rules
    close .callExpression m
    return true
  | '+' :: '+' :: _ | '-' :: '-' :: _ =>
    if constructs then return false
    token (String.ofList (cs.take 2))
    close .updateExpression m
    return true
  | _ => return false

/-- Reads everything that follows an operand and belongs to it. Nothing does if the operand can
only become a pattern. -/
def suffixes (rules : Rules) (ctx : Context) (m : Nat) (constructs : Bool := false) :
    Reader Unit := do
  if !((← top).any Node.patternOnly) then loop (suffix rules ctx m constructs)

/-! ## Arrow functions -/

/-- Reads the arrow and the body of a function whose parameters start at the mark. -/
def arrowRest (rules : Rules) (ctx : Context) (m : Nat) : Reader Unit := do
  token "=>"
  skip
  if ← meets "\x7b" then rules (.arrowBody ctx.inner)
  else rules.expression ctx.inner
  close .arrowFunction m

def meetsArrow (ctx : Context) : Reader Bool := do
  if ← skipToSemicolon ctx.mayEnd false then return false
  else meets "=>"

/-- Makes an expression in parentheses of a list, latest first. -/
def toParenthesized (latestFirst : List Node) : Option (List Node) :=
  match latestFirst.reverse with
  | opening :: more =>
    match more.reverse with
    | closing :: inner =>
      let isComma (n : Node) : Bool := n.kind == .token ","
      let inner := if inner.any isComma then gather .sequenceExpression inner else inner
      some (gather .parenthesizedExpression (closing :: inner ++ [opening]))
    | [] => none
  | [] => none

/-- Reads a parenthesis: an expression, or the parameters of an arrow function with it. -/
def parenthesis (rules : Rules) (ctx : Context) : Reader Unit := do
  let m ← mark
  token "("
  commaList ")" false (listItem rules)
  token ")"
  if ← meetsArrow ctx then
    rework m toParameters
    arrowRest rules ctx m
  else
    rework m fun latestFirst =>
      let significant := latestFirst.filter (!isExtra ·)
      let second := (significant.drop 1).head?.map Node.kind
      if second == some (.token "(") || second == some (.token ",") then none
      else if significant.any (·.kind == .spreadElement) || anyPatternOnly significant then none
      else toParenthesized latestFirst

/-! ## Operands -/

/-- Reads what starts with the word `async`. -/
def asyncOperand (rules : Rules) (ctx : Context) : Reader Unit := do
  let m ← mark
  word .identifier
  let asToken : Reader Unit := rewriteTop fun n => some (n.withKind (.token "async"))
  if ← skipToSemicolon ctx.mayEnd false then return ()
  let next ← peekWord
  if next == "function" then
    asToken
    let (generator, _) ← functionRest rules
    close (functionKind false generator) m
  else if next == "in" || next == "instanceof" || (ctx.head && next == "of") then return ()
  else if next != "" then
    asToken
    word .identifier
    skipBeforeOperator
    arrowRest rules ctx m
  else if ← meets "(" then
    coverArguments rules
    if ← meetsArrow ctx then
      rewriteTop argumentsToParameters
      rework m fun
        | parameters :: more =>
          some (parameters :: more.map fun n =>
            if isExtra n then n else n.withKind (.token "async"))
        | [] => none
      arrowRest rules ctx m
    else
      settleArguments
      close .callExpression m
  else if ← meets "=>" then arrowRest rules ctx m

/-- Reads `new` with its operand and arguments, or `new.target`. -/
def instantiation (rules : Rules) (primary : Reader Unit) (ctx : Context) : Reader Unit := do
  let m ← mark
  keyword "new"
  skip
  if (← meets ".") && (numberLength (← rest)).isNone then
    token "."
    skip
    keyword "target"
    close .metaProperty m
  else
    let inner ← mark
    if (← peekWord) == "new" then rules (.instantiation ctx)
    else primary
    suffixes rules ctx inner true
    let callee ← topKind
    require (isPrimary callee || callee == .newExpression)
    if ← skipToSemicolon ctx.mayEnd false then return ← close .newExpression m
    if ← meets "(" then arguments rules
    close .newExpression m

/-- Reads what starts with the word `import`, inside an expression. -/
def importOperand (rules : Rules) : Reader Unit := do
  let m ← mark
  keyword "import"
  skip
  let asCallee := rewriteTop fun n => some (n.withKind .importCallee)
  if ← meets "." then
    token "."
    skip
    keyword "meta"
    close .metaProperty m
  else if ← meets "?." then
    asCallee
    leaf .optionalChain 2
    propertyName
    close .memberExpression m
  else
    asCallee
    arguments rules
    close .callExpression m

/-- The kind of a word that is a literal or a keyword of its own. -/
def literalKind? : String → Option Kind
  | "this" => some .thisKeyword
  | "super" => some .superKeyword
  | "true" => some .trueLiteral
  | "false" => some .falseLiteral
  | "null" => some .nullLiteral
  | "undefined" => some .undefinedLiteral
  | _ => none

def wordOperand (rules : Rules) (ctx : Context) (w : String) : Reader Unit := do
  let m ← mark
  match literalKind? w with
  | some kind => word kind
  | none =>
    match w with
    | "function" =>
      let (generator, _) ← functionRest rules
      close (functionKind false generator) m
    | "class" =>
      let _ ← classRest rules
      close .classExpression m
    | "async" => asyncOperand rules ctx
    | "import" => importOperand rules
    | "new" => rules (.instantiation ctx)
    | "typeof" | "void" | "delete" | "await" | "yield" => fail
    | _ =>
      word .identifier
      if ← meetsArrow ctx then arrowRest rules ctx m

def primary (rules : Rules) (ctx : Context) : Reader Unit := do
  skip
  let m ← mark
  match ← peek with
  | none => fail
  | some '(' => parenthesis rules ctx
  | some '[' => arrayLiteral rules
  | some '{' => objectLiteral rules ctx.brace ctx.mayEnd
  | some '"' => string '"'
  | some '\'' => string '\''
  | some '\x60' => template rules
  | some '/' => regex ctx.mayEnd
  | some '<' => rules .markup
  | some '@' =>
    let _ ← decorators rules
    let _ ← classRest rules
    close .classExpression m
  | some c =>
    if c.isDigit || c == '.' then number
    else
      let w ← peekWord
      require (w != "")
      wordOperand rules ctx w

/-- Reads an operand with what follows it, short of an assignment. -/
def leftHand (rules : Rules) (ctx : Context) : Reader Unit := do
  skip
  let m ← mark
  primary rules ctx
  suffixes rules ctx m

/-- Reads the operator and the value of an assignment to the operand, if there is one. -/
def assignmentRest (rules : Rules) (ctx : Context) (m : Nat) : Reader Unit := do
  let kind ← topKind
  if ← skipToSemicolon ctx.mayEnd false then return ()
  let op ← peekOperator
  if op == "=" && isAssignable kind then
    if kind == .array || kind == .object then rewriteTop (Node.toPattern? .target)
    token "="
    rules.expression ctx.inner
    close .assignmentExpression m
  else if assigningOperators.contains op && isUpdatable kind then
    token op
    rules.expression ctx.inner
    close .augmentedAssignmentExpression m

/-- Whether an operand comes next, directly after `yield`. -/
def meetsOperand : Reader Bool := do
  match ← rest with
  | [] => return false
  | c :: more =>
    if "([\x7b\"'\x60/@#~".toList.contains c then return true
    else if c.isDigit then return true
    else
      match c with
      | '.' => return (more.head?.map Char.isDigit).getD false
      | '!' => return more.head? != some '='
      | '<' => return more.head? != some '=' && more.head? != some '<'
      | '+' | '-' => return true
      | _ =>
        let w ← peekWord
        return w != "" && w != "in" && w != "instanceof"

/-- Reads `yield` with what it takes. -/
def yieldOperand (rules : Rules) (ctx : Context) : Reader Unit := do
  let m ← mark
  keyword "yield"
  if ← skipToSemicolon ctx.mayEnd false then return ← close .yieldExpression m
  require (← meetsNoHtml)
  if (← meets "*") && !(← meets "**") then
    token "*"
    rules.expression ctx.inner
    close .yieldExpression m
  else if ← meetsOperand then
    rules.expression ctx.inner
    close .yieldExpression m
  else
    close .yieldExpression m
    suffixes rules ctx m
    assignmentRest rules ctx m

/-- Reads an operand with its unary operators, or an assignment. -/
def operand (rules : Rules) (ctx : Context) : Reader Unit := do
  skip
  let m ← mark
  let unary (kind : Kind) (op : String) : Reader Unit := do
    token op
    rules (.expression ctx.inner unaryLevel)
    close kind m
  match ← rest with
  | '+' :: '+' :: _ => unary .updateExpression "++"
  | '-' :: '-' :: _ => unary .updateExpression "--"
  | '+' :: _ => unary .unaryExpression "+"
  | '-' :: _ => unary .unaryExpression "-"
  | '!' :: _ => unary .unaryExpression "!"
  | '~' :: _ => unary .unaryExpression "~"
  | '#' :: _ =>
    memberName.privateName
    skipBeforeOperator
    keyword "in"
    rules (.expression ctx.inner relationOperandLevel)
    close .binaryExpression m
  | _ =>
    match ← peekWord with
    | "typeof" => unary .unaryExpression "typeof"
    | "void" => unary .unaryExpression "void"
    | "delete" => unary .unaryExpression "delete"
    | "await" => unary .awaitExpression "await"
    | "yield" => yieldOperand rules ctx
    | _ =>
      leftHand rules ctx
      assignmentRest rules ctx m

/-! ## Operators after operands -/

/-- Reads a conditional expression from its question mark on. What the look ahead for the mark
has passed over belongs to no token. -/
def conditionalRest (rules : Rules) (ctx : Context) (m : Nat) : Reader Unit := do
  modify fun s => advance (spanLength (· != '?') s.rest) s
  token "?"
  rules.expression
  skipBeforeOperator
  token ":"
  rules (.expression ctx.inner conditionalLevel)
  close .ternaryExpression m

/-- Reads one operator that binds at least as tightly as the level, with its second operand.
Answers whether there was one. -/
def operatorRest (rules : Rules) (ctx : Context) (level m : Nat) : Reader Bool := do
  if ← skipToSemicolon ctx.mayEnd false then return false
  if meetsConditionalMark ctx.mayEnd (← get).gap then
    if level ≤ conditionalLevel then
      conditionalRest rules ctx m
      return true
    else return false
  let op ← peekOperator
  if op == "in" && ctx.noIn then return false
  match binaryLevel? op with
  | some (opLevel, toRight) =>
    if level ≤ opLevel then
      token op
      rules (.expression ctx.inner (if toRight then opLevel else opLevel + 1))
      close .binaryExpression m
      return true
    else return false
  | none => return false

def operators (rules : Rules) (ctx : Context) (level m : Nat) : Reader Unit :=
  loop (operatorRest rules ctx level m)

/-- Reads what follows the first operand of an expression without commas, read from the mark on. -/
def expressionRest (rules : Rules) (ctx : Context) (m : Nat) : Reader Unit := do
  suffixes rules ctx m
  assignmentRest rules ctx m
  operators rules ctx 0 m

/-- Reads an expression without commas whose operators bind at least as tightly as the level. -/
def expression (rules : Rules) (ctx : Context) (level : Nat) : Reader Unit := do
  skip
  let m ← mark
  operand rules ctx
  match ← top with
  | some n =>
    if n.patternOnly then require ctx.cover
    else operators rules ctx level m
  | none => fail

end ScriptSpelling.Syntax
