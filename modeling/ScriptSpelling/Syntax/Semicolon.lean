import ScriptSpelling.Syntax.Lexeme

/-!
# Automatic semicolons

A statement may end without a semicolon at a line break, before a closing brace and at the end of
the source. Whether it does is decided by the text after its last token, comments included, and
without regard to the grammar. The question mark of a conditional expression is told apart from
`?.` and `??` by the same kind of look ahead.
-/

namespace ScriptSpelling.Syntax

def breaksLine (c : Char) : Bool := c == '\n' || isSeparator c

/-- Why passing over space and comments stopped. -/
inductive PassedOver where
  /-- A slash that starts no comment. -/
  | slash
  /-- A block comment without a line break, and not all space was passed. -/
  | sameLine
  /-- Anything else. -/
  | clear
deriving Repr, DecidableEq

/-- Where a reader of space and comments stands. -/
inductive GapReading where
  | space
  | lineComment
  | blockComment (sawBreak : Bool)
deriving Repr, DecidableEq

/-- The result of passing over space and comments. -/
structure Gap where
  outcome : PassedOver
  sawComment : Bool
  rest : List Char
deriving Repr, DecidableEq

/-- Passes over ASCII space and comments. Unless `whole`, it stops after a block comment that is
not directly followed by another slash. -/
def passGap (whole : Bool) : GapReading → Bool → List Char → Gap
  | _, saw, [] => ⟨.clear, saw, []⟩
  | .space, saw, '/' :: '/' :: rest => passGap whole .lineComment saw rest
  | .space, saw, '/' :: '*' :: rest => passGap whole (.blockComment false) saw rest
  | .space, saw, '/' :: rest => ⟨.slash, saw, rest⟩
  | .space, saw, c :: rest =>
    if isPlainSpace c then passGap whole .space saw rest else ⟨.clear, saw, c :: rest⟩
  | .lineComment, saw, c :: rest =>
    if breaksLine c then
      if isPlainSpace c then passGap whole .space true rest else ⟨.clear, true, c :: rest⟩
    else if c == '\x00' then ⟨.clear, true, c :: rest⟩
    else passGap whole .lineComment saw rest
  | .blockComment sawBreak, _, '*' :: '/' :: rest =>
    if rest.head? != some '/' && !whole then
      ⟨if sawBreak then .clear else .sameLine, true, rest⟩
    else passGap whole .space true rest
  | .blockComment sawBreak, saw, c :: rest =>
    if c == '\x00' then ⟨.clear, saw, c :: rest⟩
    else passGap whole (.blockComment (sawBreak || breaksLine c)) saw rest

def startsWithLetter (cs : List Char) : Bool := (cs.head?.map Char.isAlpha).getD false

/-- The text after the word `in` or `instanceof`, if one of them comes next. -/
def afterWordOperator? (cs : List Char) : Option (List Char) :=
  let short := cs.drop 2
  let long := cs.drop 10
  if "in".toList.isPrefixOf cs && !startsWithLetter short then some short
  else if "instanceof".toList.isPrefixOf cs && !startsWithLetter long then some long
  else none

/-- The text at which it is clear that a line that starts like this continues a statement; `none`
if the statement ends before the line. -/
def continuation? (cs : List Char) : Option (List Char) :=
  match cs with
  | '.' :: rest => if (rest.head?.map Char.isDigit).getD false then none else some rest
  | '+' :: rest => if rest.head? == some '+' then none else some rest
  | '-' :: rest => if rest.head? == some '-' then none else some rest
  | '!' :: rest => if rest.head? == some '=' then some rest else none
  | 'i' :: _ => afterWordOperator? cs
  | c :: _ => if "\x60,:;*%><=[(?^|&/".toList.contains c then some cs else none
  | [] => none

/-- The answer of the look ahead for an automatic semicolon. -/
structure SemicolonAnswer where
  found : Bool
  sawComment : Bool
  /-- The text at which the look ahead stopped. -/
  rest : List Char
deriving Repr, DecidableEq

/-- The answer at the start of a line. -/
def semicolonAtLine (saw : Bool) (cs : List Char) : SemicolonAnswer :=
  let gap := passGap true .space saw cs
  if gap.outcome == .slash then ⟨false, gap.sawComment, gap.rest⟩
  else
    match continuation? gap.rest with
    | some rest => ⟨false, gap.sawComment, rest⟩
    | none => ⟨true, gap.sawComment, gap.rest⟩

/-- Looks for an automatic semicolon in the text after a token. Where no operator can follow,
`noOperator` holds, and a comment counts as a line break unless a comma or an equals sign comes
after it. -/
def lookForSemicolon (noOperator saw : Bool) : Nat → List Char → SemicolonAnswer
  | _, [] => ⟨true, saw, []⟩
  | 0, cs => ⟨false, saw, cs⟩
  | fuel + 1, '/' :: rest =>
    let gap := passGap false .space saw ('/' :: rest)
    let next := gap.rest.head?
    match gap.outcome with
    | .slash => ⟨false, gap.sawComment, gap.rest⟩
    | outcome =>
      if outcome == .clear && noOperator && next != some ',' && next != some '=' then
        ⟨true, gap.sawComment, gap.rest⟩
      else
        match gap.rest with
        | [] => ⟨false, gap.sawComment, []⟩
        | c :: more =>
          if c == '}' then ⟨true, gap.sawComment, gap.rest⟩
          else if breaksLine c then semicolonAtLine gap.sawComment more
          else if isPlainSpace c then lookForSemicolon noOperator gap.sawComment fuel more
          else ⟨false, gap.sawComment, gap.rest⟩
  | fuel + 1, c :: rest =>
    if c == '\x00' || c == '}' then ⟨true, saw, c :: rest⟩
    else if breaksLine c then semicolonAtLine saw rest
    else if isPlainSpace c then lookForSemicolon noOperator saw fuel rest
    else ⟨false, saw, c :: rest⟩

/-- Whether a statement ends, without a semicolon, before the given text. -/
def semicolonAnswer (noOperator : Bool) (cs : List Char) : SemicolonAnswer :=
  lookForSemicolon noOperator false cs.length cs

/-- Whether the text starts with the question mark of a conditional expression. -/
def isConditionalMark : List Char → Bool
  | '?' :: '?' :: _ => false
  | '?' :: '.' :: rest => (rest.head?.map Char.isDigit).getD false
  | '?' :: _ => true
  | _ => false

/-- Whether the question mark of a conditional expression comes next. Where a statement could end,
it is seen also after a line break of any kind; elsewhere only after ASCII space. -/
def meetsConditionalMark (mayEnd : Bool) (cs : List Char) : Bool :=
  if mayEnd then
    let answer := semicolonAnswer false cs
    !answer.found && !answer.sawComment && isConditionalMark answer.rest
  else isConditionalMark (cs.dropWhile isPlainSpace)

end ScriptSpelling.Syntax
