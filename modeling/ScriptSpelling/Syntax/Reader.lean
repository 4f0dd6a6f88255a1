import ScriptSpelling.Syntax.Semicolon
import ScriptSpelling.Syntax.Tree

/-!
# Reading with a stack of nodes

A script is read by recursive descent. The reader keeps the text ahead and a stack of finished
nodes. A token or comment becomes a leaf on the stack; `close` makes one node of everything above
a mark. Comments at either end of the new node stay outside it, so a comment belongs to the
smallest construct that goes on after it. Failure gives the state before the token that does not
fit, and an alternative is tried by reading again from the state before it.
-/

namespace ScriptSpelling.Syntax

/-- The state of the reader. -/
structure ReaderState where
  /-- The text ahead. -/
  rest : List Char
  /-- The text after the last token or comment: what is ahead and the space before it. -/
  gap : List Char
  /-- The number of characters ahead. -/
  left : Nat
  place : Place
  /-- The finished nodes, latest first. -/
  done : List Node
  /-- The number of finished nodes. -/
  count : Nat
deriving Repr

/-- A reader of a part of a script. It fails in a state, before something that does not fit. -/
abbrev Reader := StateT ReaderState (Except ReaderState)

namespace Reader

/-! ## Failure and choice -/

def fail {α : Type} : Reader α := fun s => .error s

def require (condition : Bool) : Reader Unit := if condition then pure () else fail

/-- The first reader or, if that fails, the second from the same state. If both fail, the one that
came farther tells where. -/
def either {α : Type} (p q : Reader α) : Reader α := fun s =>
  match p s with
  | .ok r => .ok r
  | .error a =>
    match q s with
    | .ok r => .ok r
    | .error b => .error (if a.place.offset < b.place.offset then b else a)

/-- The result of the reader, if it succeeds; the state is left as it was. -/
def ahead {α : Type} (p : Reader α) : Reader (Option α) := fun s =>
  match p s with
  | .ok (a, _) => .ok (some a, s)
  | .error _ => .ok (none, s)

/-- Repeats a step for as long as it answers `true`; the fuel bounds the number of steps. -/
def repeatFor (step : Reader Bool) : Nat → Reader Unit
  | 0 => fail
  | fuel + 1 => fun s =>
    match step s with
    | .ok (true, s) => repeatFor step fuel s
    | .ok (false, s) => .ok ((), s)
    | .error s => .error s

/-- Repeats a step for as long as it answers `true`. Every step but the last must read something. -/
def loop (step : Reader Bool) : Reader Unit := fun s => repeatFor step (s.left + 2) s

/-! ## Characters and nodes -/

def advance : Nat → ReaderState → ReaderState
  | 0, s => s
  | n + 1, s =>
    match s.rest with
    | [] => s
    | c :: rest => advance n { s with rest, left := s.left - 1, place := s.place.after c }

def push (n : Node) (s : ReaderState) : ReaderState :=
  { s with done := n :: s.done, count := s.count + 1 }

/-- Makes a leaf of the next `n` characters. -/
def leaf (kind : Kind) (n : Nat) : Reader Unit := fun s =>
  let next := advance n s
  let node := Node.mk { kind, start := s.place, stop := next.place } []
  .ok ((), { push node next with gap := next.rest })

/-- Whether a node may occur between any two tokens. -/
def isExtra (n : Node) : Bool := n.kind == .comment || n.kind == .htmlComment

/-- The node of the given kind around its children, of which there is at least one. -/
def enclose (kind : Kind) (first : Node) (more : List Node) : Node :=
  let last := more.getLastD first
  .mk { kind, start := first.label.start, stop := last.label.stop } (first :: more)

/-- Makes one node of the finished nodes, apart from the comments at both ends. The result is
latest first. -/
def gather (kind : Kind) (latestFirst : List Node) : List Node :=
  let after := latestFirst.takeWhile isExtra
  let inOrder := (latestFirst.dropWhile isExtra).reverse
  let before := inOrder.takeWhile isExtra
  match inOrder.dropWhile isExtra with
  | [] => after ++ before.reverse
  | first :: more => after ++ enclose kind first more :: before.reverse

/-- The number of finished nodes, for a later `close`. -/
def mark : Reader Nat := fun s => .ok (s.count, s)

/-- Replaces the nodes above a mark; `f` takes and gives them latest first. -/
def rework (m : Nat) (f : List Node → Option (List Node)) : Reader Unit := fun s =>
  let k := s.count - m
  match f (s.done.take k) with
  | some nodes => .ok ((), { s with done := nodes ++ s.done.drop k, count := m + nodes.length })
  | none => .error s

def close (kind : Kind) (m : Nat) : Reader Unit := rework m (some ∘ gather kind)

/-- The latest node that is no comment. -/
def top : Reader (Option Node) := fun s => .ok (s.done.find? (!isExtra ·), s)

def topKind : Reader Kind := do return ((← top).map Node.kind).getD .error

def rewriteTop (f : Node → Option Node) : Reader Unit := fun s =>
  let after := s.done.takeWhile isExtra
  match s.done.dropWhile isExtra with
  | n :: before =>
    match f n with
    | some n => .ok ((), { s with done := after ++ n :: before })
    | none => .error s
  | [] => .error s

/-! ## Space and comments -/

def space (s : ReaderState) : ReaderState := advance (spanLength isSpace s.rest) s

def comment (html : Bool) : Reader Bool := fun s =>
  match if html && (htmlCommentLength s.gap).isSome then htmlCommentLength s.rest else none with
  | some n =>
    let before := spanLength (fun c => isPlainSpace c || isSeparator c) s.rest
    (do leaf .htmlComment (n - before); return true : Reader Bool) (advance before s)
  | none =>
    let s := space s
    match commentLength s.rest with
    | some n => (do leaf .comment n; return true : Reader Bool) s
    | none => .ok (false, s)

/-- Passes over space and comments before an operand or a statement. -/
def skip : Reader Unit := loop (comment true)

/-- Passes over space and comments after an operand, up to an automatic semicolon. Answers whether
there is one; where none is allowed there is none. -/
def skipToSemicolon (allowed noOperator : Bool) : Reader Bool := do
  loop do
    let s ← get
    if allowed && (semicolonAnswer noOperator s.gap).found then return false
    else comment false
  let s ← get
  return allowed && (semicolonAnswer noOperator s.gap).found

/-- Passes over space and comments where an operator is expected and no statement can end. -/
def skipBeforeOperator : Reader Unit := loop (comment false)

/-! ## Tokens -/

def rest : Reader (List Char) := fun s => .ok (s.rest, s)

def peek : Reader (Option Char) := do return (← rest).head?

def meets (text : String) : Reader Bool := do return text.toList.isPrefixOf (← rest)

/-- The word that comes next; empty if there is none. -/
def peekWord : Reader String := do
  let cs ← rest
  return String.ofList (cs.take (wordLength cs))

def token (text : String) : Reader Unit := do
  require (← meets text)
  leaf (.token text) text.length

def word (kind : Kind) : Reader Unit := do
  let n := wordLength (← rest)
  require (0 < n)
  leaf kind n

def keyword (text : String) : Reader Unit := do
  require ((← peekWord) == text)
  leaf (.token text) text.length

/-- Ends a statement by a semicolon or an automatic one. -/
def semicolon (noOperator : Bool) : Reader Unit := do
  if ← skipToSemicolon true noOperator then return ()
  else token ";"

/-- Whether no comment in the manner of HTML comes next. -/
def meetsNoHtml : Reader Bool := do return (htmlCommentLength (← get).gap).isNone

/-- Passes over comments where a statement may end without a semicolon. If it does not end there,
a comment in the manner of HTML cannot follow. Answers whether it ends. -/
def mayEndHere : Reader Bool := do
  let ends ← skipToSemicolon true true
  require (ends || (← meetsNoHtml))
  return ends

/-- Reads items, each before a comma or the closing text, which stays unread. There is an item
where `hasItem` says so; without one, only a comma may follow if `holes` allows it. -/
def commaList (closing : String) (holes : Bool) (item : Reader Unit) : Reader Unit := do
  skip
  loop do
    if ← meets closing then return false
    if holes && (← meets ",") then
      token ","
      skip
      return true
    item
    skipBeforeOperator
    if ← meets "," then
      token ","
      skip
      return true
    require (← meets closing)
    return false

end Reader

end ScriptSpelling.Syntax
