import ScriptSpelling.Syntax.Cursor
import ScriptSpelling.Text.Blank

/-!
# Sources and their nodes

A source with its syntax tree. Selected nodes are copied out of the tree with their text and
their position from one. A tree with a fault is no result: the first fault in pre-order is
reported instead. The search for it passes over subtrees that are not marked as holding one.
-/

namespace ScriptSpelling.Syntax

/-! ## Text of a node -/

/-- The characters after the first `n` bytes, if a character ends there. -/
def dropBytes? : Nat → List Char → Option (List Char)
  | 0, cs => some cs
  | _ + 1, [] => none
  | n + 1, c :: cs => if c.utf8Size ≤ n + 1 then dropBytes? (n + 1 - c.utf8Size) cs else none

/-- The characters of the first `n` bytes, if a character ends there. -/
def takeBytes? : Nat → List Char → Option (List Char)
  | 0, _ => some []
  | _ + 1, [] => none
  | n + 1, c :: cs =>
    if c.utf8Size ≤ n + 1 then (takeBytes? (n + 1 - c.utf8Size) cs).map (c :: ·) else none

/-- The text that a node covers, if it starts and ends between characters. -/
def textOf? (source : List Char) (l : Label) : Option (List Char) :=
  (dropBytes? l.start.offset source).bind (takeBytes? (l.stop.offset - l.start.offset))

/-! ## Selected nodes -/

/-- A node copied out of a tree. -/
structure SourceNode where
  kind : String
  text : String
  /-- The line on which the node starts, from one. -/
  line : Nat
  /-- The column in bytes at which the node starts, from one. -/
  column : Nat
deriving Repr, DecidableEq

/-- A source with its tree. -/
structure SourceTree where
  source : List Char
  root : Node
deriving Repr

namespace SourceTree

def sourceNode? (t : SourceTree) (n : Node) : Option SourceNode :=
  (textOf? t.source n.label).map fun text =>
    { kind := n.kind.name
      text := String.ofList text
      line := n.label.start.row + 1
      column := n.label.start.column + 1 }

def select (t : SourceTree) (keep : Node → Bool) : List SourceNode :=
  collect (fun n => if keep n then t.sourceNode? n else none) t.root

/-- The nodes whose kind has one of the given names, in pre-order. -/
def nodesOfKind (t : SourceTree) (names : List String) : List SourceNode :=
  t.select fun n => names.contains n.kind.name

/-- Every comment, in order. -/
def comments (t : SourceTree) : List SourceNode :=
  t.select fun n => n.kind.name == "comment"

end SourceTree

/-! ## Faults -/

mutual

/-- The first fault in pre-order, not looking below nodes without a mark. -/
def Node.firstFault? : Node → Option Node
  | .mk l cs =>
    if l.isFault then some (.mk l cs)
    else if l.hasError then firstFaultIn? cs
    else none

def firstFaultIn? : List Node → Option Node
  | [] => none
  | c :: cs =>
    match c.firstFault? with
    | some n => some n
    | none => firstFaultIn? cs

end

/-- What is wrong at the first fault of a source. -/
inductive FaultCause where
  /-- A token of this kind is absent. -/
  | missing (kind : Kind)
  /-- A token fits nowhere. -/
  | unexpected (token : String)
  /-- The fault holds no text. -/
  | endOfInput
deriving Repr, DecidableEq

def FaultCause.description : FaultCause → String
  | missing kind => "Missing " ++ kind.name
  | unexpected token => "Unexpected token " ++ token
  | endOfInput => "Unexpected end of input"

/-- Why a source has no tree without faults. -/
structure SyntaxFault where
  cause : FaultCause
  line : Option Nat
  column : Option Nat
deriving Repr, DecidableEq

/-- The first line of the text of the first leaf, trimmed. -/
def firstToken (source : List Char) (n : Node) : List Char :=
  let text := (textOf? source n.firstLeaf.label).getD []
  Text.trimChars ((Text.lines text).headD [])

/-- The report of a fault. -/
def faultAt (source : List Char) (n : Node) : SyntaxFault where
  cause :=
    if n.label.missing then .missing n.kind
    else
      match firstToken source n with
      | [] => .endOfInput
      | token => .unexpected (String.ofList token)
  line := some (n.label.start.row + 1)
  column := some (n.label.start.column + 1)

/-- The source with its tree, unless the tree holds a fault. -/
def SourceTree.accept (source : List Char) (root : Node) : Except SyntaxFault SourceTree :=
  match root.firstFault? with
  | some n => .error (faultAt source n)
  | none => .ok ⟨source, root⟩

/-! ## Grammars -/

/-- What makes the tree of a source. -/
abbrev Grammar := List Char → Node

def Grammar.read (grammar : Grammar) (source : String) : Except SyntaxFault SourceTree :=
  SourceTree.accept source.toList (grammar source.toList)

end ScriptSpelling.Syntax
