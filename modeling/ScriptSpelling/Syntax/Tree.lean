import ScriptSpelling.Syntax.Kind

/-!
# Syntax trees

A node has a label - its kind, the stretch of source it covers and two marks - and children. The
tree is concrete: its leaves are the tokens and comments of the source in order. `preorder` lists
all nodes, each before its children; every statement about traversals refers to it.
-/

namespace ScriptSpelling.Syntax

/-- A place in a source: the bytes before it, and its line and column in bytes, from zero. Only
LF ends a line. -/
structure Place where
  offset : Nat
  row : Nat
  column : Nat
deriving Repr, DecidableEq, Inhabited

def Place.zero : Place := ⟨0, 0, 0⟩

def Place.after (p : Place) (c : Char) : Place :=
  if c = '\n' then ⟨p.offset + c.utf8Size, p.row + 1, 0⟩
  else ⟨p.offset + c.utf8Size, p.row, p.column + c.utf8Size⟩

/-- What is known of a node apart from its children. -/
structure Label where
  kind : Kind
  start : Place
  stop : Place
  /-- Whether the node stands for a token that is absent from the source. -/
  missing : Bool := false
  /-- Whether a fault may lie in the node or below it; a node without this mark holds none. -/
  hasError : Bool := false
deriving Repr, DecidableEq

/-- Whether the node itself is a fault: text that fits nowhere, or an absent token. -/
def Label.isFault (l : Label) : Bool := l.kind == .error || l.missing

/-- A node of a syntax tree. -/
inductive Node where
  | mk (label : Label) (children : List Node)
deriving Repr

namespace Node

def label : Node → Label
  | mk l _ => l

def children : Node → List Node
  | mk _ cs => cs

def kind (n : Node) : Kind := n.label.kind

mutual

/-- The node and everything below it, each node before its children. -/
def preorder : Node → List Node
  | mk l cs => mk l cs :: preorderAll cs

def preorderAll : List Node → List Node
  | [] => []
  | c :: cs => c.preorder ++ preorderAll cs

end

mutual

def size : Node → Nat
  | mk _ cs => sizeAll cs + 1

def sizeAll : List Node → Nat
  | [] => 0
  | c :: cs => c.size + sizeAll cs

end

/-- The leaf that is reached by first children. -/
def firstLeaf : Node → Node
  | mk l [] => mk l []
  | mk _ (c :: _) => c.firstLeaf

end Node

end ScriptSpelling.Syntax
