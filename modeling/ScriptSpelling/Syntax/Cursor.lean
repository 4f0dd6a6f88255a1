import ScriptSpelling.Syntax.Tree

/-!
# Walking a tree with a cursor

A cursor stands on a node of a tree and remembers the way back to the root. It moves to the first
child, the next sibling or the parent, and stays where it is when there is none. `collect` visits
a whole tree with these three moves.
-/

namespace ScriptSpelling.Syntax

/-- One step of the way to the root: the label of the parent and the siblings on both sides, those
before with the nearest first. -/
structure Crumb where
  label : Label
  before : List Node
  after : List Node
deriving Repr

/-- A position in a tree: the node stood on, and the way to the root. -/
structure Cursor where
  focus : Node
  path : List Crumb
deriving Repr

namespace Cursor

def root (tree : Node) : Cursor := ⟨tree, []⟩

def firstChild? (c : Cursor) : Option Cursor :=
  match c.focus with
  | .mk _ [] => none
  | .mk l (first :: more) => some ⟨first, ⟨l, [], more⟩ :: c.path⟩

def nextSibling? (c : Cursor) : Option Cursor :=
  match c.path with
  | [] => none
  | crumb :: path =>
    match crumb.after with
    | [] => none
    | next :: more => some ⟨next, ⟨crumb.label, c.focus :: crumb.before, more⟩ :: path⟩

def parent? (c : Cursor) : Option Cursor :=
  match c.path with
  | [] => none
  | crumb :: path => some ⟨.mk crumb.label (crumb.before.reverse ++ c.focus :: crumb.after), path⟩

/-- To the next sibling of the node, or of the nearest ancestor that has one. The fuel bounds the
number of ancestors. -/
def climb : Nat → Cursor → Option Cursor
  | fuel, c =>
    match c.nextSibling? with
    | some next => some next
    | none =>
      match fuel, c.parent? with
      | fuel + 1, some up => climb fuel up
      | _, _ => none

/-- To the node that follows in pre-order. -/
def next? (c : Cursor) : Option Cursor :=
  match c.firstChild? with
  | some child => some child
  | none => c.climb c.path.length

/-- What `keep` gives for the node stood on and at most `fuel` following ones. -/
def collectFrom {α : Type} (keep : Node → Option α) : Nat → Cursor → List α
  | fuel, c =>
    let rest :=
      match fuel, c.next? with
      | fuel + 1, some next => collectFrom keep fuel next
      | _, _ => []
    match keep c.focus with
    | some a => a :: rest
    | none => rest

end Cursor

/-- What `keep` gives for the nodes of a tree, visited with a cursor. -/
def collect {α : Type} (keep : Node → Option α) (tree : Node) : List α :=
  Cursor.collectFrom keep tree.size (.root tree)

end ScriptSpelling.Syntax
