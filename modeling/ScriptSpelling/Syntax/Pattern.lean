import ScriptSpelling.Syntax.Tree

/-!
# Patterns

What is read as an array, an object or a list in parentheses may turn out to be the target of an
assignment or the parameters of a function. `toPattern?` gives the pattern with the same text, if
there is one. An object such as `{a = 1}` has no other use: `patternOnly` recognizes it.
-/

namespace ScriptSpelling.Syntax

/-- What a node is to become. -/
inductive Role where
  /-- The target of an assignment. -/
  | target
  /-- An element of an array pattern, or a parameter. -/
  | element
  /-- A member of an object pattern. -/
  | property
deriving Repr, DecidableEq

def Node.withKind (n : Node) (kind : Kind) : Node := .mk { n.label with kind } n.children

mutual

/-- The pattern with the text of the node, for the given role. -/
def Node.toPattern? (role : Role) : Node → Option Node
  | .mk l cs =>
    match l.kind with
    | .array => (elementsToPattern? cs).map (.mk { l with kind := .arrayPattern })
    | .object => (membersToPattern? cs).map (.mk { l with kind := .objectPattern })
    | .identifier | .undefinedLiteral | .memberExpression | .subscriptExpression
    | .arrayPattern | .objectPattern =>
      if role = .property then none else some (.mk l cs)
    | .assignmentExpression =>
      if role = .element then
        (firstToPattern? cs).map (.mk { l with kind := .assignmentPattern })
      else none
    | .spreadElement =>
      if role = .target then none
      else (lastToPattern? .target cs).map (.mk { l with kind := .restPattern })
    | .pair =>
      if role = .property then
        (lastToPattern? .element cs).map (.mk { l with kind := .pairPattern })
      else none
    | .shorthandPropertyIdentifier =>
      if role = .property then
        some (.mk { l with kind := .shorthandPropertyIdentifierPattern } cs)
      else none
    | .objectAssignmentPattern => if role = .property then some (.mk l cs) else none
    | .token _ | .comment | .htmlComment => if role = .target then none else some (.mk l cs)
    | _ => none

def elementsToPattern? : List Node → Option (List Node)
  | [] => some []
  | n :: rest =>
    match n.toPattern? .element, elementsToPattern? rest with
    | some n, some rest => some (n :: rest)
    | _, _ => none

def membersToPattern? : List Node → Option (List Node)
  | [] => some []
  | n :: rest =>
    match n.toPattern? .property, membersToPattern? rest with
    | some n, some rest => some (n :: rest)
    | _, _ => none

def firstToPattern? : List Node → Option (List Node)
  | [] => none
  | n :: rest => (n.toPattern? .target).map (· :: rest)

def lastToPattern? (role : Role) : List Node → Option (List Node)
  | [] => none
  | [n] => (n.toPattern? role).map ([·])
  | n :: rest => (lastToPattern? role rest).map (n :: ·)

end

mutual

def Node.patternOnly : Node → Bool
  | .mk l cs =>
    match l.kind with
    | .objectAssignmentPattern => true
    | .pair => cs.any (·.kind == .spreadElement) || anyPatternOnly cs
    | .object | .array | .spreadElement => anyPatternOnly cs
    | _ => false

def anyPatternOnly : List Node → Bool
  | [] => false
  | n :: rest => n.patternOnly || anyPatternOnly rest

end

/-- Whether no comma follows another comma or the opening parenthesis. -/
def hasNoHoles : List Node → Bool
  | .mk a _ :: .mk b bs :: rest =>
    !((a.kind == .token "," || a.kind == .token "(") && b.kind == .token ",") &&
      hasNoHoles (.mk b bs :: rest)
  | _ => true

end ScriptSpelling.Syntax
