import ScriptSpelling.Syntax.Script

/-!
# Repairs

A source that cannot be read still has a tree, up to its first fault. The fault is what the least
costly repair would take away or put in. A repair gives up some of the nodes read last, passes over
some of the tokens ahead, or supposes one absent token; it must let the next token fit. `parse`
reads a source, or tells its first fault.
-/

namespace ScriptSpelling.Syntax

open Reader

/-! ## Costs -/

structure RepairCosts where
  /-- For taking text away at all. -/
  away : Nat := 500
  /-- For each node or token taken away. -/
  perNode : Nat := 100
  perByte : Nat := 1
  perLine : Nat := 30
  /-- For supposing an absent token. -/
  absent : Nat := 610
  /-- For a fault that remains after the repair. -/
  again : Nat := 600

/-- The costs by which repairs are compared. -/
def repairCosts : RepairCosts := {}

/-! ## What may be taken away -/

/-- Whether the second node settles what the first one is, so that it is not given up alone. -/
def settles (first second : Node) : Bool :=
  match first.kind, second.kind with
  | .propertyIdentifier, .token ":" | .string, .token ":" | .number, .token ":"
  | .computedPropertyName, .token ":" | .privatePropertyIdentifier, .token ":"
  | .formalParameters, .token "=>" => true
  | _, _ => false

/-- Whether a node has ended for good: its last part is a mark that closes it. -/
def endsWithToken (children : List Node) : Bool :=
  match children.getLast? with
  | some n =>
    match n.kind with
    | .token _ => true
    | _ => false
  | none => true

mutual

/-- The ends of a node that may be given up without the rest. -/
def Node.ends : Node → List (List Node)
  | .mk _ cs => if endsWithToken cs then [] else endsOf cs

/-- The ends of a list of nodes that may be given up, shorter ones first. -/
def endsOf : List Node → List (List Node)
  | [] => []
  | [c] => c.ends ++ [[c]]
  | c :: d :: more => (if settles c d then endsOf more else endsOf (d :: more)) ++ [c :: d :: more]

end

/-- The length of what is passed over as one token, whether or not it is one. -/
def looseTokenLength (cs : List Char) : Nat :=
  let word := wordLength cs
  if 0 < word then word
  else
    match numberLength cs with
    | some n => n
    | none => ((operatorMarks.find? (·.toList.isPrefixOf cs)).map String.length).getD 1

/-- Reads everything ahead as tokens. -/
def looseTokens : Reader Unit := do
  skip
  loop do
    let cs ← rest
    if cs.isEmpty then return false
    let n := looseTokenLength cs
    leaf (.token (String.ofList (cs.take n))) n
    skip
    return true

def tokensAhead (s : ReaderState) : List Node :=
  match looseTokens { s with done := [], count := 0 } with
  | .ok (_, s) => s.done.reverse.filter (!isExtra ·)
  | .error _ => []

/-! ## Repairs and their trial -/

/-- A repair: the node that marks the fault, what stands for it in the source, and where reading
goes on. -/
structure Repair where
  fault : Node
  cost : Nat
  /-- What may stand between the text kept on both sides. -/
  joints : List String
  /-- The bytes kept before. -/
  kept : Nat
  /-- The bytes before the next token. -/
  next : Nat

/-- Space that never ends a statement. -/
def plainJoint : String := "\ufeff"

/-- The outcome of reading the source with a repair: whether all of it is read, if the next token
fits. -/
def Repair.trial (r : Repair) (source : List Char) (joint : String) : Option Bool :=
  let before := (takeBytes? r.kept source).getD []
  let after := (dropBytes? r.next source).getD []
  match readScript (before ++ joint.toList ++ after) with
  | .ok _ => some true
  | .error s => if r.kept + joint.utf8ByteSize < s.place.offset then some false else none

def Repair.outcome (r : Repair) (source : List Char) : Option Bool :=
  r.joints.foldl (fun best joint => if best = some true then best
    else (r.trial source joint).orElse fun _ => best) none

/-- The words and marks that can be all of a script that has no operand. -/
def isOperatorToken (n : Node) : Bool :=
  match n.kind with
  | .token text => operatorMarks.contains text || [",", ".", ":", "?"].contains text
  | _ => false

/-- The node for text that is taken away. At the start of a source, operators to its end follow an
empty script. -/
def awayNode (start stop : Place) (nodes : List Node) (whole : Bool) : Node :=
  let empty := Node.mk { kind := .program, start, stop := start } []
  let isVoid := whole && 1 < stop.offset && nodes.all isOperatorToken
  .mk { kind := .error, start, stop, hasError := true } (if isVoid then empty :: nodes else nodes)

/-- The repair that gives up some nodes and passes over some tokens. -/
def awayRepair (s : ReaderState) (gone passed : List Node) (next : Option Node) (stop : Nat) :
    Option Repair :=
  match gone ++ passed with
  | [] => none
  | first :: more =>
    let last := more.getLastD first
    let whole := gone.isEmpty && s.done.isEmpty && next.isNone
    let bytes := last.label.stop.offset - first.label.start.offset
    let lines := last.label.stop.row - first.label.start.row
    let statementEnds := gone.isEmpty && (semicolonAnswer false s.gap).found
    some {
      fault := awayNode first.label.start last.label.stop (first :: more) whole
      cost := repairCosts.away + repairCosts.perNode * (more.length + 1) +
        repairCosts.perByte * bytes + repairCosts.perLine * lines
      joints := if statementEnds then [plainJoint, ";"] else [plainJoint]
      kept := first.label.start.offset
      next := (next.map (·.label.start.offset)).getD stop }

/-- The most tokens that are passed over, unless all are. -/
def mostPassed : Nat := 12

/-- The repairs that take text away. -/
def awayRepairs (s : ReaderState) (stop : Nat) : List Repair :=
  let ahead := tokensAhead s
  let ends := [] :: endsOf (s.done.reverse.filter (!isExtra ·))
  let counts := ((List.range (min ahead.length (mostPassed + 1))) ++ [ahead.length]).reverse
  counts.flatMap fun k =>
    ends.filterMap fun gone => awayRepair s gone (ahead.take k) (ahead[k]?) stop

/-- The repairs that suppose an absent token. -/
def absentRepairs (s : ReaderState) (stop : Nat) : List Repair :=
  let place := (s.done.head?.map (·.label.stop)).getD .zero
  let next := ((tokensAhead s).head?.map (·.label.start.offset)).getD stop
  let kept := if s.done.head?.any isExtra then next else place.offset
  [(Kind.identifier, "x"), (.token "\x7d", "\x7d"), (.token ";", ";"), (.token ")", ")"),
    (.token "]", "]")].map fun (kind, text) =>
    { fault := .mk { kind, start := place, stop := place, missing := true, hasError := true } []
      cost := repairCosts.absent
      joints := [plainJoint ++ text ++ plainJoint]
      kept
      next }

/-- The most repairs that are tried. -/
def mostTrials : Nat := 200

/-- The cheapest repair of those given in order of cost; a fault that remains counts as well. -/
def cheapest (source : List Char) : Option Repair → List Repair → Option Repair
  | best, [] => best
  | best, r :: more =>
    let limit := best.map fun b => b.cost + repairCosts.again
    if limit.any (· ≤ r.cost) then best
    else
      match r.outcome source with
      | some true => some r
      | some false => cheapest source (best.orElse fun _ => some r) more
      | none => cheapest source best more

/-- The first fault of a source that cannot be read further. -/
def faultNode (source : List Char) (s : ReaderState) : Node :=
  let stop := (String.ofList source).utf8ByteSize
  let byCost := (awayRepairs s stop ++ absentRepairs s stop).mergeSort (·.cost ≤ ·.cost)
  match cheapest source none (byCost.take mostTrials) with
  | some r => r.fault
  | none => awayNode .zero s.place (s.done.reverse ++ tokensAhead s) false

/-! ## Trees of sources -/

/-- The tree of a source. One with a fault goes up to the fault. -/
def scriptTree : Grammar := fun source =>
  let stop := (advance source.length (.ofSource source)).place
  match readScript source with
  | .ok nodes =>
    let start := (nodes.head?.map (·.label.start)).getD stop
    .mk { kind := .program, start, stop } nodes
  | .error s =>
    let fault := faultNode source s
    .mk { kind := .program, start := fault.label.start, stop, hasError := true } [fault]

/-- Reads a source. -/
def parse (source : String) : Except SyntaxFault SourceTree :=
  Grammar.read scriptTree source

end ScriptSpelling.Syntax
