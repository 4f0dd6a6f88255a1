/-!
# Affix conditions

A condition restricts the stems to which an affix applies. It is a list of character tests: a
literal character, any character, or one inside or outside a bracketed set.
-/

namespace ScriptSpelling.Lexicon

/-- A test of one character. -/
inductive CharTest where
  | literal (c : Char)
  | any
  | oneOf (cs : List Char)
  | noneOf (cs : List Char)
deriving Repr, DecidableEq

def CharTest.passes : CharTest → Char → Bool
  | literal c, d => c == d
  | any, _ => true
  | oneOf cs, d => cs.contains d
  | noneOf cs, d => !cs.contains d

/-- Why a text is no condition. -/
inductive ConditionFault where
  | unclosed
  | unopened
  | empty
deriving Repr, DecidableEq

def ConditionFault.message : ConditionFault → String
  | unclosed => "opening bracket has no matching closing bracket"
  | unopened => "closing bracket has no matching opening bracket"
  | empty => "empty bracket expression"

/-- Where a reader of conditions stands. -/
inductive ConditionReading where
  | outside
  /-- Directly after an opening bracket. -/
  | opened
  /-- Inside brackets, with the characters so far, latest first. -/
  | inside (negated : Bool) (seen : List Char)
deriving Repr, DecidableEq

def readCondition : ConditionReading → List Char → Except ConditionFault (List CharTest)
  | .outside, [] => .ok []
  | .outside, '[' :: rest => readCondition .opened rest
  | .outside, ']' :: _ => .error .unopened
  | .outside, '.' :: rest => do return .any :: (← readCondition .outside rest)
  | .outside, c :: rest => do return .literal c :: (← readCondition .outside rest)
  | .opened, [] => .error .unclosed
  | .opened, '^' :: rest => readCondition (.inside true []) rest
  | .opened, ']' :: _ => .error .empty
  | .opened, c :: rest => readCondition (.inside false [c]) rest
  | .inside _ _, [] => .error .unclosed
  | .inside negated seen, ']' :: rest => do
    if seen.isEmpty then throw .empty
    let test := if negated then CharTest.noneOf seen else CharTest.oneOf seen
    return test :: (← readCondition .outside rest)
  | .inside negated seen, c :: rest => readCondition (.inside negated (c :: seen)) rest

/-- Whether the characters start with ones that pass the tests in turn. -/
def startsWithTests : List CharTest → List Char → Bool
  | [], _ => true
  | _ :: _, [] => false
  | t :: ts, c :: cs => t.passes c && startsWithTests ts cs

def endsWithTests (tests : List CharTest) (cs : List Char) : Bool :=
  startsWithTests tests.reverse cs.reverse

end ScriptSpelling.Lexicon
