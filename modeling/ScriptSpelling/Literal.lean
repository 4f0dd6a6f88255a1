/-!
# String literals

The text that a quoted string literal denotes. The body of a literal is read by a small
transducer: `Reading` says what was read and not yet written, `Reading.step` reads one character.
Because the state after a complete escape is `plain` again, an escape never changes how the
next one is read.
-/

namespace ScriptSpelling.Literal

/-! ## Hexadecimal numbers -/

/-- The value of a hexadecimal digit, in either case. -/
def hexDigit? (c : Char) : Option Nat :=
  let n := c.toNat
  if 0x30 ≤ n ∧ n ≤ 0x39 then some (n - 0x30)
  else if 0x41 ≤ n ∧ n ≤ 0x46 then some (n - 0x37)
  else if 0x61 ≤ n ∧ n ≤ 0x66 then some (n - 0x57)
  else none

/-- Reads hexadecimal digits after the value `acc`. -/
def hexFrom? (acc : Nat) : List Char → Option Nat
  | [] => some acc
  | c :: rest =>
    match hexDigit? c with
    | some d => hexFrom? (acc * 16 + d) rest
    | none => none

/-- Reads hexadecimal digits after the value `acc`, as long as the value fits 32 bits. -/
def hexWordFrom? (acc : UInt32) : List Char → Option UInt32
  | [] => some acc
  | c :: rest =>
    match hexDigit? c with
    | some d =>
      if acc.toNat * 16 + d < UInt32.size then hexWordFrom? (acc * 16 + UInt32.ofNat d) rest
      else none
    | none => none

/-- The value of a non-empty hexadecimal number of 32 bits, which may start with a plus sign. -/
def hexNumber? : List Char → Option UInt32
  | [] => none
  | ['+'] => none
  | '+' :: digits => hexWordFrom? 0 digits
  | digits => hexWordFrom? 0 digits

/-- The character with the code `n`; surrogates and codes above 10FFFF have none. -/
def scalar? (n : Nat) : Option Char :=
  if h : n.isValidChar then some (Char.ofNatAux n h) else none

/-- What a numeric escape with the given digits writes: the character it names, or else its letter
and the digits themselves. -/
def codePoint (letter : Char) (digits : List Char) : List Char :=
  match (hexNumber? digits).bind fun n => scalar? n.toNat with
  | some c => [c]
  | none => letter :: digits

/-! ## The transducer -/

/-- What has been read of an escape. -/
inductive Reading where
  /-- No escape is open. -/
  | plain
  /-- A backslash. -/
  | backslash
  /-- A backslash and a CR: an LF would still belong to the line continuation. -/
  | afterReturn
  /-- A backslash and `u`. -/
  | unicode
  /-- A numeric escape with its letter, the number of digits it may still take, and the digits
  so far, latest first. -/
  | digits (letter : Char) (left : Nat) (seen : List Char)
  /-- An escape in braces, with the characters after the brace, latest first. -/
  | braces (seen : List Char)
deriving Repr, DecidableEq

namespace Reading

def begin (c : Char) : List Char × Reading :=
  if c = '\\' then ([], backslash) else ([c], plain)

/-- Reads a character after `out` has been settled. -/
def settle (out : List Char) (c : Char) : List Char × Reading :=
  (out ++ (begin c).1, (begin c).2)

/-- Reads the character after a backslash. -/
def escape (c : Char) : List Char × Reading :=
  match c with
  | 'n' => (['\n'], plain)
  | 't' => (['\t'], plain)
  | 'r' => (['\r'], plain)
  | 'b' => (['\x08'], plain)
  | 'f' => (['\x0c'], plain)
  | 'v' => (['\x0b'], plain)
  | '0' => (['\x00'], plain)
  | '\n' => ([], plain)
  | '\r' => ([], afterReturn)
  | 'x' => ([], digits 'x' 2 [])
  | 'u' => ([], unicode)
  | other => ([other], plain)

/-- Reads a character where a numeric escape may take `left` more digits. -/
def digit (letter : Char) (left : Nat) (seen : List Char) (c : Char) : List Char × Reading :=
  if (hexDigit? c).isSome then
    if left ≤ 1 then (codePoint letter (c :: seen).reverse, plain)
    else ([], digits letter (left - 1) (c :: seen))
  else settle (codePoint letter seen.reverse) c

/-- Reads one character: what is written now, and the state after it. -/
def step : Reading → Char → List Char × Reading
  | plain, c => begin c
  | backslash, c => escape c
  | afterReturn, c => if c = '\n' then ([], plain) else begin c
  | unicode, c => if c = '{' then ([], braces []) else digit 'u' 4 [] c
  | digits letter left seen, c => digit letter left seen c
  | braces seen, c =>
    if c = '}' then (codePoint 'u' seen.reverse, plain) else ([], braces (c :: seen))

/-- What is written at the end of the text. -/
def finish : Reading → List Char
  | plain | backslash | afterReturn => []
  | unicode => codePoint 'u' []
  | digits letter _ seen => codePoint letter seen.reverse
  | braces seen => codePoint 'u' seen.reverse

def run : Reading → List Char → List Char
  | r, [] => r.finish
  | r, c :: rest => (r.step c).1 ++ run (r.step c).2 rest

end Reading

/-- The text denoted by the body of a literal. -/
def unescape (body : List Char) : List Char := Reading.plain.run body

/-- The characters between two equal quotes, `'` or `"`. -/
def body? (raw : List Char) : Option (List Char) :=
  match raw with
  | [] => none
  | q :: rest =>
    if q = '"' ∨ q = '\'' then
      match rest.reverse with
      | [] => none
      | last :: front => if last = q then some front.reverse else none
    else none

/-- The text denoted by a string literal, or `none` when the source text is no quoted literal. -/
def value? (raw : String) : Option String :=
  (body? raw.toList).map fun body => String.ofList (unescape body)

end ScriptSpelling.Literal
