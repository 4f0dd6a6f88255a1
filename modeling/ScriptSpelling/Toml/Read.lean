import ScriptSpelling.Toml.Text
import ScriptSpelling.Toml.Value

/-!
# Reading settings documents

`readDocument` gives the entries of a TOML document. Numbers, dates and constants are told by
their first character; arrays may span lines, inline tables may not.
-/

namespace ScriptSpelling.Toml

open Scan

/-! ## Numbers -/

/-- Takes digits, of which single underscores may stand between two, and gives them without. -/
def digits (p : Char → Bool) : Scan (List Char) := do
  let first ← one p
  let more ← collect do
    match ← peek with
    | some '_' =>
      char '_'
      return some (← one p)
    | some c => if p c then return some (← one p) else return none
    | none => return none
  return first :: more

def integerBound : Nat := UInt64.size / 2

def ofDigits (base : Nat) (cs : List Char) : Nat :=
  cs.foldl (fun n c => n * base + (Literal.hexDigit? c).getD 0) 0

/-- Takes an integer with a letter that tells its base. -/
def basedInteger (start : String) (base : Nat) : Scan Value := do
  text start
  let n := ofDigits base (← digits fun c => (Literal.hexDigit? c).any (· < base))
  require (n < integerBound)
  return .integer n

def sign : Scan Bool := do
  match ← peek with
  | some '+' =>
    char '+'
    return false
  | some '-' =>
    char '-'
    return true
  | _ => return false

def decimalDigits : Scan (List Char) := do
  let cs ← digits Char.isDigit
  require (cs.head? != some '0' || cs.length == 1)
  return cs

def decimalInteger : Scan Value := do
  let negative ← sign
  let n := ofDigits 10 (← decimalDigits)
  require (n < integerBound || (negative && n == integerBound))
  return .integer (if negative then -(n : Int) else n)

def integer : Scan Value := do
  if ← meets "0x" then basedInteger "0x" 16
  else if ← meets "0o" then basedInteger "0o" 8
  else if ← meets "0b" then basedInteger "0b" 2
  else decimalInteger

def exponent : Scan Unit := do
  discard (one fun c => c == 'e' || c == 'E')
  discard sign
  discard (digits Char.isDigit)

/-- Takes a float with a fraction or an exponent. -/
def decimalFloat : Scan Unit := do
  discard sign
  discard decimalDigits
  if ← meets "." then
    char '.'
    discard (digits Char.isDigit)
    discard (attempt exponent)
  else exponent

def specialFloat : Scan Unit := do
  discard sign
  either (text "inf") (text "nan")

/-- What the scanner takes, as text. -/
def taken (p : Scan Unit) : Scan String := fun cs =>
  match p cs with
  | some (_, rest) => some (String.ofList (cs.take (cs.length - rest.length)), rest)
  | none => none

def float : Scan Value := do return .float (← taken (either decimalFloat specialFloat))

/-! ## Dates -/

/-- Takes a number of as many digits as given, within bounds. -/
def numberWithin (count low high : Nat) : Scan Nat := do
  let n := ofDigits 10 (← exactly Char.isDigit count)
  require (low ≤ n && n ≤ high)
  return n

def daysIn (year month : Nat) : Nat :=
  if month == 2 then
    if (year % 4 == 0 && year % 100 != 0) || year % 400 == 0 then 29 else 28
  else if [4, 6, 9, 11].contains month then 30
  else 31

def day : Scan Unit := do
  let year ← numberWithin 4 0 9999
  char '-'
  let month ← numberWithin 2 1 12
  char '-'
  discard (numberWithin 2 1 (daysIn year month))

def time : Scan Unit := do
  discard (numberWithin 2 0 23)
  char ':'
  discard (numberWithin 2 0 59)
  char ':'
  discard (numberWithin 2 0 60)
  if ← meets "." then
    char '.'
    discard (one Char.isDigit)
    discard (many Char.isDigit)

/-- Takes the distance of a local time to universal time. -/
def offset : Scan Unit := do
  match ← one fun _ => true with
  | 'Z' | 'z' => return ()
  | '+' | '-' =>
    discard (numberWithin 2 0 23)
    char ':'
    discard (numberWithin 2 0 59)
  | _ => fail

def timeOfDay : Scan Unit := do
  discard (one fun c => c == 'T' || c == 't' || c == ' ')
  time
  discard (attempt offset)

def date : Scan Value := do
  let dayAndTime : Scan Unit := do
    day
    discard (attempt timeOfDay)
  return .date (← taken (either dayAndTime time))

/-! ## Values -/

/-- Takes the items of an array, of which the last may have a comma after it. -/
def items (value : Scan Value) : Scan (List Value) := do
  let items ← collect do
    gap
    if ← meets "]" then return none
    let item ← value
    gap
    if ← meets "," then char ',' else require (← meets "]")
    return some item
  gap
  return items

/-- Takes one entry of an inline table and puts it there. -/
def inlineEntry (value : Scan Value) (entries : Entries) : Scan Entries := do
  let path ← key
  char '='
  space
  let item ← value
  space
  match put path item .inline entries with
  | some entries => return entries
  | none => fail

/-- Takes the entries of an inline table after the first ones; the fuel bounds their number. -/
def inlineEntries (value : Scan Value) : Nat → Entries → Scan Entries
  | 0, _ => fail
  | fuel + 1, entries => do
    let entries ← inlineEntry value entries
    if ← meets "," then
      char ','
      inlineEntries value fuel entries
    else return entries

/-- Takes a value; `nested` takes those in arrays and inline tables, where there may be any. -/
def valueAround (nested : Option (Scan Value)) : Scan Value := do
  match ← peek, nested with
  | some '"', _ | some '\'', _ => return .string (← string)
  | some '[', some value =>
    char '['
    let items ← items value
    char ']'
    return .array false items
  | some '{', some value =>
    char '{'
    space
    if ← meets "\x7d" then
      char '}'
      return .table .inline []
    let entries ← fun cs => inlineEntries value cs.length [] cs
    char '}'
    return .table .inline entries
  | some 't', _ =>
    text "true"
    return .boolean true
  | some 'f', _ =>
    text "false"
    return .boolean false
  | _, _ => either date (either float integer)

/-- Takes a value in which arrays and inline tables nest at most as deep as given. -/
def value : Nat → Scan Value
  | 0 => valueAround none
  | depth + 1 => valueAround (some (value depth))

/-- The deepest nesting of arrays and inline tables. -/
def deepest : Nat := 79

/-! ## Documents -/

/-- A document that has been read up to the end of a line: its entries, and the path of the table
to which further lines belong. -/
structure Document where
  entries : Entries
  path : List String

/-- Takes a header and opens its table. -/
def header (d : Document) : Scan Document := do
  char '['
  let element ← meets "["
  if element then char '['
  let path ← key
  char ']'
  if element then char ']'
  restOfLine
  match if element then openElement path d.entries else openTable path d.entries with
  | some entries => return { entries, path }
  | none => fail

/-- Takes a key with its value and puts it into the table it belongs to. -/
def assignment (d : Document) : Scan Document := do
  let path ← key
  char '='
  space
  let item ← value deepest
  restOfLine
  match within false (put path item) d.path .header d.entries with
  | some entries => return { d with entries }
  | none => fail

/-- Takes the lines of a document; the fuel bounds their number. -/
def lines : Nat → Document → Scan Document
  | 0, _ => fail
  | fuel + 1, d => do
    gap
    match ← peek with
    | none => return d
    | some '[' => lines fuel (← header d)
    | some _ => lines fuel (← assignment d)

/-- The entries of a document, which may start with a byte order mark. -/
def readDocument (text : String) : Option Entries :=
  let cs := match text.toList with
    | '\ufeff' :: rest => rest
    | cs => cs
  (lines (cs.length + 1) ⟨[], []⟩ cs).map fun (d, _) => d.entries

end ScriptSpelling.Toml
