/-!
# Values of a settings document

The values that a TOML document holds. A table remembers how it came about, for that decides
whether it may still be added to.
-/

namespace ScriptSpelling.Toml

/-- How a table came about. -/
inductive Origin where
  /-- Between braces: it is complete. -/
  | inline
  /-- By a header of its own. -/
  | header
  /-- By the header of a table below it. -/
  | implied
  /-- By a key with dots. -/
  | dotted
deriving Repr, DecidableEq

/-- A value. Numbers other than integers, and dates, are kept as they are written. -/
inductive Value where
  | string (text : String)
  | integer (value : Int)
  | boolean (value : Bool)
  | float (text : String)
  | date (text : String)
  /-- With `open`, it is made of headers in double brackets. -/
  | array (growing : Bool) (items : List Value)
  | table (origin : Origin) (entries : List (String × Value))
deriving Repr

/-- What is under each key of a table. -/
abbrev Entries := List (String × Value)

def Entries.get? (entries : Entries) (key : String) : Option Value := entries.lookup key

/-- The entries with another value under a key, in its place if there was one. -/
def Entries.set (entries : Entries) (key : String) (value : Value) : Entries :=
  if (entries.get? key).isSome then
    entries.map fun (k, v) => if k == key then (k, value) else (k, v)
  else entries ++ [(key, value)]

/-- Changes the table that a path of keys leads to. Tables that are missing on the way are made.
With `dots`, the path is written as a key with dots and does not lead into a table with a header.
-/
def within (dots : Bool) (change : Origin → Entries → Option Entries) :
    List String → Origin → Entries → Option Entries
  | [], origin, entries => change origin entries
  | key :: path, _, entries =>
    match entries.get? key with
    | none => do
      let origin := if dots then .dotted else .implied
      let below ← within dots change path origin []
      return entries.set key (.table origin below)
    | some (.table .inline _) => none
    | some (.table origin below) => do
      if dots && origin == .header then none
      else
        let below ← within dots change path origin below
        return entries.set key (.table origin below)
    | some (.array true items) =>
      match items.getLast? with
      | some (.table origin below) => do
        let below ← within dots change path origin below
        return entries.set key (.array true (items.dropLast ++ [.table origin below]))
      | _ => none
    | some _ => none

/-- Puts a value under a new key, which is the last of a path of keys with dots. -/
def put (path : List String) (value : Value) (origin : Origin) (entries : Entries) :
    Option Entries :=
  match path.getLast? with
  | none => none
  | some key =>
    let above := path.dropLast
    let change (origin : Origin) (entries : Entries) : Option Entries :=
      if (origin == .dotted) == above.isEmpty || (entries.get? key).isSome then none
      else some (entries.set key value)
    within true change above origin entries

/-- Opens the table of a header. It may have been implied before, but nothing else. -/
def openTable (path : List String) (entries : Entries) : Option Entries :=
  match path.getLast? with
  | none => none
  | some key =>
    let change (_ : Origin) (entries : Entries) : Option Entries :=
      match entries.get? key with
      | none => some (entries.set key (.table .header []))
      | some (.table .implied below) => some (entries.set key (.table .header below))
      | some _ => none
    within false change path.dropLast .header entries

/-- Opens one more table of a header in double brackets. -/
def openElement (path : List String) (entries : Entries) : Option Entries :=
  match path.getLast? with
  | none => none
  | some key =>
    let change (_ : Origin) (entries : Entries) : Option Entries :=
      match entries.get? key with
      | none => some (entries.set key (.array true [.table .header []]))
      | some (.array true items) =>
        some (entries.set key (.array true (items ++ [.table .header []])))
      | some _ => none
    within false change path.dropLast .header entries

end ScriptSpelling.Toml
