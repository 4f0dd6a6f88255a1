import ScriptSpelling.Files.Path
import ScriptSpelling.Files.Reading

/-!
# File systems in memory

A tree of directories and files, and what a path in it leads to. Parts of a path are followed one
by one: each but the last must lead to a directory that may be searched.
-/

namespace ScriptSpelling

inductive FileEntry where
  | text (content : String)
  /-- Bytes that are no text. -/
  | bytes
  | directory
  /-- A directory without any permission. -/
  | locked
deriving Repr, DecidableEq

def FileEntry.content : FileEntry → Except ReadFault String
  | text content => .ok content
  | bytes => .error .invalidText
  | directory => .error .isADirectory
  | locked => .error .permissionDenied

/-- A file system: the entries by their place. Every place above an entry is a directory. -/
structure FileTree where
  entries : List (List String × FileEntry)
deriving Repr

namespace FileTree

/-- The parts of a path that are followed. -/
def names (path : String) : List String :=
  ((Files.parts path.toList).filter (!·.isEmpty)).map String.ofList

/-- The file system with the given entries at absolute paths. -/
def ofPaths (entries : List (String × FileEntry)) : FileTree :=
  ⟨entries.map fun (path, entry) => (names path, entry)⟩

def entryAt? (t : FileTree) (place : List String) : Option FileEntry :=
  match t.entries.find? (·.1 == place) with
  | some (_, entry) => some entry
  | none => if t.entries.any (place.isPrefixOf ·.1) then some .directory else none

/-- The place to which a part of a path leads from a directory. -/
def step (place : List String) (part : String) : List String :=
  if part == "." then place else if part == ".." then place.dropLast else place ++ [part]

/-- The place that the remaining parts of a path lead to. -/
def follow (t : FileTree) : List String → List String → Except ReadFault (List String)
  | place, [] => .ok place
  | place, part :: more =>
    match t.entryAt? place with
    | some .directory => follow t (step place part) more
    | some .locked => .error .permissionDenied
    | some _ => .error .notADirectory
    | none => .error .notFound

/-- What is at the end of a path. One with a slash at its end needs a directory. -/
def arrive (t : FileTree) (needsDirectory : Bool) (place : List String) :
    Except ReadFault FileEntry :=
  match t.entryAt? place with
  | none => .error .notFound
  | some .directory => .ok .directory
  | some .locked => .ok .locked
  | some entry => if needsDirectory then .error .notADirectory else .ok entry

/-- What a path leads to from the working directory. -/
def find (t : FileTree) (working : List String) (path : String) : Except ReadFault FileEntry :=
  let cs := path.toList
  if cs.contains '\x00' then .error .invalidPath
  else if cs.isEmpty then .error .notFound
  else
    let start := if Files.isAbsolute cs then [] else working
    (t.follow start (names path)).bind (t.arrive (cs.getLast? == some '/'))

/-- The file system seen from the working directory at a place. There is something at a path if
the path leads to it, whether or not it can be read. -/
def files (t : FileTree) (working : List String) : Files where
  hasEntry path := (t.find working path).isOk
  read path := (t.find working path).bind FileEntry.content

end FileTree

end ScriptSpelling
