/-!
# Paths

Names of files as text, with slashes between their parts. Joining and taking the parent keep the
text as it is: nothing is resolved or tidied.
-/

namespace ScriptSpelling.Files

def isAbsolute (path : List Char) : Bool := path.head? == some '/'

/-- The path seen from a base directory. An absolute path stays as it is, and an empty base adds
nothing. -/
def joinChars (base path : List Char) : List Char :=
  if isAbsolute path || base.isEmpty then path
  else if base.getLast? == some '/' then base ++ path
  else base ++ '/' :: path

def join (base path : String) : String := String.ofList (joinChars base.toList path.toList)

/-- The parts of a path between slashes. -/
def parts : List Char → List (List Char)
  | [] => [[]]
  | c :: rest =>
    if c == '/' then [] :: parts rest
    else
      match parts rest with
      | part :: more => (c :: part) :: more
      | [] => [[c]]

/-- Whether a part names nothing: it is empty or a single dot. -/
def isIdle (part : List Char) : Bool := part.isEmpty || part == ['.']

/-- The directory part of a path, and the empty path for one without parts. Idle parts at the end
do not count, but a path that starts with a dot keeps it. -/
def parentChars (path : List Char) : List Char :=
  let absolute := isAbsolute path
  let dotted := (parts path).head? == some ['.']
  let body := if absolute then path.drop 1 else path
  let names := (parts body).reverse.dropWhile isIdle
  let kept := ((names.drop 1).dropWhile isIdle).reverse
  if kept.isEmpty then
    if absolute && !names.isEmpty then ['/']
    else if dotted && !names.isEmpty then ['.']
    else []
  else (if absolute then ['/'] else []) ++ List.intercalate ['/'] kept

def parent (path : String) : String := String.ofList (parentChars path.toList)

end ScriptSpelling.Files
