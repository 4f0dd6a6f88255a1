/-!
# Reading files

What can go wrong when a file is read as text. `Files` is a whole file system as it is seen from
the working directory.
-/

namespace ScriptSpelling

/-- Why a file cannot be read as text. -/
inductive ReadFault where
  /-- There is nothing at the path. -/
  | notFound
  /-- The path leads through something that is no directory. -/
  | notADirectory
  | isADirectory
  | permissionDenied
  /-- The path holds the character NUL. -/
  | invalidPath
  /-- The bytes are not valid UTF-8. -/
  | invalidText
  /-- Anything else, in the words of the system. -/
  | other (message : String)
deriving Repr, DecidableEq

def ReadFault.message : ReadFault → String
  | notFound => "No such file or directory (os error 2)"
  | notADirectory => "Not a directory (os error 20)"
  | isADirectory => "Is a directory (os error 21)"
  | permissionDenied => "Permission denied (os error 13)"
  | invalidPath => "file name contained an unexpected NUL byte"
  | invalidText => "stream did not contain valid UTF-8"
  | other message => message

/-- A file system. Whether there is something at a path and what reading it gives are two
questions: what is there need not be readable, and what cannot be reached counts as absent, for
whatever reason. -/
structure Files where
  hasEntry : String → Bool
  read : String → Except ReadFault String

end ScriptSpelling
