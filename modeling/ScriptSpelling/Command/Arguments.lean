/-!
# Arguments of the command

The command takes one file at most, and two flags that ask for a text instead. After a double dash
everything is a file. The first argument that does not fit is told, except that an empty file name
counts only once nothing else is wrong before a flag or the end.
-/

namespace ScriptSpelling.Command

/-- What the arguments ask for. -/
inductive Request where
  | help
  | version
  | usage
  | check (path : String)
deriving Repr, DecidableEq

/-- Why the arguments are refused. -/
inductive ArgumentFault where
  | unexpected (argument : String)
  | unexpectedValue (value flag : String)
  | emptyFile
deriving Repr, DecidableEq

def ArgumentFault.message : ArgumentFault → String
  | unexpected argument => "unexpected argument '" ++ argument ++ "' found"
  | unexpectedValue value flag =>
    "unexpected value '" ++ value ++ "' for '" ++ flag ++ "' found; no more were expected"
  | emptyFile => "a value is required for '[FILE]' but none was supplied"

/-- A text that a flag asks for. An empty file name before it is refused. -/
def flagged (file : Option String) (request : Request) : Except ArgumentFault Request :=
  if file = some "" then .error .emptyFile else .ok request

/-- What is asked for once all arguments have been seen. -/
def requestOf : Option String → Except ArgumentFault Request
  | none => .ok .usage
  | some "" => .error .emptyFile
  | some path => .ok (.check path)

def takeFile (file : Option String) (argument : String) : Except ArgumentFault String :=
  if file.isSome then .error (.unexpected argument) else .ok argument

/-- Reads the arguments after a double dash. -/
def readFiles (file : Option String) : List String → Except ArgumentFault Request
  | [] => requestOf file
  | argument :: more => do readFiles (some (← takeFile file argument)) more

def longFlag? : String → Option Request
  | "help" => some .help
  | "version" => some .version
  | _ => none

def shortFlag? : Char → Option Request
  | 'h' => some .help
  | 'V' => some .version
  | _ => none

/-- What a flag with two dashes asks for; what follows an equals sign would be its value. -/
def readLongFlag (file : Option String) (flag : List Char) : Except ArgumentFault Request :=
  let name := String.ofList (flag.takeWhile (· != '='))
  match longFlag? name, flag.dropWhile (· != '=') with
  | some request, [] => flagged file request
  | some _, _ :: value => .error (.unexpectedValue (String.ofList value) ("--" ++ name))
  | none, _ => .error (.unexpected ("--" ++ name))

/-- Reads arguments; `file` is the one that was given before. -/
def readArguments (file : Option String) : List String → Except ArgumentFault Request
  | [] => requestOf file
  | argument :: more =>
    match argument.toList with
    | ['-', '-'] => readFiles file more
    | '-' :: '-' :: flag => readLongFlag file flag
    | '-' :: letter :: _ =>
      match shortFlag? letter with
      | some request => flagged file request
      | none => .error (.unexpected (String.ofList ['-', letter]))
    | _ => do readArguments (some (← takeFile file argument)) more

end ScriptSpelling.Command
