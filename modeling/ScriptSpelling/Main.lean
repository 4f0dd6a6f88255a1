import ScriptSpelling.Command.Run

/-!
# The program

Runs the command on the files, the variables and the output of the system. The files that a run
depends on are read beforehand: first those with settings, then those that the settings name.
-/

namespace ScriptSpelling.Main

def readSystemFile (path : String) : IO (Except ReadFault String) := do
  if path.contains '\x00' then return .error .invalidPath
  try
    let bytes ← IO.FS.readBinFile path
    match String.fromUTF8? bytes with
    | some text => return .ok text
    | none => return .error .invalidText
  catch
    | .noFileOrDirectory .. => return .error .notFound
    | .inappropriateType _ code _ =>
      return .error (if code == 21 then .isADirectory else .notADirectory)
    | .permissionDenied .. => return .error .permissionDenied
    | e => return .error (.other (toString e))

def hasSystemEntry (path : String) : IO Bool :=
  if path.contains '\x00' then return false else (System.mkFilePath [path]).pathExists

/-- What the system says about a path. -/
structure Seen where
  hasEntry : Bool := false
  content : Except ReadFault String := .error .notFound

/-- The files of the system that have been looked at. -/
abbrev Snapshot := List (String × Seen)

/-- The files that have been looked at; any other counts as missing. -/
def Snapshot.files (snapshot : Snapshot) : Files where
  hasEntry path := ((snapshot.lookup path).getD {}).hasEntry
  read path := ((snapshot.lookup path).getD {}).content

/-- The paths that a run for a file depends on, as far as the files in memory tell. -/
def wanted (env : Command.Environment) (files : Files) (path : String) : List String :=
  let settings := (env.directories.map UserDirectories.settingsFile).toList ++ [Config.localFile]
  let dictionaries := match Config.load files env.directories env.readSettings with
    | .ok config => config.dictionaries.flatMap fun d => d.entries :: d.affixes.toList
    | .error _ => []
  settings ++ dictionaries ++ [path]

/-- Looks at all files that a run for a file depends on. The settings come first: they name the
dictionaries. -/
def snapshot (env : Command.Environment) (path : String) : IO Snapshot := do
  let read (known : Snapshot) (paths : List String) : IO Snapshot :=
    paths.foldlM (fun known path => do
      if (known.lookup path).isSome then return known
      else return (path, { hasEntry := ← hasSystemEntry path, content := ← readSystemFile path }) ::
        known) known
  let settings ← read [] (wanted env (Snapshot.files []) path)
  read settings (wanted env settings.files path)

def run (arguments : List String) : IO UInt32 := do
  let names := ["HOME", "XDG_CONFIG_HOME", "XDG_DATA_HOME", "CLICOLOR", "CLICOLOR_FORCE",
    "NO_COLOR"]
  let described ← names.filterMapM fun name => do return (← IO.getEnv name).map (name, ·)
  let env := Command.Environment.ofVariables (fun name => described.lookup name)
    (← (← IO.getStdout).isTty)
  let files ←
    match Command.readArguments none arguments with
    | .ok (.check path) => snapshot env path
    | _ => pure []
  let outcome := Command.run env files.files arguments
  IO.print outcome.stdout
  IO.eprint outcome.stderr
  return outcome.code.toUInt32

end ScriptSpelling.Main

def main (arguments : List String) : IO UInt32 := ScriptSpelling.Main.run arguments
