import ScriptSpelling.Command.Arguments
import ScriptSpelling.Config.Effective
import ScriptSpelling.Report

/-!
# Running the command

A run of the command goes through stages: arguments, configuration, dictionaries, header, source
file, findings. A stage that fails ends the run, and what was written before it stays.
-/

namespace ScriptSpelling.Command

/-! ## Surroundings -/

/-- What the command takes from its surroundings besides files, and what it reads texts with. -/
structure Environment where
  /-- The directories of the user, where they are known. -/
  directories : Option UserDirectories
  /-- Whether the output may hold codes for a terminal. -/
  codes : Bool
  readSettings : SettingsReader := ConfigLayer.ofToml
  grammar : Syntax.Grammar := Syntax.scriptTree

/-- A directory that a variable names by an absolute path, or else one in the home directory. -/
def userDirectory (lookup : String → Option String) (name fallback home : String) : String :=
  match lookup name with
  | some path => if Files.isAbsolute path.toList then path else Files.join home fallback
  | none => Files.join home fallback

def userDirectories (lookup : String → Option String) : Option UserDirectories :=
  match lookup "HOME" with
  | none | some "" => none
  | some home => some {
      config := Files.join (userDirectory lookup "XDG_CONFIG_HOME" ".config" home) "lintspell"
      data := Files.join (userDirectory lookup "XDG_DATA_HOME" ".local/share" home) "lintspell" }

/-- Whether a variable is set to anything but zero. -/
def isOn (lookup : String → Option String) (name : String) : Option Bool :=
  (lookup name).map (· != "0")

/-- Whether the output may hold codes: always when forced, and otherwise on a terminal unless the
user does not want them. -/
def mayHoldCodes (lookup : String → Option String) (isTerminal : Bool) : Bool :=
  if isOn lookup "CLICOLOR_FORCE" == some true then true
  else if (lookup "NO_COLOR").isSome then false
  else (isOn lookup "CLICOLOR").getD true && isTerminal

def Environment.ofVariables (lookup : String → Option String) (isTerminal : Bool) :
    Environment :=
  { directories := userDirectories lookup, codes := mayHoldCodes lookup isTerminal }

/-! ## Runs -/

/-- What a run leaves behind. -/
structure Outcome where
  code : Nat
  stdout : String
  stderr : String
deriving Repr, DecidableEq

def help : String := Report.text [
  "Checks spelling of identifiers, strings and comments in js files",
  "",
  "Usage: lintspell [FILE]",
  "",
  "Arguments:",
  "  [FILE]  JavaScript file to check",
  "",
  "Options:",
  "  -h, --help     Print help",
  "  -V, --version  Print version"]

def version : String := "lintspell 0.1.0\n"

def Outcome.success (stdout : String) : Outcome := ⟨0, stdout, ""⟩

def Outcome.failure (stdout : String) (failure : Failure) : Outcome :=
  ⟨1, stdout, "Error: " ++ String.intercalate "\n\nCaused by:\n    " failure.chain ++ "\n"⟩

def Outcome.refusal (fault : ArgumentFault) : Outcome :=
  ⟨2, "", "error: " ++ fault.message ++
    "\n\nUsage: lintspell [FILE]\n\nFor more information, try '--help'.\n"⟩

/-- The configuration and the checker of a run. -/
def prepare (env : Environment) (files : Files) : Except Failure (Config × Checker) := do
  let config ← Config.load files env.directories env.readSettings
  let checker ← Checker.ofConfig config files env.codes
  return (config, checker)

def checkFile (env : Environment) (files : Files) (path : String) : Outcome :=
  match prepare env files with
  | .error failure => .failure "" failure
  | .ok (config, checker) =>
    let header := Report.header (config.color && env.codes) path
    match checker.checkFile files path env.grammar with
    | .error failure => .failure (Report.text [header]) failure
    | .ok findings =>
      .success (Report.text (header :: (Report.byLine findings).map Report.line))

def run (env : Environment) (files : Files) (arguments : List String) : Outcome :=
  match readArguments none arguments with
  | .error fault => .refusal fault
  | .ok .help => .success help
  | .ok .version => .success version
  | .ok .usage => .success (Report.text (Report.usage env.codes))
  | .ok (.check path) => checkFile env files path

end ScriptSpelling.Command
