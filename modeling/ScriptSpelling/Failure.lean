import ScriptSpelling.Dictionary
import ScriptSpelling.Files.Reading

/-!
# Failures

What keeps the program from checking anything. A failure is told from the outside to its cause.
-/

namespace ScriptSpelling

/-- A settings file that its reader does not take, and why. -/
structure MalformedSettings where
  path : String
  /-- The fault in the words of the reader. -/
  reason : String
deriving Repr, DecidableEq

/-- Why there is nothing to check with, or nothing to check. -/
inductive Failure where
  | settingsUnreadable (path : String) (fault : ReadFault)
  | settingsMalformed (file : MalformedSettings)
  | dictionaryUnreadable (path : String) (fault : ReadFault)
  | dictionary (fault : DictionaryFault)
  | sourceUnreadable (path : String) (fault : ReadFault)
deriving Repr, DecidableEq

/-- The messages of a failure, from the outermost to that of its cause. -/
def Failure.chain : Failure → List String
  | settingsUnreadable path fault => ["Failed to read config file: " ++ path, fault.message]
  | settingsMalformed file => ["Failed to parse config file: " ++ file.path, file.reason]
  | dictionaryUnreadable path fault =>
    ["Failed to read dictionary " ++ path ++ ": " ++ fault.message, fault.message]
  | dictionary fault => ["Failed to load dictionaries", fault.message]
  | sourceUnreadable path fault => ["Failed to read file: " ++ path, fault.message]

end ScriptSpelling
