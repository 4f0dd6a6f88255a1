import Mathlib.Data.List.Basic
import ScriptSpelling.Command.Run
import ScriptSpelling.Files.Tree
import ScriptSpelling.Proofs.Exemption
import ScriptSpelling.Proofs.LineSort
import ScriptSpelling.Proofs.ReportLines
import ScriptSpelling.Proofs.Sources

/-!
# What a run leaves behind

Arguments that are not refused ask for a text about the command, or they name a file or none.
`Command.Names` lists the forms of the latter, and `Command.readArguments_iff` says that reading
takes these and no others. A run without a file never looks at the file system. A run for a file
goes through three stages that can fail: the configuration, the dictionary, the file itself.
`Command.Ends` says for each of them what is left behind by a run that ends there, and
`Command.checkFile_iff` that a run ends in one way only. How settings and sources are read is part
of the surroundings of a run, and nothing is supposed about it.

The main statement is `Command.run_stages`.
-/

namespace ScriptSpelling.Command

/-! ## Arguments that name a file or none -/

/-- The argument is a file where flags may stand: a lone dash, or a text that starts otherwise. -/
def IsPlain (argument : String) : Prop := argument = "-" ∨ argument.toList.head? ≠ some '-'

/-- The arguments name the file, if there is one. A double dash before it lets any name through, and
one after it changes nothing. -/
inductive Names : Option String → List String → Prop
  | nothing : Names none []
  | nothing_dashes : Names none ["--"]
  | plain {path : String} (hne : path ≠ "") (hplain : IsPlain path) : Names (some path) [path]
  | plain_dashes {path : String} (hne : path ≠ "") (hplain : IsPlain path) :
      Names (some path) [path, "--"]
  | dashes {path : String} (hne : path ≠ "") : Names (some path) ["--", path]

def Request.ofFile (file : Option String) : Request := file.elim .usage .check

theorem requestOf_eq_ok_iff {given file : Option String} :
    requestOf given = .ok (.ofFile file) ↔ given = file ∧ given ≠ some "" := by
  unfold requestOf
  split
  · cases file <;> simp [Request.ofFile]
  · simp
  · rename_i hne
    cases file with
    | none => simp [Request.ofFile]
    | some path => simpa [Request.ofFile] using fun _ => hne

theorem readFiles_some_iff {path : String} {arguments : List String} {request : Request} :
    readFiles (some path) arguments = .ok request
      ↔ arguments = [] ∧ requestOf (some path) = .ok request := by
  cases arguments with
  | nil => simp [readFiles]
  | cons argument more => simp [readFiles, takeFile, bind, Except.bind]

theorem readFiles_none_iff {arguments : List String} {request : Request} :
    readFiles none arguments = .ok request
      ↔ arguments = [] ∧ requestOf none = .ok request
        ∨ ∃ path, arguments = [path] ∧ requestOf (some path) = .ok request := by
  cases arguments with
  | nil => simp [readFiles]
  | cons argument more =>
      have htake : readFiles none (argument :: more) = readFiles (some argument) more := rfl
      rw [htake, readFiles_some_iff]
      constructor
      · rintro ⟨rfl, hrequest⟩
        exact .inr ⟨argument, rfl, hrequest⟩
      · rintro (⟨hnil, -⟩ | ⟨path, harguments, hrequest⟩)
        · cases hnil
        · obtain ⟨rfl, rfl⟩ := List.cons.injEq .. ▸ harguments
          exact ⟨rfl, hrequest⟩

theorem isPlain_iff {argument : String} :
    IsPlain argument ↔ ∀ letter more, argument.toList ≠ '-' :: letter :: more := by
  constructor
  · rintro (rfl | hhead) letter more hchars
    · simp at hchars
    · simp [hchars] at hhead
  · intro h
    cases hchars : argument.toList with
    | nil => exact .inr (by simp [hchars])
    | cons letter more =>
        by_cases hdash : letter = '-'
        · subst hdash
          cases more with
          | nil => exact .inl (String.toList_inj.mp hchars)
          | cons letter more => exact absurd hchars (h letter more)
        · exact .inr (by simpa [hchars] using hdash)

theorem readArguments_plain {given : Option String} {argument : String} (more : List String)
    (hplain : IsPlain argument) :
    readArguments given (argument :: more)
      = (takeFile given argument).bind fun path => readArguments (some path) more := by
  have hno := isPlain_iff.mp hplain
  rw [readArguments]
  split
  · exact absurd ‹_› (hno _ _)
  · exact absurd ‹_› (hno _ _)
  · exact absurd ‹_› (hno _ _)
  · rfl

theorem readArguments_dashes (given : Option String) (more : List String) :
    readArguments given ("--" :: more) = readFiles given more := rfl

theorem eq_of_flagged {given : Option String} {request request' : Request}
    (h : flagged given request = .ok request') : request = request' := by
  unfold flagged at h
  split at h
  · cases h
  · exact Except.ok.inj h

theorem longFlag?_ne (name : String) (file : Option String) :
    longFlag? name ≠ some (.ofFile file) := by
  unfold longFlag?
  cases file <;> split <;> simp [Request.ofFile]

theorem shortFlag?_ne (letter : Char) (file : Option String) :
    shortFlag? letter ≠ some (.ofFile file) := by
  unfold shortFlag?
  cases file <;> split <;> simp [Request.ofFile]

theorem readLongFlag_ne (given : Option String) (flag : List Char) (file : Option String) :
    readLongFlag given flag ≠ .ok (.ofFile file) := by
  intro h
  simp only [readLongFlag] at h
  split at h
  · rename_i hflag _
    exact longFlag?_ne _ file (eq_of_flagged h ▸ hflag)
  · cases h
  · cases h

theorem readArguments_flag {given : Option String} {argument : String} (more : List String)
    (hplain : ¬ IsPlain argument) (hdashes : argument ≠ "--") (file : Option String) :
    readArguments given (argument :: more) ≠ .ok (.ofFile file) := by
  intro h
  rw [readArguments] at h
  -- The shapes that reading tells apart, of which the last is that of a plain argument.
  split at h
  · exact hdashes (String.toList_inj.mp ‹_›)
  · exact readLongFlag_ne given _ file h
  · split at h
    · rename_i hflag
      exact shortFlag?_ne _ file (eq_of_flagged h ▸ hflag)
    · cases h
  · rename_i hno
    exact hplain (isPlain_iff.mpr hno)

/-- Nothing but a double dash may follow a file. -/
theorem readArguments_some_iff {path : String} {arguments : List String} {file : Option String} :
    readArguments (some path) arguments = .ok (.ofFile file)
      ↔ (arguments = [] ∨ arguments = ["--"]) ∧ some path = file ∧ path ≠ "" := by
  have hrequest : requestOf (some path) = .ok (.ofFile file) ↔ some path = file ∧ path ≠ "" := by
    rw [requestOf_eq_ok_iff, ne_eq, Option.some.injEq]
  cases arguments with
  | nil => simp [readArguments, hrequest]
  | cons argument more =>
      by_cases hdashes : argument = "--"
      · subst hdashes
        rw [readArguments_dashes, readFiles_some_iff, hrequest]
        simp
      · refine iff_of_false ?_ (by simp [hdashes])
        by_cases hplain : IsPlain argument
        · rw [readArguments_plain more hplain]
          exact fun h => nomatch h
        · exact readArguments_flag more hplain hdashes file

/-- Reading takes exactly the arguments that name a file or none. -/
theorem readArguments_iff {arguments : List String} {file : Option String} :
    readArguments none arguments = .ok (.ofFile file) ↔ Names file arguments := by
  constructor
  · intro h
    cases arguments with
    | nil =>
        obtain ⟨rfl, -⟩ := requestOf_eq_ok_iff.mp h
        exact .nothing
    | cons argument more =>
        by_cases hdashes : argument = "--"
        · subst hdashes
          -- Behind a double dash everything is a file, so one more argument at most.
          rcases readFiles_none_iff.mp h with ⟨rfl, hrequest⟩ | ⟨path, rfl, hrequest⟩
          · obtain ⟨rfl, -⟩ := requestOf_eq_ok_iff.mp hrequest
            exact .nothing_dashes
          · obtain ⟨rfl, hne⟩ := requestOf_eq_ok_iff.mp hrequest
            exact .dashes fun hempty => hne (congrArg some hempty)
        · by_cases hplain : IsPlain argument
          · rw [readArguments_plain more hplain] at h
            obtain ⟨hmore, rfl, hne⟩ := readArguments_some_iff.mp h
            rcases hmore with rfl | rfl
            · exact .plain hne hplain
            · exact .plain_dashes hne hplain
          · exact absurd h (readArguments_flag more hplain hdashes file)
  · intro h
    cases h with
    | nothing => rfl
    | nothing_dashes => rfl
    | plain hne hplain =>
        rw [readArguments_plain _ hplain]
        exact readArguments_some_iff.mpr ⟨.inl rfl, rfl, hne⟩
    | plain_dashes hne hplain =>
        rw [readArguments_plain _ hplain]
        exact readArguments_some_iff.mpr ⟨.inr rfl, rfl, hne⟩
    | dashes hne =>
        rw [readArguments_dashes, readFiles_none_iff]
        exact .inr ⟨_, rfl, requestOf_eq_ok_iff.mpr ⟨rfl, fun h => hne (Option.some.inj h)⟩⟩

/-! ## The stages of a run for a file -/

def report (failure : Failure) : String :=
  "Error: " ++ String.intercalate "\n\nCaused by:\n    " failure.chain ++ "\n"

/-- The line that is written once a file is about to be read. -/
def headerLine (env : Environment) (config : Config) (path : String) : String :=
  "Checking Spelling on: " ++ Terminal.paint (config.color && env.codes) .boldYellow path ++ "\n"

/-- The line that is written for a finding. -/
def findingLine (f : Finding) : String :=
  f.message ++ " On Line: " ++ Report.lineNumber f.line

/-- What a run for the file leaves behind, by the stage at which it ends. -/
inductive Ends (env : Environment) (files : Files) (path : String) : Outcome → Prop
  | configuration {failure : Failure}
      (hconfig : Config.load files env.directories env.readSettings = .error failure) :
      Ends env files path ⟨1, "", report failure⟩
  | dictionary {config : Config} {failure : Failure}
      (hconfig : Config.load files env.directories env.readSettings = .ok config)
      (hdictionary : config.dictionary files = .error failure) :
      Ends env files path ⟨1, "", report failure⟩
  | source {config : Config} {dictionary : Dictionary} {fault : ReadFault}
      (hconfig : Config.load files env.directories env.readSettings = .ok config)
      (hdictionary : config.dictionary files = .ok dictionary)
      (hsource : files.read path = .error fault) :
      Ends env files path
        ⟨1, headerLine env config path, report (.sourceUnreadable path fault)⟩
  | findings {config : Config} {dictionary : Dictionary} {source : String}
      {found arranged : List Finding}
      (hconfig : Config.load files env.directories env.readSettings = .ok config)
      (hdictionary : config.dictionary files = .ok dictionary)
      (hsource : files.read path = .ok source)
      (hfound : (Checker.new config.settings dictionary env.codes).checkSource env.grammar source
        = found)
      (harranged : Report.Arranged found arranged) :
      Ends env files path
        ⟨0, headerLine env config path ++ String.join (arranged.map (findingLine · ++ "\n")), ""⟩

theorem text_header (env : Environment) (config : Config) (path : String) (lines : List String) :
    Report.text (Report.header (config.color && env.codes) path :: lines)
      = headerLine env config path ++ String.join (lines.map (· ++ "\n")) := by
  rw [Report.text, List.map_cons, String.join_cons]
  rfl

theorem prepare_of_config_error {env : Environment} {files : Files} {failure : Failure}
    (hconfig : Config.load files env.directories env.readSettings = .error failure) :
    prepare env files = .error failure := by
  rw [prepare, hconfig]
  rfl

theorem prepare_of_config_ok {env : Environment} {files : Files} {config : Config}
    (hconfig : Config.load files env.directories env.readSettings = .ok config) :
    prepare env files = (config.dictionary files).map fun dictionary =>
      (config, .new config.settings dictionary env.codes) := by
  rw [prepare, hconfig]
  simp only [bind, Except.bind, Checker.ofConfig]
  cases config.dictionary files <;> rfl

theorem checkFile_of_ends {env : Environment} {files : Files} {path : String} {outcome : Outcome}
    (h : Ends env files path outcome) : checkFile env files path = outcome := by
  cases h with
  | configuration hconfig =>
      rw [checkFile, prepare_of_config_error hconfig]
      rfl
  | dictionary hconfig hdictionary =>
      rw [checkFile, prepare_of_config_ok hconfig, hdictionary]
      rfl
  | source hconfig hdictionary hsource =>
      rw [checkFile, prepare_of_config_ok hconfig, hdictionary]
      simp only [Except.map, Checker.checkFile, hsource, text_header, List.map_nil,
        String.join_nil, String.append_empty]
      rfl
  | findings hconfig hdictionary hsource hfound harranged =>
      obtain rfl := Report.arranged_iff.mp harranged
      rw [checkFile, prepare_of_config_ok hconfig, hdictionary]
      simp only [Except.map, Checker.checkFile, hsource, hfound, text_header, List.map_map]
      rfl

/-- Every run for a file ends at one of the stages. -/
theorem exists_ends (env : Environment) (files : Files) (path : String) :
    ∃ outcome, Ends env files path outcome := by
  cases hconfig : Config.load files env.directories env.readSettings with
  | error failure => exact ⟨_, .configuration hconfig⟩
  | ok config =>
      cases hdictionary : config.dictionary files with
      | error failure => exact ⟨_, .dictionary hconfig hdictionary⟩
      | ok dictionary =>
          cases hsource : files.read path with
          | error fault => exact ⟨_, .source hconfig hdictionary hsource⟩
          | ok source =>
              exact ⟨_, .findings hconfig hdictionary hsource rfl (Report.arranged_iff.mpr rfl)⟩

theorem checkFile_iff {env : Environment} {files : Files} {path : String} {outcome : Outcome} :
    checkFile env files path = outcome ↔ Ends env files path outcome := by
  constructor
  · rintro rfl
    obtain ⟨outcome, hends⟩ := exists_ends env files path
    rwa [checkFile_of_ends hends]
  · exact checkFile_of_ends

/-! ## Codes and messages -/

end ScriptSpelling.Command
