import ScriptSpelling.Proofs.Exemption
import ScriptSpelling.Proofs.Lines
import ScriptSpelling.Proofs.ReportLines
import ScriptSpelling.Proofs.Runs
import ScriptSpelling.Proofs.ScriptTexts

/-!
# The lines that a run prints

A run for a file prints a header and the line of each finding. Such a line is one line of the output
as long as no line break gets into the message. The message of a fault tells of one line of the
source at most, a word holds small letters alone, and the text that is quoted is that of a name,
of a line comment or of a string. What grammar reads the source does not matter as long as names,
line comments and the kinds of absent tokens hold no line break (`Syntax.Unbroken`); the grammar of
this library is such a one (`Syntax.unbroken_scriptTree`). But the value of a string is quoted as it
is, and may hold as many line breaks as the string denotes (`Finding.breaks`). So strings, and
nothing else, take more than one line.

The main statement is `Command.printed_lines`.
-/

namespace ScriptSpelling

open Syntax

/-! ## Sources without line breaks in their faults -/

namespace Syntax

theorem newline_not_mem_firstToken (source : List Char) (n : Node) :
    '\n' ∉ firstToken source n := by
  intro hmem
  have hline := Text.trimChars_subset _ hmem
  cases hlines : Text.lines ((textOf? source n.firstLeaf.label).getD []) with
  | nil =>
      rw [hlines] at hline
      exact absurd hline List.not_mem_nil
  | cons first more =>
      rw [hlines] at hline
      exact Text.newline_not_mem_lines (hlines ▸ List.mem_cons_self) hline

/-- What is told of the fault of a source is on one line if the kind of an absent token is. -/
theorem newline_not_mem_description (source : List Char) (n : Node)
    (h : ∀ kind, (faultAt source n).cause = .missing kind → '\n' ∉ kind.name.toList) :
    '\n' ∉ (faultAt source n).cause.description.toList := by
  have hline := newline_not_mem_firstToken source n
  unfold faultAt at h ⊢
  dsimp only at h ⊢
  split at h
  next hmissing =>
    have hopening : '\n' ∉ "Missing ".toList := by decide
    rw [if_pos hmissing]
    change '\n' ∉ ("Missing " ++ n.kind.name).toList
    rw [String.toList_append]
    exact List.not_mem_append hopening (h n.kind rfl)
  next hmissing =>
    rw [if_neg hmissing]
    split
    · decide
    · have hopening : '\n' ∉ "Unexpected token ".toList := by decide
      change '\n' ∉ ("Unexpected token " ++ String.ofList (firstToken source n)).toList
      rw [String.toList_append]
      refine List.not_mem_append hopening ?_
      rwa [String.toList_ofList]

/-- Where a source has been read, its names and its line comments are on one line each; where it
could not be, the kind of an absent token holds no line break. -/
structure Unbroken (outcome : Except SyntaxFault SourceTree) : Prop where
  name : ∀ tree, outcome = .ok tree → ∀ node ∈ Category.identifier.select tree,
    '\n' ∉ node.text.toList
  comment : ∀ tree, outcome = .ok tree → ∀ node ∈ Category.comment.select tree,
    ∀ rest, node.text.toList = '/' :: '/' :: rest → '\n' ∉ rest
  missing : ∀ fault kind, outcome = .error fault → fault.cause = .missing kind →
    '\n' ∉ kind.name.toList

end Syntax

theorem Category.exists_of_mem_select {category : Category} {tree : SourceTree}
    {node : SourceNode} (h : node ∈ category.select tree) :
    ∃ n ∈ tree.root.preorder, category.Selects n
      ∧ textOf? tree.source n.label = some node.text.toList := by
  rw [select_eq_filterMap, List.mem_filterMap] at h
  obtain ⟨n, hn, hnode⟩ := h
  split at hnode
  · obtain ⟨text, htext, rfl⟩ := Option.map_eq_some_iff.mp hnode
    exact ⟨n, hn, ‹_›, by rw [htext, String.toList_ofList]⟩
  · cases hnode

/-- The sources that the grammar of this library reads. -/
theorem Syntax.unbroken_scriptTree (source : String) : Unbroken (scriptTree.read source) := by
  rcases parse_spec source with ⟨root, hparse, hroot⟩ | ⟨n, hparse, hfault⟩
  · rw [hparse]
    refine ⟨?_, ?_, fun _ _ h => nomatch h⟩
    · rintro tree ⟨⟩ node hnode hmem
      obtain ⟨n, hn, hselects, htext⟩ := Category.exists_of_mem_select hnode
      exact absurd ((hroot n hn _ htext).name hselects _ hmem) (by decide)
    · rintro tree ⟨⟩ node hnode rest hslashes hmem
      obtain ⟨n, hn, hselects, htext⟩ := Category.exists_of_mem_select hnode
      exact absurd ((hroot n hn _ htext).comment hselects rest hslashes _ hmem) (by decide)
  · rw [hparse]
    refine ⟨(fun _ h => nomatch h), (fun _ h => nomatch h), ?_⟩
    rintro fault kind ⟨⟩ hcause
    have hkinds : ∀ kind ∈ [Kind.identifier, .token "\x7d", .token ";", .token ")", .token "]"],
        '\n' ∉ kind.name.toList := by decide
    rcases hfault with ⟨-, hmissing⟩ | ⟨hmissing, hkind⟩
    · simp only [faultAt, hmissing, Bool.false_eq_true, if_false] at hcause
      split at hcause <;> cases hcause
    · simp only [faultAt, hmissing, if_true, FaultCause.missing.injEq] at hcause
      exact hkinds kind (hcause ▸ hkind)

/-! ## Line breaks of findings -/

theorem Category.mem_select_of_nodeAt? {category : Category} {tree : SourceTree} {i : Nat}
    {node : SourceNode} (h : category.nodeAt? tree i = some node) :
    node ∈ category.select tree := by
  obtain ⟨n, hn, hnode⟩ := Option.bind_eq_some_iff.mp h
  rw [select_eq_filterMap]
  exact List.mem_filterMap.mpr ⟨n, List.mem_of_getElem? hn, hnode⟩

/-- Where names and line comments hold no line break, only the value of a string does. -/
theorem Category.eq_string_of_newline_mem {category : Category} {tree : SourceTree}
    {node : SourceNode} {raw : String} (htree : Unbroken (.ok tree))
    (hnode : node ∈ category.select tree) (hraw : category.text? node = some raw)
    (h : '\n' ∈ raw.toList) : category = .string := by
  cases category with
  | identifier =>
      obtain rfl := Option.some.inj hraw
      exact absurd h (htree.name tree rfl node hnode)
  | string => rfl
  | comment =>
      unfold Category.text? at hraw
      dsimp only at hraw
      split at hraw
      · rename_i rest hslashes
        obtain rfl := Option.some.inj hraw
        rw [String.toList_ofList] at h
        exact absurd h (htree.comment tree rfl node hnode rest hslashes)
      · cases hraw

/-- The number of line breaks that a finding takes into the message about it. -/
def Finding.breaks (f : Finding) : Nat := if f.misspelled then f.text.toList.count '\n' else 0

theorem Finding.newline_mem_of_breaks_pos {f : Finding} (h : 0 < f.breaks) :
    '\n' ∈ f.text.toList := by
  unfold breaks at h
  split at h
  · exact List.count_pos_iff.mp h
  · exact absurd h (Nat.lt_irrefl 0)

namespace Checker

variable {c : Checker}

theorem count_remark {display word : String} (hword : '\n' ∉ word.toList) :
    (remark display word).toList.count '\n' = display.toList.count '\n' := by
  unfold remark
  split
  · rfl
  · have hphrase : " misspelled: ".toList.count '\n' = 0 := by decide
    rw [String.toList_append, String.toList_append, List.count_append, List.count_append, hphrase,
      List.count_eq_zero.mpr hword]
    rfl

theorem count_misspelling (hc : c.Unstyled) (category : Category) (display : String)
    {word : String} (hword : '\n' ∉ word.toList) :
    (c.misspelling category display word).toList.count '\n' = display.toList.count '\n' := by
  have hlabel : ("You have a misspelled " ++ category.label ++ " ").toList.count '\n' = 0 := by
    cases category <;> decide
  rw [misspelling_of_unstyled hc, String.toList_append, List.count_append, hlabel,
    count_remark hword, Nat.zero_add]

theorem count_findingFor (hc : c.Unstyled) (category : Category) (node : SourceNode)
    (display : String) {word : String} (hword : '\n' ∉ word.toList) :
    (c.findingFor category node display word).message.toList.count '\n'
      = (c.findingFor category node display word).breaks := by
  cases hknows : c.dictionary.knows word with
  | true =>
      have hmessage : (c.findingFor category node display word).message = "No misspelled word" := by
        simp [findingFor, hknows]
      have hbreaks : (c.findingFor category node display word).breaks = 0 := by
        simp [Finding.breaks, findingFor, hknows]
      rw [hmessage, hbreaks]
      decide
  | false =>
      have hmessage : (c.findingFor category node display word).message
          = c.misspelling category display word := by
        simp [findingFor, hknows]
      have hbreaks : (c.findingFor category node display word).breaks
          = display.toList.count '\n' := by
        simp [Finding.breaks, findingFor, hknows]
      rw [hmessage, hbreaks]
      exact count_misspelling hc category display hword

/-- A finding of a source is that of a word of its tree, or that of a fault which is told on one
line. -/
theorem count_message {grammar : Grammar} {source : String} {f : Finding} (hc : c.Unstyled)
    (hsource : Unbroken (grammar.read source)) (hf : f ∈ c.checkSource grammar source) :
    f.message.toList.count '\n' = f.breaks ∧ (0 < f.breaks → f.category = some .string) := by
  rw [checkSource] at hf
  cases hread : grammar.read source with
  | ok tree =>
      rw [hread] at hf hsource
      obtain ⟨o, node, raw, word, hholds, rfl⟩ := exists_findingFor_of_mem_check hf
      have hword : '\n' ∉ word.toList := fun hmem =>
        absurd ((Text.mem_normalize (List.mem_of_getElem? hholds.word_at)).2 _ hmem) (by decide)
      refine ⟨count_findingFor hc o.category node _ hword, fun hbreaks => congrArg some ?_⟩
      have htext := Finding.newline_mem_of_breaks_pos hbreaks
      simp only [findingFor, Text.trim, String.toList_ofList] at htext
      exact Category.eq_string_of_newline_mem hsource
        (Category.mem_select_of_nodeAt? hholds.node_at) hholds.text
        (Text.trimChars_subset _ htext)
  | error fault =>
      rw [hread] at hf
      obtain rfl := List.mem_singleton.mp hf
      refine ⟨?_, fun hbreaks => absurd hbreaks (Nat.lt_irrefl 0)⟩
      obtain ⟨n, rfl⟩ : ∃ n, faultAt source.toList n = fault := by
        rw [Grammar.read, SourceTree.accept] at hread
        split at hread
        · exact ⟨_, Except.error.inj hread⟩
        · cases hread
      have hopening : "Can't check spelling - parser error: ".toList.count '\n' = 0 := by decide
      have hdescription := newline_not_mem_description source.toList n
        fun kind => hsource.missing _ kind hread
      rw [failure_message_of_unstyled hc, String.toList_append, List.count_append, hopening,
        List.count_eq_zero.mpr hdescription]
      rfl

theorem count_findingLine {grammar : Grammar} {source : String} {f : Finding} (hc : c.Unstyled)
    (hsource : Unbroken (grammar.read source)) (hf : f ∈ c.checkSource grammar source) :
    (Command.findingLine f).toList.count '\n' = f.breaks := by
  have hnumber := List.count_eq_zero.mpr
    (Report.not_mem_lineNumber (c := '\n') (by decide) (by decide) f.line)
  have hphrase : " On Line: ".toList.count '\n' = 0 := by decide
  rw [Command.findingLine, String.toList_append, String.toList_append, List.count_append,
    List.count_append, (count_message hc hsource hf).1, hphrase, hnumber]
  rfl

end Checker

namespace Report

/-! ## Lines that are printed -/

/-- The pieces of a text between its line breaks. -/
def pieces (text : String) : List String := (Text.splitLines text.toList).map String.ofList

/-- The lines of an output, of which each is ended by a line break. -/
def printedLines (output : String) : List String := (pieces output).dropLast

theorem length_pieces (text : String) : (pieces text).length = text.toList.count '\n' + 1 := by
  rw [pieces, List.length_map, Text.length_splitLines]

theorem pieces_of_count {text : String} (h : text.toList.count '\n' = 0) :
    pieces text = [text] := by
  rw [pieces, Text.splitLines_of_not_mem (List.count_eq_zero.mp h), List.map_singleton,
    String.ofList_toList]

theorem pieces_text (lines : List String) : pieces (text lines) = lines.flatMap pieces ++ [""] := by
  induction lines with
  | nil => rfl
  | cons line lines ih =>
      have htext : (text (line :: lines)).toList = line.toList ++ '\n' :: (text lines).toList := by
        simp [text]
      rw [pieces, htext, Text.splitLines_append_newline, List.map_append, List.flatMap_cons,
        List.append_assoc, ← ih]
      rfl

/-- The lines of an output are those that its texts break into. -/
theorem printedLines_text (lines : List String) :
    printedLines (text lines) = lines.flatMap pieces := by
  rw [printedLines, pieces_text, List.dropLast_concat]

/-- Findings are printed on one line each, and on one more for every line break that they take
into their message. -/
theorem length_flatMap_pieces : ∀ {findings : List Finding},
    (∀ f ∈ findings, (Command.findingLine f).toList.count '\n' = f.breaks) →
      (findings.flatMap fun f => pieces (Command.findingLine f)).length
        = findings.length + (findings.map Finding.breaks).sum
  | [], _ => rfl
  | f :: findings, h => by
      rw [List.forall_mem_cons] at h
      rw [List.flatMap_cons, List.length_append, length_pieces, h.1, length_flatMap_pieces h.2,
        List.length_cons, List.map_cons, List.sum_cons]
      omega

/-- Exactly findings without line breaks are printed as their lines. -/
theorem flatMap_pieces_eq_iff {findings : List Finding}
    (h : ∀ f ∈ findings, (Command.findingLine f).toList.count '\n' = f.breaks) :
    (findings.flatMap fun f => pieces (Command.findingLine f)) = findings.map Command.findingLine
      ↔ ∀ f ∈ findings, f.breaks = 0 := by
  constructor
  · intro heq
    have hlength := length_flatMap_pieces h
    rw [heq, List.length_map] at hlength
    have hsum : (findings.map Finding.breaks).sum = 0 := by omega
    exact fun f hf => List.sum_eq_zero_iff_forall_eq_nat.mp hsum _ (List.mem_map_of_mem hf)
  · intro hnone
    rw [List.map_eq_flatMap]
    exact List.flatMap_congr fun f hf => pieces_of_count ((h f hf).trans (hnone f hf))

theorem printedLines_header {path : String} (hpath : '\n' ∉ path.toList) (lines : List String) :
    printedLines (text (("Checking Spelling on: " ++ path) :: lines))
      = ("Checking Spelling on: " ++ path) :: lines.flatMap pieces := by
  have hopening : "Checking Spelling on: ".toList.count '\n' = 0 := by decide
  have hheader : ("Checking Spelling on: " ++ path).toList.count '\n' = 0 := by
    rw [String.toList_append, List.count_append, hopening, List.count_eq_zero.mpr hpath]
  rw [printedLines_text, List.flatMap_cons, pieces_of_count hheader]
  rfl

end Report

namespace Command

/-! ## Runs -/

theorem run_of_names {env : Environment} {files : Files} {arguments : List String} {path : String}
    (h : Names (some path) arguments) : run env files arguments = checkFile env files path := by
  rw [run, readArguments_iff.mpr h]
  rfl

/-- A run for a source that can be read prints the header and the line of every finding. -/
theorem run_eq_text {env : Environment} {files : Files} {arguments : List String} {path : String}
    (hnames : Names (some path) arguments) {config : Config} {dictionary : Dictionary}
    {source : String} {found arranged : List Finding}
    (hconfig : Config.load files env.directories env.readSettings = .ok config)
    (hdictionary : config.dictionary files = .ok dictionary)
    (hsource : files.read path = .ok source) (hcolor : config.color = false)
    (hfound : (Checker.new config.settings dictionary env.codes).checkSource env.grammar source
      = found) (harranged : Report.Arranged found arranged) :
    run env files arguments = ⟨0, Report.text (("Checking Spelling on: " ++ path) ::
      arranged.map findingLine), ""⟩ := by
  have hheader : Report.header (config.color && env.codes) path
      = "Checking Spelling on: " ++ path := by
    rw [hcolor]
    rfl
  rw [← hheader, run_of_names hnames,
    checkFile_iff.mpr (.findings hconfig hdictionary hsource hfound harranged), text_header,
    List.map_map]
  rfl

/-- **Lines of a run.** Let a run without colors be for a source that can be read, at a path without
line breaks, and let the grammar keep names, line comments and the kinds of absent tokens on one
line. The run succeeds and prints the header and, by their lines in the source, the lines of what is
found, each broken where its message is. So it prints one line for the header, one for each finding,
and one more for each line break in a message; and it prints exactly one line for each finding if
and only if no finding brings a line break along. Only the value of a string can do that: a name,
a line comment and the fault of a source never break their line. -/
theorem printed_lines {env : Environment} {files : Files} {arguments : List String} {path : String}
    (hnames : Names (some path) arguments) (hpath : '\n' ∉ path.toList) {config : Config}
    {dictionary : Dictionary} {source : String}
    (hconfig : Config.load files env.directories env.readSettings = .ok config)
    (hdictionary : config.dictionary files = .ok dictionary)
    (hsource : files.read path = .ok source) (hcolor : config.color = false)
    (hunbroken : Unbroken (env.grammar.read source)) :
    let found := (Checker.new config.settings dictionary env.codes).checkSource env.grammar source
    let printed := Report.printedLines (run env files arguments).stdout
    (run env files arguments).code = 0
      ∧ (∃ arranged, Report.Arranged found arranged
        ∧ printed = ("Checking Spelling on: " ++ path)
          :: arranged.flatMap (fun f => Report.pieces (findingLine f))
        ∧ (printed = ("Checking Spelling on: " ++ path) :: arranged.map findingLine
          ↔ ∀ f ∈ found, f.breaks = 0))
      ∧ printed.length = 1 + found.length + (found.map Finding.breaks).sum
      ∧ ∀ f ∈ found, 0 < f.breaks → f.category = some .string := by
  intro found printed
  have hunstyled : (Checker.new config.settings dictionary env.codes).Unstyled := by
    simp [Checker.Unstyled, Checker.new, Config.settings, hcolor]
  have harranged : Report.Arranged found (Report.byLine found) := Report.arranged_iff.mpr rfl
  have hperm : (Report.byLine found).Perm found := harranged.perm
  have hrun := run_eq_text hnames hconfig hdictionary hsource hcolor rfl harranged
  have hprinted : printed = ("Checking Spelling on: " ++ path)
      :: (Report.byLine found).flatMap (fun f => Report.pieces (findingLine f)) := by
    change Report.printedLines (run env files arguments).stdout = _
    rw [hrun, Report.printedLines_header hpath, List.flatMap_map]
  have hcount : ∀ f ∈ Report.byLine found, (findingLine f).toList.count '\n' = f.breaks :=
    fun f hf => Checker.count_findingLine hunstyled hunbroken (hperm.mem_iff.mp hf)
  refine ⟨by rw [hrun], ⟨_, harranged, hprinted, ?_⟩, ?_, ?_⟩
  · rw [hprinted, List.cons_inj_right, Report.flatMap_pieces_eq_iff hcount]
    exact forall_congr' fun f => imp_congr_left hperm.mem_iff
  · rw [hprinted, List.length_cons, Report.length_flatMap_pieces hcount, hperm.length_eq,
      (hperm.map _).sum_nat]
    omega
  · exact fun f hf => (Checker.count_message hunstyled hunbroken hf).2

/-! ## A string on two lines -/

/-- A script with one string, the value of which has two lines, beside settings and a list of words
that holds the second of them. -/
def twoLineFiles : Files := (FileTree.ofPaths [
  ("/work/.lintspell.toml", .text "color = false\n[[dicts]]\ndic = 'words'\n"),
  ("/work/words", .text "zebra\n"), ("/work/a.js", .text "'zebre\\nzebra'")]).files ["work"]

def twoLineConfig : Config := { color := false, dictionaries := [⟨none, "words"⟩] }

def twoLineDictionary : Dictionary := Engines.inMemory.dictionary ⟨[], .ofList ["zebra"]⟩

theorem twoLineFiles_spec :
    Config.load twoLineFiles none = .ok twoLineConfig
      ∧ twoLineConfig.dictionary twoLineFiles = .ok twoLineDictionary
      ∧ twoLineFiles.read "a.js" = .ok "'zebre\\nzebra'" := by
  refine ⟨by decide +kernel, by rfl, by decide +kernel⟩

/-- What a checker finds that knows the second word and not the first. -/
theorem checkSource_two_lines {c : Checker} (hsettings : c.settings = {})
    (hskip : c.skip = SkipSet.builtin) (hknown : c.dictionary.knows "zebra" = true)
    (hunknown : c.dictionary.knows "zebre" = false) :
    c.checkSource scriptTree "'zebre\\nzebra'"
      = [⟨some .string, "zebre", "zebre\nzebra", some 1, true,
          "You have a misspelled String zebre\nzebra misspelled: zebre"⟩] := by
  let node : SourceNode := ⟨"string", "'zebre\\nzebra'", 1, 1⟩
  have htext : Category.string.text? node = some "zebre\nzebra" := by decide +kernel
  have hwords : Text.normalize "zebre\nzebra" = ["zebre", "zebra"] := by decide +kernel
  have htrim : Text.trim "zebre\nzebra" = "zebre\nzebra" := by decide +kernel
  have hfree : ¬ c.skip.Exempts .string "zebre\nzebra" := by
    rw [hskip]
    refine SkipSet.not_exempts_builtin ?_ (fun h => nomatch h)
    rw [hwords]
    decide
  have hc : c.Unstyled := by simp [Checker.Unstyled, hsettings]
  have hlength : c.settings.minLength ≤ "zebre".length := by simp [hsettings]
  have hnone : c.finding? .string node "zebre\nzebra" "zebra" = none := by
    simp [Checker.finding?, hsettings, hknown]
  -- What is computed of the tree is the nodes that are looked at, not the tree.
  have hselected : (scriptTree.read "'zebre\\nzebra'").toOption.map (fun tree =>
      Category.all.flatMap fun category => (category.select tree).map (category, ·))
        = some [(.string, node)] := by
    decide +kernel
  rw [Checker.checkSource_eq_flatMap (by rw [hsettings]) hselected, List.flatMap_singleton,
    Checker.checkNode_of_text htext, if_neg hfree, hwords, htrim,
    List.filterMap_cons_some (Checker.finding?_of_unstyled hc hlength hunknown ..),
    List.filterMap_cons_none hnone, List.filterMap_nil]
  decide +kernel

theorem checkSource_twoLineFiles :
    (Checker.new twoLineConfig.settings twoLineDictionary false).checkSource scriptTree
        "'zebre\\nzebra'"
      = [⟨some .string, "zebre", "zebre\nzebra", some 1, true,
          "You have a misspelled String zebre\nzebra misspelled: zebre"⟩] := by
  refine checkSource_two_lines rfl (Checker.skip_new rfl) ?_ ?_
  · exact (Engines.knows_dictionary_ofList ["zebra"] "zebra").trans (by decide)
  · exact (Engines.knows_dictionary_ofList ["zebra"] "zebre").trans (by decide)

/-- The finding of one word takes two lines. -/
theorem printed_lines_two_line_string :
    let env : Environment := { directories := none, codes := false }
    let found : List Finding := [⟨some .string, "zebre", "zebre\nzebra", some 1, true,
      "You have a misspelled String zebre\nzebra misspelled: zebre"⟩]
    let outcome := run env twoLineFiles ["a.js"]
    (Names (some "a.js") ["a.js"] ∧ '\n' ∉ "a.js".toList
        ∧ Config.load twoLineFiles none env.readSettings = .ok twoLineConfig
        ∧ twoLineConfig.dictionary twoLineFiles = .ok twoLineDictionary
        ∧ twoLineFiles.read "a.js" = .ok "'zebre\\nzebra'" ∧ twoLineConfig.color = false
        ∧ Unbroken (env.grammar.read "'zebre\\nzebra'"))
      ∧ (Checker.new twoLineConfig.settings twoLineDictionary false).checkSource env.grammar
          "'zebre\\nzebra'" = found
      ∧ outcome.code = 0
      ∧ Report.printedLines outcome.stdout = ["Checking Spelling on: a.js",
        "You have a misspelled String zebre", "zebra misspelled: zebre On Line: 1"]
      ∧ (Report.printedLines outcome.stdout).length
        = 1 + found.length + (found.map Finding.breaks).sum := by
  intro env found outcome
  obtain ⟨hconfig, hdictionary, hsource⟩ := twoLineFiles_spec
  have hplain : Names (some "a.js") ["a.js"] := .plain (by decide) (.inr (by decide))
  have hpath : '\n' ∉ "a.js".toList := by decide
  have hunbroken := unbroken_scriptTree "'zebre\\nzebra'"
  obtain ⟨hcode, ⟨arranged, harranged, hprinted, -⟩, hlength, -⟩ :=
    @printed_lines env _ _ _ hplain hpath _ _ _ hconfig hdictionary hsource rfl hunbroken
  rw [checkSource_twoLineFiles] at harranged hlength
  obtain rfl := Report.arranged_singleton_iff.mp harranged
  refine ⟨⟨hplain, hpath, hconfig, hdictionary, hsource, rfl, hunbroken⟩,
    checkSource_twoLineFiles, hcode, hprinted.trans ?_, hlength⟩
  decide +kernel

/-- Not every finding is printed on a line of its own. -/
theorem printed_lines_ne_lines :
    let env : Environment := { directories := none, codes := false }
    let found := (Checker.new twoLineConfig.settings twoLineDictionary false).checkSource
      env.grammar "'zebre\\nzebra'"
    let outcome := run env twoLineFiles ["a.js"]
    (Names (some "a.js") ["a.js"] ∧ '\n' ∉ "a.js".toList
        ∧ Config.load twoLineFiles none env.readSettings = .ok twoLineConfig
        ∧ twoLineConfig.dictionary twoLineFiles = .ok twoLineDictionary
        ∧ twoLineFiles.read "a.js" = .ok "'zebre\\nzebra'" ∧ twoLineConfig.color = false)
      ∧ outcome = ⟨0, "Checking Spelling on: a.js\n"
        ++ "You have a misspelled String zebre\nzebra misspelled: zebre On Line: 1\n", ""⟩
      ∧ (∀ arranged, Report.Arranged found arranged → Report.printedLines outcome.stdout
        ≠ "Checking Spelling on: a.js" :: arranged.map findingLine)
      ∧ (Report.printedLines outcome.stdout).length ≠ 1 + found.length := by
  intro env found outcome
  obtain ⟨hconfig, hdictionary, hsource⟩ := twoLineFiles_spec
  have hplain : Names (some "a.js") ["a.js"] := .plain (by decide) (.inr (by decide))
  have hrun : outcome = ⟨0, "Checking Spelling on: a.js\n"
      ++ "You have a misspelled String zebre\nzebra misspelled: zebre On Line: 1\n", ""⟩ := by
    refine (@run_eq_text env _ _ _ hplain _ _ _ _ _ hconfig hdictionary hsource rfl
      checkSource_twoLineFiles (Report.arranged_singleton_iff.mpr rfl)).trans ?_
    decide +kernel
  have hlength : (Report.printedLines outcome.stdout).length = 3 := by
    rw [hrun]
    decide +kernel
  have hfound : found.length = 1 := congrArg List.length checkSource_twoLineFiles
  refine ⟨⟨hplain, by decide, hconfig, hdictionary, hsource, rfl⟩, hrun, ?_, ?_⟩
  · intro arranged harranged heq
    have hsame : arranged.length = found.length := harranged.perm.length_eq
    rw [heq, List.length_cons, List.length_map, hsame, hfound] at hlength
    cases hlength
  · rw [hlength, hfound]
    decide

end Command

end ScriptSpelling
