import ScriptSpelling.Proofs.Occurrence

/-!
# Colors are only put around the text

Whether messages are styled is asked where a message is written and nowhere else, so two checks
that differ in it find the same (`Finding.Restyles`). The messages are put together from the same
parts, each of them styled or not. `Terminal.Shows` says of a styled part that nothing but its
codes tell it from the plain one, whatever follows it; that is kept when parts are joined, and so it
holds of whole messages.

A quoted text must hold no ESC for that: taking the codes out of a message would take them out of
the quotation as well. The main statement is `Checker.check_withColor`.
-/

namespace ScriptSpelling

namespace Terminal

/-! ## Texts without their codes -/

/-- A parameter of a code, or what stands between two. -/
def isParameter (c : Char) : Bool := c.isDigit || c == ';'

/-- The length of the code at the start of a text: ESC and a bracket, parameters, and an `m`. -/
def codeLength? : List Char → Option Nat
  | '\x1b' :: '[' :: rest =>
    let n := (rest.takeWhile isParameter).length
    if rest[n]? = some 'm' then some (n + 3) else none
  | _ => none

/-- The text without codes, after `skip` characters that belong to one. -/
def eraseFrom : Nat → List Char → List Char
  | _, [] => []
  | skip + 1, _ :: rest => eraseFrom skip rest
  | 0, c :: rest =>
    match codeLength? (c :: rest) with
    | some n => eraseFrom (n - 1) rest
    | none => c :: eraseFrom 0 rest

def eraseCodes (s : String) : String := String.ofList (eraseFrom 0 s.toList)

theorem eraseFrom_length_append : ∀ cs rest : List Char,
    eraseFrom cs.length (cs ++ rest) = eraseFrom 0 rest
  | [], _ => rfl
  | c :: cs, rest => by
      rw [List.length_cons, List.cons_append, eraseFrom]
      exact eraseFrom_length_append cs rest

theorem eraseFrom_cons_of_ne {c : Char} (h : c ≠ '\x1b') (rest : List Char) :
    eraseFrom 0 (c :: rest) = c :: eraseFrom 0 rest := by
  rw [eraseFrom, codeLength?]
  intro rest' heq
  exact h (List.cons.inj heq).1

theorem eraseFrom_append_of_not_mem : ∀ {cs : List Char}, '\x1b' ∉ cs → ∀ rest : List Char,
    eraseFrom 0 (cs ++ rest) = cs ++ eraseFrom 0 rest
  | [], _, _ => rfl
  | c :: cs, h, rest => by
      obtain ⟨hc, hcs⟩ := not_or.mp (mt List.mem_cons.mpr h)
      rw [List.cons_append, eraseFrom_cons_of_ne (Ne.symm hc), eraseFrom_append_of_not_mem hcs,
        List.cons_append]

/-- A code with these parameters. -/
def code (parameters : List Char) : List Char := '\x1b' :: '[' :: parameters ++ ['m']

theorem codeLength?_code {parameters : List Char} (h : ∀ c ∈ parameters, isParameter c = true)
    (rest : List Char) :
    codeLength? (code parameters ++ rest) = some (code parameters).length := by
  have hspan : (parameters ++ 'm' :: rest).takeWhile isParameter = parameters := by
    rw [List.takeWhile_append_of_pos h, List.takeWhile_cons_of_neg (by decide), List.append_nil]
  simp [code, codeLength?, hspan]

theorem eraseFrom_code {parameters : List Char} (h : ∀ c ∈ parameters, isParameter c = true)
    (rest : List Char) : eraseFrom 0 (code parameters ++ rest) = eraseFrom 0 rest := by
  have hlength := codeLength?_code h rest
  rw [code, List.cons_append, List.cons_append] at hlength ⊢
  rw [eraseFrom, hlength]
  exact eraseFrom_length_append ('[' :: parameters ++ ['m']) rest

/-! ## Styled texts -/

/-- Nothing but codes tells the styled text from the plain one, whatever follows. -/
def Shows (styled plain : String) : Prop :=
  ∀ rest : List Char, eraseFrom 0 (styled.toList ++ rest) = plain.toList ++ eraseFrom 0 rest

variable {s s' t t' : String}

theorem Shows.eraseCodes_eq (h : Shows s t) : eraseCodes s = t := by
  have hall := h []
  rw [List.append_nil] at hall
  rw [eraseCodes, hall, eraseFrom, List.append_nil, String.ofList_toList]

theorem Shows.append (h : Shows s t) (h' : Shows s' t') : Shows (s ++ s') (t ++ t') := by
  intro rest
  rw [String.toList_append, String.toList_append, List.append_assoc, h, h', List.append_assoc]

theorem Shows.refl (h : '\x1b' ∉ t.toList) : Shows t t :=
  eraseFrom_append_of_not_mem h

theorem reopen_of_not_mem (code : List Char) : ∀ {cs : List Char}, '\x1b' ∉ cs →
    reopen code cs = cs
  | [], _ => by rw [reopen]
  | c :: cs, h => by
      obtain ⟨hc, hcs⟩ := not_or.mp (mt List.mem_cons.mpr h)
      rw [reopen, reopen_of_not_mem code hcs]
      intro rest heq
      exact absurd heq.symm hc

theorem isParameter_of_mem_parameters (style : Style) :
    ∀ c ∈ style.parameters.toList, isParameter c = true :=
  List.all_eq_true.mp (by cases style <;> decide)

theorem Shows.paint (h : '\x1b' ∉ t.toList) (codes : Bool) (style : Style) :
    Shows (paint codes style t) t := by
  intro rest
  cases codes with
  | false => exact eraseFrom_append_of_not_mem h rest
  | true =>
      have hreset : ∀ rest, eraseFrom 0 (reset ++ rest) = eraseFrom 0 rest :=
        eraseFrom_code (List.forall_mem_singleton.mpr rfl)
      have hstyle : ∀ rest, eraseFrom 0 (style.code ++ rest) = eraseFrom 0 rest :=
        eraseFrom_code (isParameter_of_mem_parameters style)
      rw [Terminal.paint, if_pos rfl, String.toList_ofList, reopen_of_not_mem _ h,
        List.append_assoc, List.append_assoc, hstyle, eraseFrom_append_of_not_mem h, hreset]

end Terminal

open Syntax Terminal

/-! ## Findings and messages -/

/-- The finding `f'` is `f` in colors: only the message may differ, and its text apart from codes
is the same, if the text that it quotes holds no ESC. -/
structure Finding.Restyles (f f' : Finding) : Prop where
  category_eq : f'.category = f.category
  word_eq : f'.word = f.word
  text_eq : f'.text = f.text
  line_eq : f'.line = f.line
  misspelled_eq : f'.misspelled = f.misspelled
  message_eq : f.category ≠ none → '\x1b' ∉ f.text.toList → eraseCodes f'.message = f.message

namespace Checker

def withColor (c : Checker) (color : Bool) : Checker :=
  { c with settings := { c.settings with color } }

theorem styled_withColor_false (c : Checker) (style : Style) (text : String) :
    (c.withColor false).styled style text = text := by
  rw [styled, withColor, Bool.false_and]
  rfl

theorem shows_styled (c : Checker) (style : Style) {text : String} (h : '\x1b' ∉ text.toList) :
    Shows (c.styled style text) text :=
  .paint h _ style

theorem shows_misspelling (c : Checker) (category : Category) {display word : String}
    (hdisplay : '\x1b' ∉ display.toList) (hword : '\x1b' ∉ word.toList) :
    Shows ((c.withColor true).misspelling category display word)
      ((c.withColor false).misspelling category display word) := by
  have hlabel : '\x1b' ∉ category.label.toList := by cases category <;> decide
  have hmessage := (((Shows.refl (t := "You have a misspelled ") (by decide)).append
    (shows_styled (c.withColor true) category.style hlabel)).append
    (.refl (t := " ") (by decide))).append (shows_styled (c.withColor true) .bold hdisplay)
  simp only [misspelling, styled_withColor_false]
  split
  · exact hmessage
  · exact (hmessage.append (.refl (t := " misspelled: ") (by decide))).append
      (shows_styled (c.withColor true) .bold hword)

theorem shows_failure (c : Checker) {fault : SyntaxFault}
    (h : '\x1b' ∉ fault.cause.description.toList) :
    Shows ((c.withColor true).failure fault).message
      ((c.withColor false).failure fault).message := by
  rw [failure, failure, styled_withColor_false]
  exact (shows_styled _ .boldRed (by decide)).append (.refl h)

/-! ## Whole checks -/

theorem restyles_findingFor (c : Checker) (category : Category) (node : SourceNode)
    (display : String) {word : String} (hword : '\x1b' ∉ word.toList) :
    ((c.withColor false).findingFor category node display word).Restyles
      ((c.withColor true).findingFor category node display word) where
  category_eq := rfl
  word_eq := rfl
  text_eq := rfl
  line_eq := rfl
  misspelled_eq := rfl
  message_eq _ hdisplay := by
    have hknows : ∀ color, (c.withColor color).dictionary.knows word = c.dictionary.knows word :=
      fun _ => rfl
    simp only [findingFor, hknows]
    split
    · exact (Shows.refl (by decide)).eraseCodes_eq
    · exact (shows_misspelling c category hdisplay hword).eraseCodes_eq

/-- A word is reported in colors exactly where it is reported without. -/
theorem finding?_restyles (c : Checker) (category : Category) (node : SourceNode)
    (display : String) {word : String} (hword : '\x1b' ∉ word.toList) :
    Option.Rel Finding.Restyles ((c.withColor false).finding? category node display word)
      ((c.withColor true).finding? category node display word) := by
  have hoptions : ∀ color, (c.withColor color).settings.minLength = c.settings.minLength
      ∧ (c.withColor color).settings.showSuccesses = c.settings.showSuccesses
      ∧ (c.withColor color).dictionary = c.dictionary := fun _ => ⟨rfl, rfl, rfl⟩
  rw [finding?_eq, finding?_eq, (hoptions false).1, (hoptions false).2.1, (hoptions false).2.2,
    (hoptions true).1, (hoptions true).2.1, (hoptions true).2.2]
  split
  · exact .some (restyles_findingFor c category node display hword)
  · exact .none

theorem forall₂_restyles_check (c : Checker) (outcome : Except SyntaxFault SourceTree) :
    List.Forall₂ Finding.Restyles ((c.withColor false).check outcome)
      ((c.withColor true).check outcome) := by
  cases outcome with
  | error fault =>
      exact .cons ⟨rfl, rfl, rfl, rfl, rfl, fun hcategory => absurd rfl hcategory⟩ .nil
  | ok tree =>
      have hplaces : (c.withColor true).occurrences tree = (c.withColor false).occurrences tree :=
        occurrences_congr rfl tree
      have hskip : (c.withColor true).skip = (c.withColor false).skip := rfl
      rw [check_ok_eq_filterMap, check_ok_eq_filterMap, hplaces]
      refine forall₂_filterMap_filterMap (findingAt?_related_of_holds hskip .none ?_) _
      intro o node raw word hholds
      refine finding?_restyles c o.category node (Text.trim raw) ?_
      intro hmem
      exact absurd ((Text.mem_normalize (List.mem_of_getElem? hholds.word_at)).2 _ hmem) (by decide)

/-- **Colors.** With and without colors a check finds the same: the findings go one for one and
agree in category, word, text, line and whether the word is misspelled. If the text of a finding
holds no ESC, its message in colors is the plain message once the codes are taken out; and so is
the message for a source that cannot be read, if the description of what is wrong holds no ESC.
That holds also where the output takes no codes. -/
theorem check_withColor (c : Checker) :
    (∀ outcome, List.Forall₂ Finding.Restyles ((c.withColor false).check outcome)
        ((c.withColor true).check outcome))
      ∧ ∀ fault : SyntaxFault, '\x1b' ∉ fault.cause.description.toList →
        List.Forall₂ (fun f f' => eraseCodes f'.message = f.message)
          ((c.withColor false).check (.error fault)) ((c.withColor true).check (.error fault)) :=
  ⟨forall₂_restyles_check c, fun _ h => .cons (shows_failure c h).eraseCodes_eq .nil⟩

/-- A comment and a source that cannot be read, where the output takes codes: both messages are
really other ones in colors. -/
theorem check_withColor_codes :
    let c := Checker.mk ⟨fun _ => false⟩ .empty {} true
    let tree : SourceTree := ⟨"// tset".toList,
      .mk { kind := .comment, start := .zero, stop := ⟨7, 0, 7⟩ } []⟩
    let fault : SyntaxFault := ⟨.unexpected "<", some 1, some 1⟩
    (List.Forall₂ Finding.Restyles ((c.withColor false).check (.ok tree))
          ((c.withColor true).check (.ok tree))
        ∧ ((c.withColor false).check (.ok tree)).map Finding.message
          = ["You have a misspelled Comment tset"]
        ∧ ((c.withColor true).check (.ok tree)).map Finding.message
          = ["You have a misspelled \x1b[33mComment\x1b[0m \x1b[1mtset\x1b[0m"])
      ∧ '\x1b' ∉ fault.cause.description.toList
      ∧ List.Forall₂ (fun f f' => eraseCodes f'.message = f.message)
          ((c.withColor false).check (.error fault)) ((c.withColor true).check (.error fault))
      ∧ ((c.withColor true).failure fault).message
        = "\x1b[1;31mCan't check spelling - parser error: \x1b[0mUnexpected token <" := by
  intro c tree fault
  have hplain : '\x1b' ∉ fault.cause.description.toList := by decide
  exact ⟨⟨(check_withColor c).1 _, by decide, by decide⟩, hplain,
    (check_withColor c).2 fault hplain, by decide⟩

end Checker

end ScriptSpelling
