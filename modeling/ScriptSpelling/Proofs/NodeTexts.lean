import Mathlib.Data.List.TakeWhile
import Mathlib.Logic.Basic
import ScriptSpelling.Syntax.Expression
import ScriptSpelling.Syntax.Source

/-!
# Texts of names and comments

Whatever a source is, a name in its tree holds no space and a line comment ends with its line
(`Kind.Admits`). Where a node is made for a text, that is a matter of the text: of words
(`spaceless_word`), names with dashes (`spaceless_dashed`) and comments
(`inLineComment_of_comment`). Later the node may become a part of other nodes, or a pattern. Its
text stays the same then, and its kind stays that of a name or stops to be one, so that
a tree which is right in its texts (`Node.Lexical`) stays so.
-/

namespace ScriptSpelling.Syntax

/-! ## Texts without space -/

theorem take_spanLength (p : Char → Bool) : ∀ cs : List Char,
    cs.take (spanLength p cs) = cs.takeWhile p
  | [] => rfl
  | c :: cs => by
      cases hp : p c
      · rw [spanLength, hp, List.takeWhile_cons_of_neg (by simp [hp])]
        rfl
      · rw [spanLength, hp, List.takeWhile_cons_of_pos hp, if_pos rfl, List.take_succ_cons,
          take_spanLength p cs]

theorem of_mem_take_spanLength {p : Char → Bool} {cs : List Char} {c : Char}
    (h : c ∈ cs.take (spanLength p cs)) : p c = true := by
  rw [take_spanLength] at h
  exact List.mem_takeWhile_imp h

/-- No character of the text is space. -/
def Spaceless (text : List Char) : Prop := ∀ c ∈ text, isSpace c = false

theorem isSpace_eq_false {c : Char} (h : 0x20 < c.toNat) (h' : c.toNat < 0x7F) :
    isSpace c = false := by
  have hne : ∀ d : Char, 0x7F ≤ d.toNat → (c == d) = false := by
    intro d hd
    rw [beq_eq_false_iff_ne]
    rintro rfl
    omega
  simp only [isSpace, hne _ (show 0x7F ≤ ('\ufeff').toNat by decide),
    hne _ (show 0x7F ≤ ('\u2060').toNat by decide), hne _ (show 0x7F ≤ ('\u200b').toNat by decide),
    Text.isBlank, Bool.or_false]
  simp
  omega

theorem isSpace_of_hexDigit {c : Char} (h : (Literal.hexDigit? c).isSome = true) :
    isSpace c = false := by
  apply isSpace_eq_false <;> (unfold Literal.hexDigit? at h; grind)

theorem spaceless_cons {c : Char} {text : List Char} :
    Spaceless (c :: text) ↔ isSpace c = false ∧ Spaceless text := List.forall_mem_cons

theorem spaceless_append {text more : List Char} :
    Spaceless (text ++ more) ↔ Spaceless text ∧ Spaceless more := List.forall_mem_append

theorem Spaceless.take {text : List Char} (h : Spaceless text) (n : Nat) :
    Spaceless (text.take n) := fun c hc => h c (List.mem_of_mem_take hc)

theorem spaceless_span {p : Char → Bool} (hp : ∀ c, p c = true → isSpace c = false)
    (cs : List Char) : Spaceless (cs.take (spanLength p cs)) :=
  fun _ hc => hp _ (of_mem_take_spanLength hc)

/-- The characters of an escape in a word, of which the first is a backslash. -/
theorem spaceless_escape {c : Char} {rest : List Char} {n : Nat}
    (h : wordEscapeLength (c :: rest) = some n) :
    isSpace c = false ∧ Spaceless (rest.take (n - 1)) := by
  unfold wordEscapeLength at h
  split at h
  · rename_i digits heq
    obtain ⟨rfl, rfl⟩ := List.cons.inj heq
    simp only [Bool.and_eq_true, beq_iff_eq, List.head?_drop, Option.ite_none_right_eq_some,
      Option.some.injEq] at h
    obtain ⟨⟨-, hbrace⟩, rfl⟩ := h
    refine ⟨by decide, ?_⟩
    change Spaceless (List.take (_ + 3) _)
    rw [List.take_succ_cons, List.take_succ_cons, spaceless_cons,
      spaceless_cons, List.take_add_one, hbrace, spaceless_append]
    exact ⟨by decide, by decide, spaceless_span (fun _ => isSpace_of_hexDigit) digits, by
      simp [Spaceless]; decide⟩
  · rename_i digits _ heq
    obtain ⟨rfl, rfl⟩ := List.cons.inj heq
    simp only [Option.ite_none_right_eq_some, Option.some.injEq] at h
    obtain ⟨hdigits, rfl⟩ := h
    refine ⟨by decide, ?_⟩
    rw [List.take_succ_cons, spaceless_cons]
    have hspan := (spaceless_span (fun _ => isSpace_of_hexDigit) digits).take 4
    rw [List.take_take, Nat.min_eq_left hdigits] at hspan
    exact ⟨by decide, hspan⟩
  · cases h

theorem isSpace_of_isWordChar {c : Char} (h : isWordChar c = true) : isSpace c = false := by
  simp only [isWordChar, Bool.and_eq_true, Bool.not_eq_true'] at h
  exact h.1.2

theorem spaceless_wordRest : ∀ (skip : Nat) (cs : List Char), Spaceless (cs.take skip) →
    Spaceless (cs.take (wordRest skip cs))
  | _, [], _ => by simp [Spaceless]
  | skip + 1, c :: rest, hskip => by
      rw [List.take_succ_cons, spaceless_cons] at hskip
      rw [wordRest, List.take_succ_cons, spaceless_cons]
      exact ⟨hskip.1, spaceless_wordRest skip rest hskip.2⟩
  | 0, c :: rest, _ => by
      rw [wordRest]
      split
      · rename_i n hescape
        obtain ⟨hc, hskip⟩ := spaceless_escape hescape
        rw [List.take_succ_cons, spaceless_cons]
        exact ⟨hc, spaceless_wordRest (n - 1) rest hskip⟩
      · split
        · rename_i hword
          rw [List.take_succ_cons, spaceless_cons]
          exact ⟨isSpace_of_isWordChar hword, spaceless_wordRest 0 rest (by simp [Spaceless])⟩
        · simp [Spaceless]

theorem spaceless_word (cs : List Char) : Spaceless (cs.take (wordLength cs)) := by
  unfold wordLength
  split
  · split
    · simp [Spaceless]
    · exact spaceless_wordRest 0 _ (by simp [Spaceless])
  · simp [Spaceless]

theorem isSpace_of_markupChar {c : Char}
    (h : (c.isAlpha || c == '_' || c == '$' || c.isDigit || c == '-') = true) :
    isSpace c = false := by
  delta Char.isAlpha Char.isUpper Char.isLower at h
  simp only [Char.isDigit, Bool.or_eq_true, Bool.and_eq_true, decide_eq_true_eq, beq_iff_eq,
    UInt32.le_iff_toNat_le, ge_iff_le, Char.toNat_val, Char.reduceToNat] at h
  obtain (((h | rfl) | rfl) | h) | rfl := h
  · apply isSpace_eq_false <;> omega
  · decide
  · decide
  · apply isSpace_eq_false <;> omega
  · decide

theorem spaceless_dashed {cs : List Char} {n : Nat} (h : dashedLength cs = some n) :
    Spaceless (cs.take n) := by
  unfold dashedLength at h
  dsimp only at h
  split at h
  · split at h
    · split at h
      · rename_i rest hdash
        obtain rfl := Option.some.inj h
        rw [Nat.add_assoc, List.take_add, hdash, Nat.add_comm 1, List.take_succ_cons,
          spaceless_append, spaceless_cons]
        refine ⟨spaceless_span (fun c hc => isSpace_of_markupChar ?_) _, by decide,
          spaceless_span (fun c hc => isSpace_of_markupChar ?_) _⟩
        · simp [hc]
        · simpa only [Bool.or_assoc] using hc
      · cases h
    · cases h
  · cases h

/-- A word starts with a character of its own or with an escape. -/
theorem exists_of_wordLength_pos {cs : List Char} (h : 0 < wordLength cs) :
    ∃ c rest, cs = c :: rest ∧ c.isDigit = false ∧ (isWordChar c = true ∨ c = '\\') := by
  unfold wordLength at h
  split at h
  · rename_i c rest
    split at h
    · exact absurd h (Nat.lt_irrefl 0)
    · rename_i hdigit
      refine ⟨c, rest, rfl, by simpa using hdigit, ?_⟩
      rw [wordRest] at h
      split at h
      · rename_i n hescape
        unfold wordEscapeLength at hescape
        split at hescape
        · rename_i heq
          exact .inr (List.cons.inj heq).1
        · rename_i heq
          exact .inr (List.cons.inj heq).1
        · cases hescape
      · split at h
        · exact .inl ‹_›
        · exact absurd h (Nat.lt_irrefl 0)
  · exact absurd h (Nat.lt_irrefl 0)

/-- What follows the slashes of a line comment is on their line. -/
theorem inLineComment_of_comment {cs rest : List Char} {n : Nat} (h : commentLength cs = some n)
    (htext : cs.take n = '/' :: '/' :: rest) : ∀ c ∈ rest, inLineComment c = true := by
  unfold commentLength at h
  split at h
  · rename_i line
    obtain rfl := Option.some.inj h
    rw [List.take_succ_cons, List.take_succ_cons] at htext
    obtain rfl : line.take (spanLength inLineComment line) = rest := by simpa using htext
    exact fun _ => of_mem_take_spanLength
  · rename_i block
    obtain ⟨n, -, rfl⟩ := Option.map_eq_some_iff.mp h
    rw [List.take_succ_cons, List.take_succ_cons] at htext
    simp at htext
  · cases h

/-! ## Texts of nodes -/

def nameKinds : List String := [
  "identifier", "property_identifier", "shorthand_property_identifier",
  "shorthand_property_identifier_pattern", "statement_identifier",
  "private_property_identifier"]

/-- The text may be that of a node of the kind. -/
structure Kind.Admits (kind : Kind) (text : List Char) : Prop where
  name : kind.name ∈ nameKinds → Spaceless text
  comment : kind.name = "comment" → ∀ rest, text = '/' :: '/' :: rest →
    ∀ c ∈ rest, inLineComment c = true

/-- Nothing is asked of the texts of the nodes of the kind. -/
def Kind.Silent (kind : Kind) : Prop := kind.name ∉ nameKinds ∧ kind.name ≠ "comment"

theorem Kind.Silent.admits {kind : Kind} (h : kind.Silent) (text : List Char) :
    kind.Admits text :=
  ⟨fun hname => absurd hname h.1, fun hcomment => absurd hcomment h.2⟩

/-- Whether the nodes of the kind are names, comments or tokens. It is reducible, so that a kind
which is given is seen to be none of these where an instance is looked for. -/
@[reducible] def Kind.isLexeme : Kind → Bool
  | .identifier | .propertyIdentifier | .shorthandPropertyIdentifier
  | .shorthandPropertyIdentifierPattern | .statementIdentifier | .privatePropertyIdentifier
  | .comment | .token _ => true
  | _ => false

instance factFalse : Fact (false = false) := ⟨rfl⟩

theorem Kind.silent {kind : Kind} (h : kind.isLexeme = false) : kind.Silent := by
  unfold Kind.Silent
  cases kind <;> first | decide | cases h

theorem Kind.admits_name {kind : Kind} {text : List Char} (hkind : kind.name ∈ nameKinds)
    (h : Spaceless text) : kind.Admits text := by
  refine ⟨fun _ => h, fun hcomment => ?_⟩
  rw [hcomment] at hkind
  exact absurd hkind (by decide)

theorem Kind.admits_spaceless (kind : Kind) {text : List Char} (h : Spaceless text)
    (hslash : text.head? ≠ some '/') : kind.Admits text :=
  ⟨fun _ => h, fun _ _ heq => absurd (congrArg List.head? heq) hslash⟩

theorem Kind.admits_word (kind : Kind) (cs : List Char) :
    kind.Admits (cs.take (wordLength cs)) := by
  refine kind.admits_spaceless (spaceless_word cs) fun hslash => ?_
  cases cs with
  | nil => simp at hslash
  | cons c rest =>
      obtain ⟨hpos, hc⟩ : wordLength (c :: rest) ≠ 0 ∧ c = '/' := by
        simpa [List.head?_take] using hslash
      subst hc
      exact hpos rfl

/-- A token may be its own text, even where that is also the name of a kind of nodes. -/
theorem Kind.admits_token (text : String) : (Kind.token text).Admits text.toList := by
  have hnames : ∀ name ∈ nameKinds, name.toList.all (!isSpace ·) = true := by decide
  refine ⟨fun hname c hc => ?_, fun (hcomment : text = "comment") rest heq => ?_⟩
  · simpa using List.all_eq_true.mp (hnames text hname) c hc
  · subst hcomment
    simp at heq

theorem Kind.admits_comment {cs : List Char} {n : Nat} (h : commentLength cs = some n) :
    Kind.comment.Admits (cs.take n) :=
  ⟨fun hname => absurd hname (by decide), fun _ _ => inLineComment_of_comment h⟩

/-- With space before it, a comment does not start with slashes. -/
theorem Kind.admits_spaced_comment {cs : List Char} {n : Nat}
    (h : commentLength (cs.drop (spanLength isSpace cs)) = some n) :
    Kind.comment.Admits (cs.take (spanLength isSpace cs + n)) := by
  cases cs with
  | nil => exact Kind.admits_comment (n := 0 + n) (by simpa [spanLength] using h)
  | cons c rest =>
      cases hspace : isSpace c with
      | false =>
          have hnone : spanLength isSpace (c :: rest) = 0 := by simp [spanLength, hspace]
          rw [hnone] at h ⊢
          simpa using Kind.admits_comment h
      | true =>
          refine ⟨fun hname => absurd hname (by decide), fun _ more heq => ?_⟩
          have hsome : spanLength isSpace (c :: rest) = spanLength isSpace rest + 1 := by
            simp [spanLength, hspace]
          rw [hsome, Nat.add_right_comm, List.take_succ_cons] at heq
          obtain ⟨rfl, -⟩ := List.cons.inj heq
          exact absurd hspace (by decide)

/-- The text of the node is one that its kind admits. -/
def Label.Lexical (source : List Char) (l : Label) : Prop :=
  ∀ text, textOf? source l = some text → l.kind.Admits text

/-- So it is with the node and with every node below it. -/
def Node.Lexical (source : List Char) (n : Node) : Prop :=
  ∀ d ∈ n.preorder, d.label.Lexical source

variable {source : List Char}

theorem Label.lexical_of_not_isLexeme {l : Label} (h : l.kind.isLexeme = false) :
    l.Lexical source := fun text _ => (Kind.silent h).admits text

namespace Node

theorem mem_preorderAll {d : Node} : ∀ {cs : List Node},
    d ∈ preorderAll cs ↔ ∃ c ∈ cs, d ∈ c.preorder
  | [] => by simp [preorderAll]
  | c :: cs => by
      have ih : d ∈ preorderAll cs ↔ ∃ c ∈ cs, d ∈ c.preorder := mem_preorderAll
      simp [preorderAll, ih]

theorem lexical_mk {l : Label} {cs : List Node} :
    (mk l cs).Lexical source ↔ l.Lexical source ∧ ∀ c ∈ cs, c.Lexical source := by
  rw [Lexical, preorder, List.forall_mem_cons]
  refine and_congr_right fun _ => ⟨fun h c hc d hd => ?_, fun h d hd => ?_⟩
  · exact h d (mem_preorderAll.mpr ⟨c, hc, hd⟩)
  · obtain ⟨c, hc, hd⟩ := mem_preorderAll.mp hd
    exact h c hc d hd

theorem Lexical.children {n : Node} (h : n.Lexical source) :
    ∀ c ∈ n.children, c.Lexical source := by
  obtain ⟨l, cs⟩ := n
  exact (lexical_mk.mp h).2

theorem Lexical.withKind {n : Node} {kind : Kind} (h : n.Lexical source) (hkind : kind.Silent) :
    (n.withKind kind).Lexical source :=
  lexical_mk.mpr ⟨fun text _ => hkind.admits text, h.children⟩

theorem lexical_of_not_isLexeme {l : Label} {cs : List Node} (h : l.kind.isLexeme = false)
    (hcs : ∀ c ∈ cs, c.Lexical source) : (mk l cs).Lexical source :=
  lexical_mk.mpr ⟨Label.lexical_of_not_isLexeme h, hcs⟩

/-! ## Nodes that become patterns -/

mutual

theorem lexical_of_toPattern? (role : Role) : ∀ (n : Node) {n' : Node}, n.Lexical source →
    n.toPattern? role = some n' → n'.Lexical source
  | mk l cs, n', h, hn => by
      obtain ⟨hl, hcs⟩ := lexical_mk.mp h
      rw [toPattern?] at hn
      split at hn
      · obtain ⟨cs', hcs', rfl⟩ := Option.map_eq_some_iff.mp hn
        exact lexical_of_not_isLexeme rfl (lexical_of_elements _ hcs hcs')
      · obtain ⟨cs', hcs', rfl⟩ := Option.map_eq_some_iff.mp hn
        exact lexical_of_not_isLexeme rfl (lexical_of_members _ hcs hcs')
      iterate 6
        · split at hn
          · cases hn
          · exact Option.some.inj hn ▸ h
      · split at hn
        · obtain ⟨cs', hcs', rfl⟩ := Option.map_eq_some_iff.mp hn
          exact lexical_of_not_isLexeme rfl (lexical_of_first _ hcs hcs')
        · cases hn
      · split at hn
        · cases hn
        · obtain ⟨cs', hcs', rfl⟩ := Option.map_eq_some_iff.mp hn
          exact lexical_of_not_isLexeme rfl (lexical_of_last _ _ hcs hcs')
      · split at hn
        · obtain ⟨cs', hcs', rfl⟩ := Option.map_eq_some_iff.mp hn
          exact lexical_of_not_isLexeme rfl (lexical_of_last _ _ hcs hcs')
        · cases hn
      · -- A name of its own stays a name with the same text.
        rename_i hkind
        split at hn
        · obtain rfl := Option.some.inj hn
          refine lexical_mk.mpr ⟨fun text htext => ?_, hcs⟩
          refine Kind.admits_name (by simp [Kind.name, nameKinds]) ?_
          exact (hl text htext).name (by simp [hkind, Kind.name, nameKinds])
        · cases hn
      · split at hn
        · exact Option.some.inj hn ▸ h
        · cases hn
      iterate 3
        · split at hn
          · cases hn
          · exact Option.some.inj hn ▸ h
      · cases hn
termination_by structural n => n

theorem lexical_of_elements : ∀ (ns : List Node) {ns' : List Node}, (∀ n ∈ ns, n.Lexical source) →
    elementsToPattern? ns = some ns' → ∀ n ∈ ns', n.Lexical source
  | [], ns', h, hns => by
      rw [elementsToPattern?, Option.some.injEq] at hns
      exact hns ▸ h
  | n :: rest, ns', h, hns => by
      rw [List.forall_mem_cons] at h
      rw [elementsToPattern?] at hns
      split at hns
      · rename_i hn hrest
        obtain rfl := Option.some.inj hns
        exact List.forall_mem_cons.mpr
          ⟨lexical_of_toPattern? _ _ h.1 hn, lexical_of_elements _ h.2 hrest⟩
      · cases hns
termination_by structural n => n

theorem lexical_of_members : ∀ (ns : List Node) {ns' : List Node}, (∀ n ∈ ns, n.Lexical source) →
    membersToPattern? ns = some ns' → ∀ n ∈ ns', n.Lexical source
  | [], ns', h, hns => by
      rw [membersToPattern?, Option.some.injEq] at hns
      exact hns ▸ h
  | n :: rest, ns', h, hns => by
      rw [List.forall_mem_cons] at h
      rw [membersToPattern?] at hns
      split at hns
      · rename_i hn hrest
        obtain rfl := Option.some.inj hns
        exact List.forall_mem_cons.mpr
          ⟨lexical_of_toPattern? _ _ h.1 hn, lexical_of_members _ h.2 hrest⟩
      · cases hns
termination_by structural n => n

theorem lexical_of_first : ∀ (ns : List Node) {ns' : List Node}, (∀ n ∈ ns, n.Lexical source) →
    firstToPattern? ns = some ns' → ∀ n ∈ ns', n.Lexical source
  | [], ns', _, hns => by
      rw [firstToPattern?] at hns
      cases hns
  | n :: rest, ns', h, hns => by
      rw [List.forall_mem_cons] at h
      rw [firstToPattern?] at hns
      obtain ⟨n', hn, rfl⟩ := Option.map_eq_some_iff.mp hns
      exact List.forall_mem_cons.mpr ⟨lexical_of_toPattern? _ _ h.1 hn, h.2⟩
termination_by structural n => n

theorem lexical_of_last (role : Role) : ∀ (ns : List Node) {ns' : List Node},
    (∀ n ∈ ns, n.Lexical source) → lastToPattern? role ns = some ns' →
      ∀ n ∈ ns', n.Lexical source
  | [], ns', _, hns => by
      rw [lastToPattern?] at hns
      cases hns
  | [n], ns', h, hns => by
      rw [lastToPattern?] at hns
      obtain ⟨n', hn, rfl⟩ := Option.map_eq_some_iff.mp hns
      exact List.forall_mem_singleton.mpr
        (lexical_of_toPattern? _ _ (List.forall_mem_singleton.mp h) hn)
  | n :: next :: rest, ns', h, hns => by
      rw [List.forall_mem_cons] at h
      rw [lastToPattern?] at hns
      · obtain ⟨rest', hrest, rfl⟩ := Option.map_eq_some_iff.mp hns
        exact List.forall_mem_cons.mpr ⟨h.1, lexical_of_last _ _ h.2 hrest⟩
      · simp
termination_by structural n => n

end

end Node

/-! ## Nodes that are gathered -/

theorem lexical_enclose {kind : Kind} (hkind : kind.isLexeme = false) {first : Node}
    {more : List Node} (h : ∀ n ∈ first :: more, n.Lexical source) :
    (Reader.enclose kind first more).Lexical source :=
  Node.lexical_of_not_isLexeme hkind h

theorem lexical_gather {kind : Kind} (hkind : kind.isLexeme = false) {ns : List Node}
    (h : ∀ n ∈ ns, n.Lexical source) : ∀ n ∈ Reader.gather kind ns, n.Lexical source := by
  have hafter : ∀ n ∈ ns.takeWhile Reader.isExtra, n.Lexical source :=
    fun n hn => h n (List.takeWhile_subset _ hn)
  have hinOrder : ∀ n ∈ (ns.dropWhile Reader.isExtra).reverse, n.Lexical source :=
    fun n hn => h n (List.dropWhile_subset _ (List.mem_reverse.mp hn))
  have hbefore : ∀ n ∈ ((ns.dropWhile Reader.isExtra).reverse.takeWhile Reader.isExtra).reverse,
      n.Lexical source :=
    fun n hn => hinOrder n (List.takeWhile_subset _ (List.mem_reverse.mp hn))
  have hinner : ∀ n ∈ (ns.dropWhile Reader.isExtra).reverse.dropWhile Reader.isExtra,
      n.Lexical source := fun n hn => hinOrder n (List.dropWhile_subset _ hn)
  unfold Reader.gather
  dsimp only
  split
  · exact List.forall_mem_append.mpr ⟨hafter, hbefore⟩
  · rename_i first more heq
    rw [heq] at hinner
    exact List.forall_mem_append.mpr
      ⟨hafter, List.forall_mem_cons.mpr ⟨lexical_enclose hkind hinner, hbefore⟩⟩

theorem lexical_toParameters {ns ns' : List Node} (h : ∀ n ∈ ns, n.Lexical source)
    (hns : toParameters ns = some ns') : ∀ n ∈ ns', n.Lexical source := by
  unfold toParameters at hns
  split at hns
  · obtain ⟨elements, helements, rfl⟩ := Option.map_eq_some_iff.mp hns
    have hreverse : ∀ n ∈ ns.reverse, n.Lexical source := fun n hn => h n (List.mem_reverse.mp hn)
    exact lexical_gather rfl fun n hn =>
      Node.lexical_of_elements _ hreverse helements n (List.mem_reverse.mp hn)
  · cases hns

theorem lexical_argumentsToParameters {n n' : Node} (h : n.Lexical source)
    (hn : argumentsToParameters n = some n') : n'.Lexical source := by
  obtain ⟨l, cs⟩ := n
  unfold argumentsToParameters at hn
  split at hn
  · obtain ⟨elements, helements, rfl⟩ := Option.map_eq_some_iff.mp hn
    exact Node.lexical_of_not_isLexeme rfl
      (Node.lexical_of_elements _ (Node.lexical_mk.mp h).2 helements)
  · cases hn

theorem lexical_toParenthesized {ns ns' : List Node} (h : ∀ n ∈ ns, n.Lexical source)
    (hns : toParenthesized ns = some ns') : ∀ n ∈ ns', n.Lexical source := by
  unfold toParenthesized at hns
  split at hns
  · rename_i opening more hopening
    split at hns
    · rename_i closing inner hclosing
      have hall : ∀ n ∈ opening :: more, n.Lexical source := by
        rw [← hopening]
        exact fun n hn => h n (List.mem_reverse.mp hn)
      have hmore : ∀ n ∈ closing :: inner, n.Lexical source := by
        rw [← hclosing]
        exact fun n hn => (List.forall_mem_cons.mp hall).2 n (List.mem_reverse.mp hn)
      obtain ⟨hclosing, hinner⟩ := List.forall_mem_cons.mp hmore
      obtain rfl := Option.some.inj hns
      refine lexical_gather rfl (List.forall_mem_append.mpr ⟨List.forall_mem_cons.mpr
        ⟨hclosing, ?_⟩, List.forall_mem_singleton.mpr (List.forall_mem_cons.mp hall).1⟩)
      split
      · exact lexical_gather rfl hinner
      · exact hinner
    · cases hns
  · cases hns

end ScriptSpelling.Syntax
