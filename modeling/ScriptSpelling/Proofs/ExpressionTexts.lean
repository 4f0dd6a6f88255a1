import ScriptSpelling.Proofs.ReaderInvariant
import ScriptSpelling.Syntax.Expression

/-!
# Expressions keep what is known of texts

Every reader of a part of an expression keeps `ReaderState.Reads`, as far as the readers of the
parts do that it contains. Most readers keep it because their steps do. The others put a name in
the place of another node, and are read only where the latest node is a name.
-/

namespace ScriptSpelling.Syntax

open Reader ReaderState

-- The readers of expressions have many steps, and an instance for a reader has one part for each.
set_option synthInstance.maxSize 100000

variable {source : List Char} {rules : Rules} [∀ r, Keeps (Reads source) (rules r)]
  {ctx : Context} {m : Nat}

/-! ## Lists and quoted elements -/

instance : Keeps (Reads source) (rules.expression ctx) := by
  unfold Rules.expression; infer_instance
instance : Keeps (Reads source) (parenthesized rules) := by
  unfold parenthesized; dsimp only; infer_instance
instance : Keeps (Reads source) (expressions rules ctx) := by
  unfold expressions; dsimp only; infer_instance
instance {quote : Char} : Keeps (Reads source) (quoteMark quote) := by
  unfold quoteMark; infer_instance

instance {quote : Char} : Keeps (Reads source) (string quote) := by
  unfold Reader.string
  refine .seq inferInstance fun _ => .seq inferInstance fun _ => .seq (.repeated ?_) inferInstance
  refine .seq inferInstance fun _ => .branch inferInstance ?_
  split <;> infer_instance

instance : Keeps (Reads source) anyString := by
  unfold anyString
  refine .seq inferInstance fun _ => ?_
  split <;> infer_instance

instance : Keeps (Reads source) number := by
  unfold number
  refine .seq inferInstance fun _ => ?_
  split <;> infer_instance

instance : Keeps (Reads source) patternComment := by
  unfold patternComment
  refine ⟨leads_rest fun cs => ?_⟩
  dsimp only
  split
  · rename_i n hcomment
    split
    · exact Keeps.leads_and inferInstance
    · rintro s s' a ⟨hs, rfl⟩ h
      obtain ⟨_, t, hleaf, hreturn⟩ := bind_eq_ok.mp h
      obtain ⟨-, rfl⟩ := pure_eq_ok.mp hreturn
      exact leads_leaf ⟨hs, Kind.admits_spaced_comment hcomment⟩ hleaf
  · exact Keeps.leads_and inferInstance

instance {mayEnd : Bool} : Keeps (Reads source) (regex mayEnd) := by
  unfold regex; dsimp only; infer_instance

instance : Keeps (Reads source) (template rules) := by
  unfold template
  refine .seq inferInstance fun _ => .seq inferInstance fun _ => .seq (.repeated ?_) inferInstance
  refine .seq inferInstance fun _ => ?_
  split
  · infer_instance
  · infer_instance
  · refine .seq inferInstance fun _ => .branch inferInstance ?_
    refine .seq inferInstance fun _ => .branch inferInstance ?_
    split <;> infer_instance

/-! ## Functions -/

instance : Keeps (Reads source) (listItem rules) := by unfold listItem; infer_instance
instance : Keeps (Reads source) (arrayLiteral rules) := by unfold arrayLiteral; infer_instance
instance : Keeps (Reads source) (coverArguments rules) := by unfold coverArguments; infer_instance

instance : Keeps (Reads source) settleArguments := by
  unfold settleArguments
  refine .seq inferInstance fun _ => ?_
  split <;> infer_instance

instance : Keeps (Reads source) (arguments rules) := by unfold arguments; infer_instance
instance : Keeps (Reads source) (parameters rules) := by unfold parameters; infer_instance
instance : Keeps (Reads source) (functionRest rules) := by
  unfold functionRest; dsimp only; infer_instance

/-! ## Names of members -/

instance : Keeps (Reads source) (computedName rules) := by unfold computedName; infer_instance

theorem leads_privateName :
    Leads (fun s => s.Reads source ∧ s.rest.head? = some '#') (Reads source)
      memberName.privateName := by
  rintro s s' a ⟨hs, hmark⟩ h
  obtain ⟨cs, t, hrest, hthen⟩ := bind_eq_ok.mp h
  obtain ⟨rfl, rfl⟩ := rest_eq_ok.mp hrest
  obtain ⟨_, t, hrequire, hleaf⟩ := bind_eq_ok.mp hthen
  obtain ⟨-, rfl⟩ := require_eq_ok.mp hrequire
  refine leads_leaf ⟨hs, ?_⟩ hleaf
  obtain ⟨more, hmore⟩ := List.head?_eq_some_iff.mp hmark
  rw [hmore, List.take_succ_cons, List.drop_one, List.tail_cons]
  exact Kind.admits_name (by decide) (spaceless_cons.mpr ⟨by decide, spaceless_word more⟩)

instance : Keeps (Reads source) (memberName rules) := by
  unfold memberName
  refine ⟨leads_peek fun c => ?_⟩
  split
  · exact Keeps.leads_and inferInstance
  · exact Keeps.leads_and inferInstance
  · exact Keeps.leads_and inferInstance
  · exact leads_privateName
  · exact Keeps.leads_and inferInstance
  · exact Keeps.leads_and inferInstance

omit [∀ r, Keeps (Reads source) (rules r)] in
/-- Where a word comes next, the name of a member is that word. -/
theorem leads_memberName_word :
    Leads (fun s => s.Reads source ∧ 0 < wordLength s.rest) (ReadsName source)
      (memberName rules) := by
  rintro s s' a ⟨hs, hword⟩ h
  obtain ⟨c, rest, hrest, hdigit, hc⟩ := exists_of_wordLength_pos hword
  have hmarks : ∀ mark, isWordChar mark = false → mark ≠ '\\' → c ≠ mark := by
    rintro mark hmark hslash rfl
    rcases hc with hc | hc
    · rw [hmark] at hc
      cases hc
    · exact hslash hc
  obtain ⟨c?, t, hpeek, hthen⟩ := bind_eq_ok.mp h
  obtain ⟨hhead, rfl⟩ := peek_eq_ok.mp hpeek
  rw [hrest, List.head?_cons] at hhead
  split at hthen
  · exact absurd (Option.some.inj hhead).symm (hmarks _ (by decide) (by decide))
  · exact absurd (Option.some.inj hhead).symm (hmarks _ (by decide) (by decide))
  · exact absurd (Option.some.inj hhead).symm (hmarks _ (by decide) (by decide))
  · exact absurd (Option.some.inj hhead).symm (hmarks _ (by decide) (by decide))
  · obtain rfl := Option.some.inj hhead
    rw [if_neg (by simp [hdigit, hmarks '.' (by decide) (by decide)])] at hthen
    exact leads_word (by decide) hs hthen
  · cases hhead

instance {text : String} {mayEnd noOperator : Bool} :
    Keeps (Reads source) (modifier text mayEnd noOperator) := by
  unfold modifier; infer_instance
instance {mayEnd noOperator : Bool} :
    Keeps (Reads source) (modifiers.accessors noOperator mayEnd) := by
  unfold modifiers.accessors; infer_instance

instance {mayEnd noOperator : Bool} : Keeps (Reads source) (modifiers mayEnd noOperator) := by
  have hleaf (n : Nat) : Keeps (Reads source) (Reader.leaf (.token "static get") n) :=
    Keeps.silent_leaf ⟨by decide, by decide⟩ n
  unfold modifiers
  refine .seq inferInstance fun _ => ?_
  split <;> infer_instance

instance : Keeps (Reads source) (methodRest rules m) := by unfold methodRest; infer_instance

/-! ## Decorators -/

instance : Keeps (Reads source) (decorator rules) := by unfold decorator; dsimp only; infer_instance
instance : Keeps (Reads source) (decorators rules) := by unfold decorators; infer_instance

/-! ## Objects -/

instance : FromName source (shorthandRest rules m) := by
  have hpattern : FromName source
      (rewriteTop fun n => some (n.withKind .shorthandPropertyIdentifierPattern)) :=
    FromName.withKind (by decide)
  have hname : FromName source
      (rewriteTop fun n => some (n.withKind .shorthandPropertyIdentifier)) :=
    FromName.withKind (by decide)
  unfold shorthandRest; infer_instance

/-- The name that may be all of a member is read only where a word comes next. -/
instance {blockStart : Bool} : Keeps (Reads source) (objectMember rules blockStart) := by
  unfold objectMember
  dsimp only
  refine .seq inferInstance fun _ => .seq inferInstance fun _ => .branch inferInstance ?_
  refine .seq inferInstance fun _ => .seq inferInstance fun _ => ?_
  refine .branch (.seq inferInstance fun _ => ?_) ?_
  all_goals
    refine .seq inferInstance fun _ => ⟨leads_peekWord fun w => ?_⟩
    by_cases hword : (w != "") = true
    · refine Leads.bind (leads_memberName_word.weaken fun s hs => ⟨hs.1, ?_⟩) fun _ =>
        FromName.leads
      refine Nat.pos_of_ne_zero fun hzero => ?_
      simp [← hs.2, hzero] at hword
    · simp only [if_neg hword]
      exact Keeps.leads_and inferInstance

instance : Keeps (Reads source) goesOnAsOperand := by
  unfold goesOnAsOperand
  refine .seq inferInstance fun _ => ?_
  split <;> infer_instance

instance {brace : BraceUse} {mayEnd : Bool} :
    Keeps (Reads source) (emptyIsObject brace mayEnd) := by
  unfold emptyIsObject
  split <;> infer_instance

instance {brace : BraceUse} {mayEnd : Bool} :
    Keeps (Reads source) (objectLiteral rules brace mayEnd) := by
  unfold objectLiteral; dsimp only; infer_instance

/-! ## Classes -/

instance : Keeps (Reads source) (staticBlock rules m) := by unfold staticBlock; infer_instance
instance : Keeps (Reads source) (fieldOrMethod rules m) := by
  unfold fieldOrMethod; dsimp only; infer_instance
instance : Keeps (Reads source) (classBody rules) := by
  unfold classBody; dsimp only; infer_instance
instance : Keeps (Reads source) (classRest rules) := by
  unfold classRest; dsimp only; infer_instance

/-! ## Markup -/

theorem leads_markupWord {kind : Kind} (hkind : kind.name ∈ nameKinds) :
    Leads (Reads source) (ReadsName source) (markupWord kind) := by
  have hword : Leads (Reads source) (ReadsName source) (do word kind; return false) :=
    (leads_word hkind).bind fun _ => Keeps.leads
  unfold markupWord
  refine leads_rest fun cs => ?_
  split
  · rename_i n hdashed
    refine leads_rest fun cs' => ?_
    split
    · rintro s s' a ⟨⟨hs, rfl⟩, -⟩ h
      obtain ⟨_, t, hleaf, hreturn⟩ := bind_eq_ok.mp h
      obtain ⟨-, rfl⟩ := pure_eq_ok.mp hreturn
      exact leads_leaf_name hkind ⟨hs, Kind.admits_name hkind (spaceless_dashed hdashed)⟩ hleaf
    · exact hword.weaken fun s hs => hs.1.1
  · exact hword.weaken fun s hs => hs.1

instance : Keeps (Reads source) (markupWord .identifier) :=
  ⟨fun _ _ _ hs h => (leads_markupWord (by decide) hs h).1⟩

instance : Keeps (Reads source) (namespaceRest m) := by unfold namespaceRest; infer_instance
instance : Keeps (Reads source) tagName := by unfold tagName; infer_instance
instance : Keeps (Reads source) (bracedExpression rules) := by
  unfold bracedExpression; dsimp only; infer_instance

instance {quote : Char} : Keeps (Reads source) (attributeString quote) := by
  unfold attributeString
  refine .seq inferInstance fun _ => .seq inferInstance fun _ => .seq (.repeated ?_) inferInstance
  refine .seq inferInstance fun _ => .branch inferInstance ?_
  refine .seq inferInstance fun _ => .branch inferInstance ?_
  split <;> infer_instance

/-- The name of an attribute becomes that of a namespace where a colon follows. -/
instance : Keeps (Reads source) (tagAttribute rules) := by
  unfold tagAttribute
  dsimp only
  refine .seq inferInstance fun _ => .seq inferInstance fun _ => .branch inferInstance ?_
  refine ⟨(leads_markupWord (by decide)).bind fun _ => (FromName.seq inferInstance fun _ =>
    .seq inferInstance fun _ => .branch ?_ (.plain ?_)).leads⟩
  · refine .andThen (.withKind (by decide)) fun _ => ?_
    refine .seq inferInstance fun _ => .seq inferInstance fun _ => ?_
    refine .seq inferInstance fun _ => .branch ?_ inferInstance
    refine .seq inferInstance fun _ => .seq inferInstance fun _ => .seq inferInstance fun _ => ?_
    split <;> infer_instance
  · refine .seq inferInstance fun _ => .branch ?_ inferInstance
    refine .seq inferInstance fun _ => .seq inferInstance fun _ => .seq inferInstance fun _ => ?_
    split <;> infer_instance

instance : Keeps (Reads source) (markupChildren rules) := by
  unfold markupChildren
  refine .repeated (.seq inferInstance fun _ => ?_)
  split
  · infer_instance
  · refine .seq inferInstance fun _ => .seq inferInstance fun _ => .branch inferInstance ?_
    refine .seq inferInstance fun _ => ?_
    dsimp only
    split
    · infer_instance
    · infer_instance
    · refine .seq inferInstance fun _ => ?_
      split <;> infer_instance
    · infer_instance

instance : Keeps (Reads source) closingTag := by unfold closingTag; dsimp only; infer_instance
instance : Keeps (Reads source) (markup rules) := by unfold markup; infer_instance

/-! ## Operands -/

instance : Keeps (Reads source) peekOperator := by
  unfold peekOperator
  refine .seq inferInstance fun _ => ?_
  split <;> infer_instance

instance : Keeps (Reads source) propertyName := by
  unfold propertyName
  refine .seq inferInstance fun _ => ⟨leads_meets fun b => ?_⟩
  split
  · rename_i hmark
    refine leads_privateName.weaken fun s hs => ⟨hs.1, ?_⟩
    obtain ⟨rest, hrest⟩ := List.isPrefixOf_iff_prefix.mp (hs.2.trans hmark)
    simp [← hrest]
  · exact Keeps.leads_and inferInstance
instance : Keeps (Reads source) (index rules m) := by unfold index; infer_instance
instance {kind : Kind} : Keeps (Reads source) (optionalRest rules m kind) := by
  unfold optionalRest; infer_instance

instance {constructs : Bool} : Keeps (Reads source) (suffix rules ctx m constructs) := by
  unfold suffix
  refine .seq inferInstance fun _ => .seq inferInstance fun _ => .branch inferInstance ?_
  refine .seq inferInstance fun _ => ?_
  split <;> infer_instance

instance {constructs : Bool} : Keeps (Reads source) (suffixes rules ctx m constructs) := by
  unfold suffixes; infer_instance
instance : Keeps (Reads source) (arrowRest rules ctx m) := by
  unfold arrowRest; infer_instance
instance : Keeps (Reads source) (meetsArrow ctx) := by unfold meetsArrow; infer_instance

instance : Keeps (Reads source) (parenthesis rules ctx) := by
  unfold parenthesis
  refine .seq inferInstance fun m => .seq inferInstance fun _ => .seq inferInstance fun _ => ?_
  refine .seq inferInstance fun _ => .seq inferInstance fun _ => .branch inferInstance ?_
  refine ⟨leads_rework fun {ns ns'} hns h => ?_⟩
  dsimp only at h
  split at h
  · cases h
  · split at h
    · cases h
    · exact lexical_toParenthesized hns h

instance {declaration generator : Bool} :
    Fact ((functionKind declaration generator).isLexeme = false) :=
  ⟨by cases declaration <;> cases generator <;> rfl⟩

instance : Keeps (Reads source) (asyncOperand rules ctx) := by
  have hasync : Keeps (Reads source) (rewriteTop fun n => some (n.withKind (.token "async"))) :=
    Keeps.silent_withKind ⟨by decide, by decide⟩
  unfold asyncOperand
  refine .seq inferInstance fun _ => .seq inferInstance fun _ => ?_
  dsimp only
  refine .seq inferInstance fun _ => .branch inferInstance (.seq inferInstance fun _ => ?_)
  refine .branch inferInstance (.branch inferInstance (.branch inferInstance ?_))
  refine .seq inferInstance fun _ => .branch ?_ inferInstance
  refine .seq inferInstance fun _ => .seq inferInstance fun _ => .branch ?_ inferInstance
  refine .seq inferInstance fun _ => .seq ⟨leads_rework fun {ns ns'} hns h => ?_⟩ inferInstance
  split at h
  · obtain rfl := Option.some.inj h
    obtain ⟨hparameters, hmore⟩ := List.forall_mem_cons.mp hns
    refine List.forall_mem_cons.mpr ⟨hparameters, List.forall_mem_map.mpr fun n hn => ?_⟩
    split
    · exact hmore n hn
    · exact (hmore n hn).withKind ⟨by decide, by decide⟩
  · cases h

instance {primary : Reader Unit} [Keeps (Reads source) primary] :
    Keeps (Reads source) (instantiation rules primary ctx) := by
  unfold instantiation; infer_instance

instance : Keeps (Reads source) (importOperand rules) := by
  have hcallee : Keeps (Reads source) (rewriteTop fun n => some (n.withKind .importCallee)) :=
    Keeps.silent_withKind ⟨by decide, by decide⟩
  unfold importOperand; dsimp only; infer_instance

instance {w : String} : Keeps (Reads source) (wordOperand rules ctx w) := by
  unfold wordOperand
  refine .seq inferInstance fun _ => ?_
  split
  · infer_instance
  · split <;> infer_instance

instance : Keeps (Reads source) (primary rules ctx) := by
  unfold primary
  refine .seq inferInstance fun _ => .seq inferInstance fun _ => .seq inferInstance fun _ => ?_
  split <;> infer_instance

instance : Keeps (Reads source) (leftHand rules ctx) := by unfold leftHand; infer_instance
instance : Keeps (Reads source) (assignmentRest rules ctx m) := by
  unfold assignmentRest; dsimp only; infer_instance

instance : Keeps (Reads source) meetsOperand := by
  unfold meetsOperand
  refine .seq inferInstance fun _ => ?_
  split
  · infer_instance
  · refine .branch inferInstance (.branch inferInstance ?_)
    split <;> infer_instance

instance : Keeps (Reads source) (yieldOperand rules ctx) := by
  unfold yieldOperand; infer_instance

instance : Keeps (Reads source) (operand rules ctx) := by
  unfold operand
  refine .seq inferInstance fun m => .seq inferInstance fun _ => ⟨leads_rest fun cs => ?_⟩
  split
  iterate 6
    · exact Keeps.leads_and inferInstance
  · refine (leads_privateName.weaken fun s hs => ⟨hs.1, ?_⟩).bind fun _ => Keeps.leads
    rw [hs.2, List.head?_cons]
  · refine Keeps.leads_and (.seq inferInstance fun _ => ?_)
    split <;> infer_instance

/-! ## Operators after operands -/

instance : Keeps (Reads source) (conditionalRest rules ctx m) := by
  unfold conditionalRest; infer_instance

instance {level : Nat} : Keeps (Reads source) (operatorRest rules ctx level m) := by
  unfold operatorRest
  refine .seq inferInstance fun _ => .branch inferInstance ?_
  refine .seq inferInstance fun _ => .branch inferInstance ?_
  refine .seq inferInstance fun _ => .branch inferInstance ?_
  split <;> infer_instance

instance {level : Nat} : Keeps (Reads source) (operators rules ctx level m) := by
  unfold operators; infer_instance
instance : Keeps (Reads source) (expressionRest rules ctx m) := by
  unfold expressionRest; infer_instance

instance {level : Nat} : Keeps (Reads source) (expression rules ctx level) := by
  unfold expression
  refine .seq inferInstance fun _ => .seq inferInstance fun _ => .seq inferInstance fun _ => ?_
  refine .seq inferInstance fun _ => ?_
  split <;> infer_instance

end ScriptSpelling.Syntax
