import ScriptSpelling.Proofs.ExpressionTexts
import ScriptSpelling.Syntax.Repair

/-!
# Names and comments of a script

Statements keep what is known of texts as expressions do, and so does a whole script, however deep
its constructs nest (`keeps_ruleReader`). So a script that is read to its end has names without
space and line comments on one line. Where it is not, what is left is a fault: text that fits
nowhere, or a name or mark that is absent (`Node.MarksFault`).

The main statement is `parse_spec`.
-/

namespace ScriptSpelling.Syntax

open Reader ReaderState

-- The readers of statements have many steps, and an instance for a reader has one part for each.
set_option synthInstance.maxSize 10000000

variable {source : List Char} {rules : Rules} [∀ r, Keeps (Reads source) (rules r)]
  {ctx : Context} {m : Nat}

/-! ## Declarations, imports and exports -/

instance {condition : Prop} [Decidable condition] {kind kind' : Kind}
    [hkind : Fact (kind.isLexeme = false)] [hkind' : Fact (kind'.isLexeme = false)] :
    Fact ((if condition then kind else kind').isLexeme = false) := by
  split
  · exact hkind
  · exact hkind'

instance : Keeps (Reads source) (binding rules) := by unfold binding; infer_instance
instance : Keeps (Reads source) (initializer rules ctx) := by unfold initializer; infer_instance
instance : Keeps (Reads source) (declarators rules) := by unfold declarators; infer_instance
instance {w : String} : Keeps (Reads source) (variableDeclaration rules w) := by
  unfold variableDeclaration; infer_instance

instance {declares : Bool} : Keeps (Reads source) (functionOrClass.endDeclaration declares) := by
  unfold functionOrClass.endDeclaration; infer_instance

instance : Keeps (Reads source) continuesOperand := by unfold continuesOperand; infer_instance

instance {canBeOperand : Bool} : Keeps (Reads source) (functionOrClass rules m canBeOperand) := by
  unfold functionOrClass; dsimp only; infer_instance

instance : Keeps (Reads source) meetsAsyncFunction := by unfold meetsAsyncFunction; infer_instance
instance : Keeps (Reads source) (declaration rules) := by unfold declaration; infer_instance

instance : Keeps (Reads source) exchangedName := by
  unfold exchangedName
  refine .seq inferInstance fun _ => .seq inferInstance fun _ => ?_
  split <;> infer_instance

instance {name : Reader Unit} [Keeps (Reads source) name] :
    Keeps (Reads source) (otherName name) := by
  unfold otherName; infer_instance
instance : Keeps (Reads source) fromClause := by unfold fromClause; infer_instance

instance {kind itemKind : Kind} {item : Reader Unit} [Keeps (Reads source) item]
    [Fact (kind.isLexeme = false)] [Fact (itemKind.isLexeme = false)] :
    Keeps (Reads source) (specifiers kind itemKind item) := by
  unfold specifiers; dsimp only; infer_instance

instance : Keeps (Reads source) importSpecifier := by unfold importSpecifier; infer_instance

instance {kind : Kind} {name : Reader Unit} [Keeps (Reads source) name]
    [Fact (kind.isLexeme = false)] : Keeps (Reads source) (wholeModule kind name) := by
  unfold wholeModule; infer_instance

instance : Keeps (Reads source) namedImports := by unfold namedImports; infer_instance
instance : Keeps (Reads source) importClause := by unfold importClause; dsimp only; infer_instance

instance : Keeps (Reads source) importAttributes.settle := by
  unfold importAttributes.settle
  refine .seq inferInstance fun _ => ?_
  split <;> infer_instance

instance : Keeps (Reads source) (importAttributes rules) := by
  unfold importAttributes; infer_instance

instance : Keeps (Reads source) (importStatement rules) := by
  unfold importStatement
  refine .seq inferInstance fun _ => .seq inferInstance fun _ => .seq inferInstance fun _ => ?_
  refine .seq inferInstance fun _ => ?_
  dsimp only
  split <;> infer_instance

instance : Keeps (Reads source) exportSpecifier := by unfold exportSpecifier; infer_instance
instance : Keeps (Reads source) (exportedValue rules) := by
  unfold exportedValue; dsimp only; infer_instance

instance {decorated : Bool} : Keeps (Reads source) (exportStatement rules m decorated) := by
  unfold exportStatement
  refine .seq inferInstance fun _ => .seq inferInstance fun _ => .seq inferInstance fun _ => ?_
  refine .seq inferInstance fun _ => .seq inferInstance fun _ => .seq inferInstance fun _ => ?_
  dsimp only
  split <;> infer_instance

/-! ## Statements -/

instance : Keeps (Reads source) (blockRest rules m) := by unfold blockRest; infer_instance
instance : Keeps (Reads source) (block rules) := by unfold block; infer_instance
instance {brace : BraceUse} : Keeps (Reads source) (expressionStatement rules brace) := by
  unfold expressionStatement; infer_instance
instance : Keeps (Reads source) (operandStatement rules m) := by
  unfold operandStatement; dsimp only; infer_instance

instance : Keeps (Reads source) meetsBracedCall := by unfold meetsBracedCall; infer_instance

instance {asObject : Reader Unit} [Keeps (Reads source) asObject] :
    Keeps (Reads source) (bracedCall rules asObject) := by
  unfold bracedCall
  refine .of_get fun start hstart => ?_
  have hset := Keeps.set hstart
  refine .seq inferInstance fun _ => .seq inferInstance fun _ => .seq inferInstance fun _ => ?_
  refine .seq inferInstance fun _ => .seq inferInstance fun _ => .seq inferInstance fun _ => ?_
  refine .seq inferInstance fun _ => .of_get fun afterArguments hafter => ?_
  have hset' := Keeps.set hafter
  dsimp only
  infer_instance

instance : Keeps (Reads source) meetsEmptyOperand := by unfold meetsEmptyOperand; infer_instance
instance {asObject : Reader Unit} [Keeps (Reads source) asObject] :
    Keeps (Reads source) (objectOrBlock rules asObject) := by
  unfold objectOrBlock; infer_instance
instance : Keeps (Reads source) (arrowBody rules ctx) := by unfold arrowBody; infer_instance
instance : Keeps (Reads source) (functionStatement rules m) := by
  unfold functionStatement; infer_instance

instance : Keeps (Reads source) (ifStatement rules m) := by
  unfold ifStatement; dsimp only; infer_instance
instance : Keeps (Reads source) (caseBody rules) := by unfold caseBody; infer_instance
instance : Keeps (Reads source) (switchStatement rules m) := by
  unfold switchStatement; dsimp only; infer_instance
instance : Keeps (Reads source) meetsLoopLet := by unfold meetsLoopLet; infer_instance
instance : Keeps (Reads source) (loopTarget rules) := by
  unfold loopTarget; dsimp only; infer_instance
instance : Keeps (Reads source) (forInRest rules m) := by unfold forInRest; infer_instance
instance : Keeps (Reads source) (loopPart rules) := by unfold loopPart; infer_instance
instance : Keeps (Reads source) (forRest rules m) := by
  unfold forRest; dsimp only; infer_instance
instance : Keeps (Reads source) (forStatement rules m) := by unfold forStatement; infer_instance
instance {w : String} {kind : Kind} [Fact (kind.isLexeme = false)] :
    Keeps (Reads source) (guardedStatement rules w kind m) := by
  unfold guardedStatement; infer_instance
instance : Keeps (Reads source) (doStatement rules m) := by
  unfold doStatement; dsimp only; infer_instance
instance : Keeps (Reads source) (tryStatement rules m) := by
  unfold tryStatement; dsimp only; infer_instance

instance {w : String} {kind : Kind} [Fact (kind.isLexeme = false)] :
    Keeps (Reads source) (jumpStatement w kind m) := by
  unfold jumpStatement; dsimp only; infer_instance
instance : Keeps (Reads source) (returnStatement rules m) := by
  unfold returnStatement; dsimp only; infer_instance
instance : Keeps (Reads source) (throwStatement rules m) := by
  unfold throwStatement; infer_instance

instance : Keeps (Reads source) meetsLabel := by unfold meetsLabel; infer_instance
instance : Keeps (Reads source) meetsLet := by unfold meetsLet; infer_instance
instance : Keeps (Reads source) meetsExport := by unfold meetsExport; infer_instance
instance : Keeps (Reads source) meetsImport := by unfold meetsImport; infer_instance

instance {w : String} : Keeps (Reads source) (wordStatement rules m w) := by
  unfold wordStatement
  dsimp only
  split <;> infer_instance

instance : Keeps (Reads source) (decoratedStatement rules m) := by
  unfold decoratedStatement; infer_instance

instance : Keeps (Reads source) (statement rules) := by
  unfold statement
  refine .seq inferInstance fun _ => .seq inferInstance fun _ => .seq inferInstance fun _ => ?_
  split <;> infer_instance

/-! ## Scripts -/

instance : Keeps (Reads source) interpreterLine := by unfold interpreterLine; infer_instance
instance : Keeps (Reads source) (script rules) := by unfold script; infer_instance

/-- However deep the constructs nest, reading them keeps what is known of texts. -/
instance keeps_ruleReader : ∀ (fuel : Nat) (rule : Rule),
    Keeps (Reads source) (ruleReader fuel rule)
  | 0, _ => Keeps.fail
  | fuel + 1, rule => by
      have hrules := keeps_ruleReader fuel
      cases rule <;> (rw [ruleReader]; infer_instance)

theorem reads_ofSource (source : List Char) : (ReaderState.ofSource source).Reads source :=
  ⟨⟨[], rfl, rfl⟩, fun _ h => nomatch h⟩

theorem lexical_of_readScript {nodes : List Node} (h : readScript source = .ok nodes) :
    ∀ n ∈ nodes, n.Lexical source := by
  unfold readScript at h
  split at h
  · rename_i s hrun
    obtain rfl := Except.ok.inj h
    have hs : s.Reads source := Keeps.run (reads_ofSource source) hrun
    exact fun n hn => hs.nodes n (List.mem_reverse.mp hn)
  · cases h

/-! ## Faults -/

/-- The node marks text that fits nowhere, or an absent name or mark. -/
def Node.MarksFault (n : Node) : Prop :=
  n.kind = .error ∧ n.label.missing = false
    ∨ n.label.missing = true ∧ n.kind ∈ [Kind.identifier, .token "\x7d", .token ";", .token ")",
      .token "]"]

theorem marksFault_awayNode (start stop : Place) (nodes : List Node) (whole : Bool) :
    (awayNode start stop nodes whole).MarksFault := .inl ⟨rfl, rfl⟩

theorem marksFault_of_mem_awayRepairs {s : ReaderState} {stop : Nat} {r : Repair}
    (h : r ∈ awayRepairs s stop) : r.fault.MarksFault := by
  unfold awayRepairs at h
  simp only [List.mem_flatMap, List.mem_filterMap] at h
  obtain ⟨k, -, gone, -, hrepair⟩ := h
  unfold awayRepair at hrepair
  split at hrepair
  · cases hrepair
  · obtain rfl := Option.some.inj hrepair
    exact marksFault_awayNode _ _ _ _

theorem marksFault_of_mem_absentRepairs {s : ReaderState} {stop : Nat} {r : Repair}
    (h : r ∈ absentRepairs s stop) : r.fault.MarksFault := by
  unfold absentRepairs at h
  obtain ⟨⟨kind, text⟩, hkind, rfl⟩ := List.mem_map.mp h
  refine .inr ⟨rfl, ?_⟩
  have hkinds := List.mem_map_of_mem (f := Prod.fst) hkind
  exact hkinds

theorem mem_of_cheapest {r : Repair} : ∀ {repairs : List Repair} {best : Option Repair},
    cheapest source best repairs = some r → r ∈ repairs ∨ best = some r
  | [], best, h => .inr h
  | first :: more, best, h => by
      rw [cheapest] at h
      split at h
      · exact .inr h
      · split at h
        · exact .inl (Option.some.inj h ▸ List.mem_cons_self)
        · rcases mem_of_cheapest h with hmem | hbest
          · exact .inl (List.mem_cons_of_mem _ hmem)
          · cases best with
            | none => exact .inl (Option.some.inj hbest ▸ List.mem_cons_self)
            | some b => exact .inr hbest
        · exact (mem_of_cheapest h).imp_left (List.mem_cons_of_mem _)

theorem marksFault_faultNode (source : List Char) (s : ReaderState) :
    (faultNode source s).MarksFault := by
  unfold faultNode
  dsimp only
  split
  · rename_i r hcheapest
    rcases mem_of_cheapest hcheapest with hmem | hbest
    · have hrepairs := List.mem_mergeSort.mp (List.mem_of_mem_take hmem)
      rcases List.mem_append.mp hrepairs with haway | habsent
      · exact marksFault_of_mem_awayRepairs haway
      · exact marksFault_of_mem_absentRepairs habsent
    · cases hbest
  · exact marksFault_awayNode _ _ _ _

theorem Node.MarksFault.firstFault? {n : Node} (h : n.MarksFault) : n.firstFault? = some n := by
  obtain ⟨l, cs⟩ := n
  have hfault : l.isFault = true := by
    rcases h with ⟨hkind, -⟩ | ⟨hmissing, -⟩
    · exact Bool.or_eq_true_iff.mpr (.inl (beq_iff_eq.mpr hkind))
    · exact Bool.or_eq_true_iff.mpr (.inr hmissing)
  rw [Node.firstFault?, if_pos hfault]

/-! ## Sources -/

/-- **Texts of names and comments.** A source that can be read has a tree in which no name holds
space and no line comment goes on behind its line. Otherwise its fault is that of text which fits
nowhere, or of an absent name or mark. -/
theorem parse_spec (source : String) :
    (∃ root, scriptTree.read source = .ok ⟨source.toList, root⟩ ∧ root.Lexical source.toList)
      ∨ ∃ n, scriptTree.read source = .error (faultAt source.toList n) ∧ n.MarksFault := by
  cases hread : readScript source.toList with
  | ok nodes =>
      refine .inl ⟨scriptTree source.toList, ?_, ?_⟩
      · unfold Grammar.read SourceTree.accept scriptTree
        rw [hread]
        rfl
      · unfold scriptTree
        rw [hread]
        exact Node.lexical_of_not_isLexeme rfl (lexical_of_readScript hread)
  | error s =>
      refine .inr ⟨faultNode source.toList s, ?_, marksFault_faultNode _ s⟩
      have hfault := (marksFault_faultNode source.toList s).firstFault?
      unfold Grammar.read SourceTree.accept scriptTree
      rw [hread]
      simp [Node.firstFault?, firstFaultIn?, Label.isFault, hfault]

end ScriptSpelling.Syntax
