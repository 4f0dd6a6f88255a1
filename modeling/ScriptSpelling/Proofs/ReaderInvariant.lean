import Mathlib.Algebra.GroupWithZero.Nat
import ScriptSpelling.Proofs.NodeTexts
import ScriptSpelling.Syntax.Script

/-!
# What every reader keeps

A reader that succeeds leaves a state of which the invariant holds again. `Keeps` is a class, so
that a reader which is put together from others is seen to keep what its parts keep. The invariant
of all readers is `ReaderState.Reads`: what is ahead is what is left of the source at the place, and
the nodes that are finished are right in their texts.

Some readers put a name in the place of another node, which keeps the invariant only where that node
is a name itself. They are read after a name (`FromName`), when only comments can have come between.
-/

namespace ScriptSpelling.Syntax

variable {α β : Type} {source : List Char}

namespace Reader

/-! ## Readers that keep an invariant -/

/-- The reader leads from one condition on the state to another, if it succeeds. -/
def Leads (pre post : ReaderState → Prop) (p : Reader α) : Prop :=
  ∀ ⦃s s' : ReaderState⦄ ⦃a : α⦄, pre s → p s = .ok (a, s') → post s'

/-- The reader keeps a condition on the state, if it succeeds. -/
class Keeps (I : ReaderState → Prop) (p : Reader α) : Prop where
  leads : Leads I I p

variable {I : ReaderState → Prop}

/-! ## Runs that succeed -/

theorem bind_eq_ok {p : Reader α} {q : α → Reader β} {s s' : ReaderState} {b : β} :
    (p >>= q) s = .ok (b, s') ↔ ∃ a t, p s = .ok (a, t) ∧ q a t = .ok (b, s') := by
  change Except.bind (p s) (fun r => q r.1 r.2) = _ ↔ _
  cases p s with
  | error e => simp [Except.bind]
  | ok r => exact ⟨fun h => ⟨r.1, r.2, rfl, h⟩, fun ⟨_, _, hrun, h⟩ => by cases hrun; exact h⟩

theorem pure_eq_ok {a b : α} {s s' : ReaderState} :
    (Pure.pure a : Reader α) s = .ok (b, s') ↔ b = a ∧ s' = s := by
  change Except.ok (a, s) = _ ↔ _
  simp [eq_comm]

theorem require_eq_ok {condition : Bool} {s s' : ReaderState} {u : Unit} :
    require condition s = .ok (u, s') ↔ condition = true ∧ s' = s := by
  unfold require
  split
  · rename_i h
    simp [h, pure_eq_ok]
  · rename_i h
    exact iff_of_false (fun h => nomatch h) (fun h' => h h'.1)

theorem rest_eq_ok {s s' : ReaderState} {cs : List Char} :
    rest s = .ok (cs, s') ↔ cs = s.rest ∧ s' = s := by
  change Except.ok (s.rest, s) = _ ↔ _
  simp [eq_comm]

theorem meets_eq_ok {text : String} {s s' : ReaderState} {b : Bool} :
    meets text s = .ok (b, s') ↔ b = text.toList.isPrefixOf s.rest ∧ s' = s := by
  simp only [meets, bind_eq_ok, rest_eq_ok, pure_eq_ok]
  grind

theorem peek_eq_ok {s s' : ReaderState} {c : Option Char} :
    peek s = .ok (c, s') ↔ c = s.rest.head? ∧ s' = s := by
  simp only [peek, bind_eq_ok, rest_eq_ok, pure_eq_ok]
  grind

theorem peekWord_eq_ok {s s' : ReaderState} {w : String} :
    peekWord s = .ok (w, s')
      ↔ w = String.ofList (s.rest.take (wordLength s.rest)) ∧ s' = s := by
  simp only [peekWord, bind_eq_ok, rest_eq_ok, pure_eq_ok]
  grind

theorem Leads.bind {pre mid post : ReaderState → Prop} {p : Reader α} {q : α → Reader β}
    (hp : Leads pre mid p) (hq : ∀ a, Leads mid post (q a)) : Leads pre post (p >>= q) := by
  intro s s' b hs h
  obtain ⟨a, t, hrun, h⟩ := bind_eq_ok.mp h
  exact hq a (hp hs hrun) h

theorem Leads.weaken {pre pre' post : ReaderState → Prop} {p : Reader α} (hp : Leads pre post p)
    (hpre : ∀ s, pre' s → pre s) : Leads pre' post p := fun _ _ _ hs h => hp (hpre _ hs) h

namespace Keeps

instance pure (a : α) : Keeps I (Pure.pure a : Reader α) :=
  ⟨fun _ _ _ hs h => by cases h; exact hs⟩

instance bind {p : Reader α} {q : α → Reader β} [hp : Keeps I p] [hq : ∀ a, Keeps I (q a)] :
    Keeps I (p >>= q) := ⟨hp.leads.bind fun a => (hq a).leads⟩

instance ite {c : Prop} [Decidable c] {p q : Reader α} [hp : Keeps I p] [hq : Keeps I q] :
    Keeps I (if c then p else q) := by
  split
  · exact hp
  · exact hq

theorem seq {p : Reader α} {q : α → Reader β} (_ : Keeps I p) (_ : ∀ a, Keeps I (q a)) :
    Keeps I (p >>= q) := inferInstance

theorem branch {c : Prop} [Decidable c] {p q : Reader α} (_ : Keeps I p) (_ : Keeps I q) :
    Keeps I (if c then p else q) := inferInstance

theorem run {p : Reader α} [hp : Keeps I p] {s s' : ReaderState} {a : α} (hs : I s)
    (h : p s = .ok (a, s')) : I s' := hp.leads hs h

theorem of_same {p : Reader α} (h : ∀ s a s', p s = .ok (a, s') → s' = s) : Keeps I p :=
  ⟨fun _ _ _ hs hrun => h _ _ _ hrun ▸ hs⟩

instance fail : Keeps I (Reader.fail : Reader α) := ⟨fun _ _ _ _ h => nomatch h⟩

instance get : Keeps I (MonadState.get : Reader ReaderState) :=
  of_same fun s a s' h => by cases h; rfl

/-- What holds of the state is known of a copy of it. -/
theorem of_get {q : ReaderState → Reader α} (hq : ∀ t, I t → Keeps I (q t)) :
    Keeps I ((MonadState.get : Reader ReaderState) >>= q) := ⟨by
  intro s s' a hs h
  obtain ⟨t, t', hget, hthen⟩ := bind_eq_ok.mp h
  cases hget
  exact (hq s hs).leads hs hthen⟩

theorem set {t : ReaderState} (ht : I t) : Keeps I (MonadStateOf.set t : Reader PUnit) :=
  ⟨fun _ _ _ _ h => by cases h; exact ht⟩

instance rest : Keeps I Reader.rest := of_same fun s a s' h => by cases h; rfl

instance mark : Keeps I Reader.mark := of_same fun s a s' h => by cases h; rfl

instance top : Keeps I Reader.top := of_same fun s a s' h => by cases h; rfl

instance ahead {p : Reader α} : Keeps I (Reader.ahead p) := of_same fun s a s' h => by
  unfold Reader.ahead at h
  split at h <;> (cases h; rfl)

instance either {p q : Reader α} [hp : Keeps I p] [hq : Keeps I q] :
    Keeps I (Reader.either p q) := ⟨fun s s' a hs h => by
  unfold Reader.either at h
  split at h
  · rename_i r hrun
    cases h
    exact hp.leads hs hrun
  · split at h
    · rename_i r hrun
      cases h
      exact hq.leads hs hrun
    · cases h⟩

theorem repeatFor {step : Reader Bool} [hstep : Keeps I step] :
    ∀ fuel, Keeps I (Reader.repeatFor step fuel)
  | 0 => fail
  | fuel + 1 => ⟨fun s s' a hs h => by
      rw [Reader.repeatFor] at h
      dsimp only at h
      split at h
      · rename_i hrun
        exact (repeatFor fuel).leads (hstep.leads hs hrun) h
      · rename_i hrun
        cases h
        exact hstep.leads hs hrun
      · cases h⟩

instance loop {step : Reader Bool} [Keeps I step] : Keeps I (Reader.loop step) :=
  ⟨fun s _ _ hs h => (repeatFor (s.left + 2)).leads hs h⟩

theorem repeated {step : Reader Bool} (_ : Keeps I step) : Keeps I (Reader.loop step) :=
  inferInstance

instance require {condition : Bool} : Keeps I (Reader.require condition) := by
  unfold Reader.require; infer_instance
instance topKind : Keeps I Reader.topKind := by unfold Reader.topKind; infer_instance
instance peek : Keeps I Reader.peek := by unfold Reader.peek; infer_instance
instance meets {text : String} : Keeps I (Reader.meets text) := by
  unfold Reader.meets; infer_instance
instance peekWord : Keeps I Reader.peekWord := by unfold Reader.peekWord; infer_instance
instance meetsNoHtml : Keeps I Reader.meetsNoHtml := by unfold Reader.meetsNoHtml; infer_instance

end Keeps

end Reader

/-! ## States of reading a source -/

def byteLength (cs : List Char) : Nat := (cs.map Char.utf8Size).sum

theorem byteLength_cons (c : Char) (cs : List Char) :
    byteLength (c :: cs) = c.utf8Size + byteLength cs := rfl

theorem byteLength_append (cs ds : List Char) :
    byteLength (cs ++ ds) = byteLength cs + byteLength ds := by
  simp [byteLength]

theorem exists_byteLength_cons (c : Char) (cs : List Char) :
    ∃ n, byteLength (c :: cs) = n + 1 ∧ c.utf8Size ≤ n + 1
      ∧ n + 1 - c.utf8Size = byteLength cs := by
  have hpos := c.utf8Size_pos
  refine ⟨byteLength (c :: cs) - 1, ?_, ?_, ?_⟩ <;> (rw [byteLength_cons]; omega)

theorem dropBytes?_byteLength (rest : List Char) : ∀ before : List Char,
    dropBytes? (byteLength before) (before ++ rest) = some rest
  | [] => by simp [byteLength, dropBytes?]
  | c :: before => by
      obtain ⟨n, hn, hle, hsub⟩ := exists_byteLength_cons c before
      rw [hn, List.cons_append, dropBytes?, if_pos hle, hsub, dropBytes?_byteLength rest before]

theorem takeBytes?_byteLength (rest : List Char) : ∀ text : List Char,
    takeBytes? (byteLength text) (text ++ rest) = some text
  | [] => by simp [byteLength, takeBytes?]
  | c :: text => by
      obtain ⟨n, hn, hle, hsub⟩ := exists_byteLength_cons c text
      rw [hn, List.cons_append, takeBytes?, if_pos hle, hsub, takeBytes?_byteLength rest text]
      rfl

namespace Reader

theorem advance_rest : ∀ (n : Nat) (s : ReaderState), (advance n s).rest = s.rest.drop n
  | 0, s => rfl
  | n + 1, s => by
      rw [advance]
      split
      · rename_i h
        simp [h]
      · rename_i h
        rw [advance_rest, h]
        rfl

theorem advance_done : ∀ (n : Nat) (s : ReaderState), (advance n s).done = s.done
  | 0, s => rfl
  | n + 1, s => by
      rw [advance]
      split
      · rfl
      · rw [advance_done]

theorem offset_after (p : Place) (c : Char) : (p.after c).offset = p.offset + c.utf8Size := by
  unfold Place.after
  split <;> rfl

theorem advance_offset : ∀ (n : Nat) (s : ReaderState),
    (advance n s).place.offset = s.place.offset + byteLength (s.rest.take n)
  | 0, s => rfl
  | n + 1, s => by
      rw [advance]
      split
      · rename_i h
        simp [h, byteLength]
      · rename_i h
        rw [advance_offset, h, List.take_succ_cons, byteLength_cons, offset_after, Nat.add_assoc]

end Reader

/-- The state is one of reading the source: what is ahead is what is left of it at the place, and
the nodes that are finished are right in their texts. -/
structure ReaderState.Reads (source : List Char) (s : ReaderState) : Prop where
  place : ∃ before, before ++ s.rest = source ∧ byteLength before = s.place.offset
  nodes : ∀ n ∈ s.done, n.Lexical source

/-- The latest node that is no comment is a name. -/
def ReaderState.NameOnTop (s : ReaderState) : Prop :=
  ∃ n, s.done.find? (!Reader.isExtra ·) = some n ∧ n.kind.name ∈ nameKinds

/-- The state is one of reading the source, and the latest node is a name. -/
def ReaderState.ReadsName (source : List Char) (s : ReaderState) : Prop :=
  s.Reads source ∧ s.NameOnTop

namespace Reader

open ReaderState

theorem Reads.advance {s : ReaderState} (h : s.Reads source) (n : Nat) :
    (advance n s).Reads source := by
  obtain ⟨before, hsource, hoffset⟩ := h.place
  refine ⟨⟨before ++ s.rest.take n, ?_, ?_⟩, ?_⟩
  · rw [advance_rest, List.append_assoc, List.take_append_drop, hsource]
  · rw [advance_offset, byteLength_append, hoffset]
  · rw [advance_done]
    exact h.nodes

theorem textOf?_leaf {s : ReaderState} (h : s.Reads source) (kind : Kind) (n : Nat) :
    textOf? source { kind, start := s.place, stop := (advance n s).place }
      = some (s.rest.take n) := by
  obtain ⟨before, hsource, hoffset⟩ := h.place
  simp only [textOf?, advance_offset]
  rw [← hoffset, ← hsource, dropBytes?_byteLength, Option.bind_some, Nat.add_sub_cancel_left]
  have htake := takeBytes?_byteLength (s.rest.drop n) (s.rest.take n)
  rwa [List.take_append_drop] at htake

theorem leads_leaf {kind : Kind} {n : Nat} :
    Leads (fun s => s.Reads source ∧ kind.Admits (s.rest.take n)) (Reads source)
      (leaf kind n) := by
  rintro s s' a ⟨hs, hadmits⟩ h
  obtain ⟨hplace, hnodes⟩ := Reads.advance hs n
  cases h
  refine ⟨hplace, List.forall_mem_cons.mpr ⟨Node.lexical_mk.mpr ⟨fun text htext => ?_, ?_⟩, hnodes⟩⟩
  · rw [textOf?_leaf hs, Option.some.injEq] at htext
    exact htext ▸ hadmits
  · exact fun _ h => nomatch h

theorem leads_rework {m : Nat} {f : List Node → Option (List Node)}
    (hf : ∀ {ns ns' : List Node}, (∀ n ∈ ns, n.Lexical source) → f ns = some ns' →
      ∀ n ∈ ns', n.Lexical source) : Leads (Reads source) (Reads source) (rework m f) := by
  intro s s' a hs h
  unfold rework at h
  dsimp only at h
  split at h
  · rename_i nodes hnodes
    cases h
    refine ⟨hs.place, List.forall_mem_append.mpr ⟨hf (fun n hn => ?_) hnodes, fun n hn => ?_⟩⟩
    · exact hs.nodes n (List.mem_of_mem_take hn)
    · exact hs.nodes n (List.mem_of_mem_drop hn)
  · cases h

theorem leads_rewriteTop {f : Node → Option Node} {I : ReaderState → Prop}
    (hf : ∀ {s : ReaderState} {n n' : Node}, I s → s.done.find? (!isExtra ·) = some n →
      n.Lexical source → f n = some n' → n'.Lexical source) :
    Leads (fun s => s.Reads source ∧ I s) (Reads source) (rewriteTop f) := by
  rintro s s' a ⟨hs, hI⟩ h
  unfold rewriteTop at h
  dsimp only at h
  split at h
  · rename_i n before heq
    have htop : s.done.find? (!isExtra ·) = some n := by
      simp [List.find?_eq_head?_dropWhile_not, heq]
    have hmem : ∀ d ∈ n :: before, d.Lexical source := by
      rw [← heq]
      exact fun d hd => hs.nodes d (List.dropWhile_subset _ hd)
    split at h
    · rename_i n' hn'
      cases h
      refine ⟨hs.place, List.forall_mem_append.mpr ⟨fun d hd => ?_,
        List.forall_mem_cons.mpr ⟨hf hI htop (hmem n List.mem_cons_self) hn', fun d hd => ?_⟩⟩⟩
      · exact hs.nodes d (List.takeWhile_subset _ hd)
      · exact hmem d (List.mem_cons_of_mem _ hd)
    · cases h
  · cases h

/-! ## Readers that look ahead -/

/-- What a reader sees without moving is known where the next one goes on. -/
theorem leads_look {p : Reader α} {look : ReaderState → α}
    (hp : ∀ {s s' a}, p s = .ok (a, s') → a = look s ∧ s' = s) {post : ReaderState → Prop}
    {q : α → Reader β} (hq : ∀ a, Leads (fun s => I s ∧ look s = a) post (q a)) :
    Leads I post (p >>= q) := by
  intro s s' b hs h
  obtain ⟨a, t, hlook, hthen⟩ := bind_eq_ok.mp h
  obtain ⟨rfl, rfl⟩ := hp hlook
  exact hq _ ⟨hs, rfl⟩ hthen

theorem leads_rest {post : ReaderState → Prop} {q : List Char → Reader α}
    (hq : ∀ cs, Leads (fun s => I s ∧ s.rest = cs) post (q cs)) : Leads I post (rest >>= q) :=
  leads_look rest_eq_ok.mp hq

theorem leads_peek {post : ReaderState → Prop} {q : Option Char → Reader α}
    (hq : ∀ c, Leads (fun s => I s ∧ s.rest.head? = c) post (q c)) :
    Leads I post (peek >>= q) :=
  leads_look peek_eq_ok.mp hq

theorem leads_meets {post : ReaderState → Prop} {text : String} {q : Bool → Reader α}
    (hq : ∀ b, Leads (fun s => I s ∧ text.toList.isPrefixOf s.rest = b) post (q b)) :
    Leads I post (meets text >>= q) :=
  leads_look meets_eq_ok.mp hq

theorem leads_peekWord {post : ReaderState → Prop} {q : String → Reader α}
    (hq : ∀ w, Leads (fun s => I s ∧ String.ofList (s.rest.take (wordLength s.rest)) = w) post
      (q w)) : Leads I post (peekWord >>= q) :=
  leads_look peekWord_eq_ok.mp hq

/-- What is known besides of the state is not needed. -/
theorem Keeps.leads_and {p : Reader α} (hp : Keeps I p) {J : ReaderState → Prop} :
    Leads (fun s => I s ∧ J s) I p := hp.leads.weaken fun _ hs => hs.1

namespace Keeps

theorem silent_leaf {kind : Kind} (hkind : kind.Silent) (n : Nat) :
    Keeps (Reads source) (Reader.leaf kind n) :=
  ⟨fun _ _ _ hs h => leads_leaf ⟨hs, hkind.admits _⟩ h⟩

instance leaf {kind : Kind} {n : Nat} [hkind : Fact (kind.isLexeme = false)] :
    Keeps (Reads source) (Reader.leaf kind n) := silent_leaf (Kind.silent hkind.out) n

instance close {kind : Kind} {m : Nat} [hkind : Fact (kind.isLexeme = false)] :
    Keeps (Reads source) (Reader.close kind m) :=
  ⟨leads_rework fun hns h => Option.some.inj h ▸ lexical_gather hkind.out hns⟩

instance rework_toParameters {m : Nat} : Keeps (Reads source) (rework m toParameters) :=
  ⟨leads_rework lexical_toParameters⟩

instance comment {html : Bool} : Keeps (Reads source) (Reader.comment html) := ⟨by
  intro s s' a hs h
  unfold Reader.comment at h
  split at h
  · exact (inferInstance : Keeps (Reads source) (do Reader.leaf .htmlComment _; return true)).leads
      (Reads.advance hs _) h
  · have hspace : (space s).Reads source := Reads.advance hs _
    dsimp only at h
    split at h
    · rename_i n hcomment
      obtain ⟨_, t, hleaf, hreturn⟩ := bind_eq_ok.mp h
      obtain ⟨-, rfl⟩ := pure_eq_ok.mp hreturn
      refine leads_leaf ⟨hspace, ?_⟩ hleaf
      exact Kind.admits_comment hcomment
    · cases h
      exact hspace⟩

instance skip [Keeps I (Reader.comment true)] : Keeps I Reader.skip := by
  unfold Reader.skip; infer_instance
instance skipToSemicolon [Keeps I (Reader.comment false)] {allowed noOperator : Bool} :
    Keeps I (Reader.skipToSemicolon allowed noOperator) := by
  unfold Reader.skipToSemicolon; infer_instance
instance skipBeforeOperator [Keeps I (Reader.comment false)] :
    Keeps I Reader.skipBeforeOperator := by
  unfold Reader.skipBeforeOperator; infer_instance

instance token {text : String} : Keeps (Reads source) (Reader.token text) := ⟨by
  intro s s' a hs h
  obtain ⟨b, t, hmeets, hthen⟩ := bind_eq_ok.mp h
  obtain ⟨rfl, rfl⟩ := meets_eq_ok.mp hmeets
  obtain ⟨_, t, hrequire, hleaf⟩ := bind_eq_ok.mp hthen
  obtain ⟨hahead, rfl⟩ := require_eq_ok.mp hrequire
  refine leads_leaf ⟨hs, ?_⟩ hleaf
  have htake := List.prefix_iff_eq_take.mp (List.isPrefixOf_iff_prefix.mp hahead)
  rw [← String.length_toList, ← htake]
  exact Kind.admits_token text⟩

instance keyword {text : String} : Keeps (Reads source) (Reader.keyword text) := ⟨by
  intro s s' a hs h
  obtain ⟨w, t, hword, hthen⟩ := bind_eq_ok.mp h
  obtain ⟨rfl, rfl⟩ := peekWord_eq_ok.mp hword
  obtain ⟨_, t, hrequire, hleaf⟩ := bind_eq_ok.mp hthen
  obtain ⟨heq, rfl⟩ := require_eq_ok.mp hrequire
  refine leads_leaf ⟨hs, ?_⟩ hleaf
  obtain rfl := eq_of_beq heq
  have htake : t.rest.take (String.ofList (t.rest.take (wordLength t.rest))).length
      = (String.ofList (t.rest.take (wordLength t.rest))).toList := by
    simp
  rw [htake]
  exact Kind.admits_token _⟩

instance word {kind : Kind} : Keeps (Reads source) (Reader.word kind) := ⟨by
  intro s s' a hs h
  obtain ⟨cs, t, hrest, hthen⟩ := bind_eq_ok.mp h
  obtain ⟨rfl, rfl⟩ := rest_eq_ok.mp hrest
  obtain ⟨_, t, hrequire, hleaf⟩ := bind_eq_ok.mp hthen
  obtain ⟨-, rfl⟩ := require_eq_ok.mp hrequire
  exact leads_leaf ⟨hs, Kind.admits_word kind t.rest⟩ hleaf⟩

instance semicolon {noOperator : Bool} : Keeps (Reads source) (Reader.semicolon noOperator) := by
  unfold Reader.semicolon; infer_instance
instance mayEndHere : Keeps (Reads source) Reader.mayEndHere := by
  unfold Reader.mayEndHere; infer_instance

-- The body is longer than the usual bound on instances allows for.
set_option synthInstance.maxSize 1000 in
instance commaList {closing : String} {holes : Bool} {item : Reader Unit}
    [Keeps (Reads source) item] : Keeps (Reads source) (Reader.commaList closing holes item) := by
  unfold Reader.commaList; infer_instance

instance modify_advance {n : ReaderState → Nat} :
    Keeps (Reads source) (modify fun s => Reader.advance (n s) s : Reader PUnit) :=
  ⟨fun _ _ _ hs h => by cases h; exact Reads.advance hs _⟩

instance rewriteTop_argumentsToParameters :
    Keeps (Reads source) (rewriteTop argumentsToParameters) :=
  ⟨fun _ _ _ hs h => leads_rewriteTop (I := fun _ => True)
    (fun _ _ hn h => lexical_argumentsToParameters hn h) ⟨hs, trivial⟩ h⟩

theorem silent_withKind {kind : Kind} (hkind : kind.Silent) :
    Keeps (Reads source) (rewriteTop fun n => some (n.withKind kind)) :=
  ⟨fun _ _ _ hs h => leads_rewriteTop (I := fun _ => True)
    (fun _ _ hn h => Option.some.inj h ▸ hn.withKind hkind) ⟨hs, trivial⟩ h⟩

instance rewriteTop_toPattern? {role : Role} :
    Keeps (Reads source) (rewriteTop (Node.toPattern? role)) :=
  ⟨fun _ _ _ hs h => leads_rewriteTop (I := fun _ => True)
    (fun _ _ hn h => Node.lexical_of_toPattern? _ _ hn h) ⟨hs, trivial⟩ h⟩

end Keeps

/-! ## Names as the latest nodes -/

theorem NameOnTop.advance {s : ReaderState} (h : s.NameOnTop) (n : Nat) :
    (advance n s).NameOnTop := by
  rw [NameOnTop, advance_done]
  exact h

/-- A comment after a name changes nothing. -/
theorem nameOnTop_leaf {kind : Kind} {n : Nat}
    (hkind : (kind == .comment || kind == .htmlComment) = true) :
    Keeps NameOnTop (leaf kind n) := ⟨by
  intro s s' a hs h
  obtain ⟨top, htop, hname⟩ := NameOnTop.advance hs n
  cases h
  have hextra : isExtra (.mk { kind, start := s.place, stop := (advance n s).place } []) = true :=
    hkind
  exact ⟨top, (List.find?_cons_of_neg (by simp [hextra])).trans htop, hname⟩⟩

instance Keeps.comment_nameOnTop {html : Bool} : Keeps NameOnTop (Reader.comment html) := ⟨by
  have hextra : ∀ (kind : Kind) (n : Nat), (kind == .comment || kind == .htmlComment) = true →
      Keeps NameOnTop (do Reader.leaf kind n; return true) :=
    fun kind n hkind => .seq (nameOnTop_leaf hkind) inferInstance
  intro s s' a hs h
  unfold Reader.comment at h
  split at h
  · exact (hextra .htmlComment _ rfl).leads (NameOnTop.advance hs _) h
  · dsimp only at h
    split at h
    · exact (hextra .comment _ rfl).leads (NameOnTop.advance hs _) h
    · cases h
      exact NameOnTop.advance hs _⟩

instance Keeps.comment_readsName {html : Bool} : Keeps (ReadsName source) (Reader.comment html) :=
  ⟨fun _ _ _ hs h => ⟨Keeps.run hs.1 h, Keeps.run hs.2 h⟩⟩

/-- A name is on top after a word has been read as one. -/
theorem leads_leaf_name {kind : Kind} {n : Nat} (hkind : kind.name ∈ nameKinds) :
    Leads (fun s => s.Reads source ∧ kind.Admits (s.rest.take n)) (ReadsName source)
      (leaf kind n) := by
  intro s s' a hs h
  refine ⟨leads_leaf hs h, ?_⟩
  cases h
  refine ⟨_, List.find?_cons_of_pos ?_, hkind⟩
  have hextra : ¬ (kind = .comment ∨ kind = .htmlComment) := by
    rintro (rfl | rfl) <;> exact absurd hkind (by decide)
  simpa [isExtra, Node.kind, Node.label] using hextra

theorem leads_word {kind : Kind} (hkind : kind.name ∈ nameKinds) :
    Leads (Reads source) (ReadsName source) (word kind) := by
  intro s s' a hs h
  obtain ⟨cs, t, hrest, hthen⟩ := bind_eq_ok.mp h
  obtain ⟨rfl, rfl⟩ := rest_eq_ok.mp hrest
  obtain ⟨_, t, hrequire, hleaf⟩ := bind_eq_ok.mp hthen
  obtain ⟨-, rfl⟩ := require_eq_ok.mp hrequire
  exact leads_leaf_name hkind ⟨hs, Kind.admits_word kind t.rest⟩ hleaf

/-- The reader goes on where the latest node is a name. -/
class FromName (source : List Char) (p : Reader α) : Prop where
  leads : Leads (ReadsName source) (Reads source) p

namespace FromName

instance (priority := low) of_keeps {p : Reader α} [hp : Keeps (Reads source) p] :
    FromName source p := ⟨fun _ _ _ hs h => hp.leads hs.1 h⟩

instance after {p : Reader α} {q : α → Reader β} [hp : Keeps (ReadsName source) p]
    [hq : ∀ a, FromName source (q a)] : FromName source (p >>= q) :=
  ⟨hp.leads.bind fun a => (hq a).leads⟩

instance before {p : Reader α} {q : α → Reader β} [hp : FromName source p]
    [hq : ∀ a, Keeps (Reads source) (q a)] : FromName source (p >>= q) :=
  ⟨hp.leads.bind fun a => (hq a).leads⟩

instance ite {c : Prop} [Decidable c] {p q : Reader α} [hp : FromName source p]
    [hq : FromName source q] : FromName source (if c then p else q) := by
  split
  · exact hp
  · exact hq

theorem seq {p : Reader α} {q : α → Reader β} (_ : Keeps (ReadsName source) p)
    (_ : ∀ a, FromName source (q a)) : FromName source (p >>= q) := inferInstance

theorem branch {c : Prop} [Decidable c] {p q : Reader α} (_ : FromName source p)
    (_ : FromName source q) : FromName source (if c then p else q) := inferInstance

theorem andThen {p : Reader α} {q : α → Reader β} (_ : FromName source p)
    (_ : ∀ a, Keeps (Reads source) (q a)) : FromName source (p >>= q) := inferInstance

theorem plain {p : Reader α} (_ : Keeps (Reads source) p) : FromName source p := inferInstance

theorem withKind {kind : Kind} (hkind : kind.name ∈ nameKinds) :
    FromName source (rewriteTop fun n => some (n.withKind kind)) := ⟨by
  refine leads_rewriteTop fun {s n n'} hname htop hn h => ?_
  obtain ⟨top, htop', hkindTop⟩ := hname
  obtain rfl : n = top := Option.some.inj (htop.symm.trans htop')
  obtain ⟨l, cs⟩ := n
  obtain rfl := Option.some.inj h
  obtain ⟨hl, hcs⟩ := Node.lexical_mk.mp hn
  exact Node.lexical_mk.mpr ⟨fun text htext =>
    Kind.admits_name hkind ((hl text htext).name hkindTop), hcs⟩⟩

end FromName

end Reader

end ScriptSpelling.Syntax
