import Mathlib.Data.List.Dedup
import ScriptSpelling.Proofs.Exemption
import ScriptSpelling.Proofs.Lowercase

/-!
# Histories of exempt words

A set of exempt words starts empty or with the built-in words, and words are added to it, one by
one or many at a time. What it stores after any such steps depends on which words it was given, and
on nothing else: it stores the form of each word that is not blank (`SkipSet.StoresForms`). One step
keeps this up (`SkipSet.StoresForms.step`), and so does a run of them by induction.

The form in which a word is stored is found again by trimming and lowercasing, as neither changes
it (`SkipSet.entry_settled`). So the queries, which lowercase what they are asked for and trim it or
not, are about words as they were given. The main statement is `SkipSet.run_queries`.
-/

namespace ScriptSpelling.SkipSet

/-! ## Steps -/

/-- A step that adds words to a set. -/
inductive Step where
  | insert (word : String)
  | withWords (words : List String)
deriving Repr, DecidableEq

namespace Step

def words : Step → List String
  | insert word => [word]
  | withWords words => words

def apply (s : SkipSet) : Step → SkipSet
  | insert word => s.insert word
  | withWords words => s.withWords words

end Step

def run (s : SkipSet) (steps : List Step) : SkipSet := steps.foldl Step.apply s

inductive Start where
  | empty
  | builtin
deriving Repr, DecidableEq

namespace Start

def set : Start → SkipSet
  | empty => .empty
  | builtin => .builtin

def words : Start → List String
  | empty => []
  | builtin => jargon ++ GlobalNames.all

end Start

/-! ## Stored forms -/

/-- The stored form is not empty, and trimming and lowercasing it change nothing. -/
theorem entry_settled {word : String} (h : Text.trim word ≠ "") :
    entry word ≠ "" ∧ Text.trim (entry word) = entry word
      ∧ Text.lowercase (entry word) = entry word := by
  have hchars : (entry word).toList = Text.lowerChars (Text.trimChars word.toList) := by
    rw [entry, Text.lowercase, Text.trim, String.toList_ofList, String.toList_ofList]
  refine ⟨fun hempty => h ?_, ?_, Text.lowercase_lowercase _⟩
  · rw [hempty, String.toList_empty, eq_comm, Text.lowerChars_eq_nil_iff] at hchars
    rw [Text.trim, hchars]
  · rw [Text.trim, hchars, Text.trimChars_of_trimmed (Text.trimmed_trimChars _).lowerChars,
      ← hchars, String.ofList_toList]

/-! ## What is stored -/

/-- The set stores the forms of the given words and nothing else. -/
def StoresForms (s : SkipSet) (given : List String) : Prop := ∀ e, e ∈ s ↔ e ∈ entries given

namespace StoresForms

theorem empty : StoresForms .empty [] := fun _ => Iff.rfl

theorem insert {s : SkipSet} {given : List String} (h : s.StoresForms given) (word : String) :
    (s.insert word).StoresForms (given ++ [word]) := by
  intro e
  rw [mem_insert_iff, h e, entries_append, List.mem_append]

theorem withWords {s : SkipSet} {given : List String} (h : s.StoresForms given)
    (words : List String) : (s.withWords words).StoresForms (given ++ words) := by
  intro e
  rw [mem_withWords_iff, h e, entries_append, List.mem_append]

theorem step {s : SkipSet} {given : List String} (h : s.StoresForms given) :
    ∀ step : Step, (step.apply s).StoresForms (given ++ step.words)
  | .insert word => h.insert word
  | .withWords words => h.withWords words

theorem run : ∀ (steps : List Step) {s : SkipSet} {given : List String},
    s.StoresForms given → (s.run steps).StoresForms (given ++ steps.flatMap Step.words)
  | [], s, given, h => by rwa [List.flatMap_nil, List.append_nil]
  | step :: more, s, given, h => by
      have hmore := run more (h.step step)
      rwa [List.append_assoc, ← List.flatMap_cons] at hmore

theorem start : ∀ start : Start, start.set.StoresForms start.words
  | .empty => empty
  | .builtin => empty.withWords _

/-! ## What is answered -/

variable {s : SkipSet} {given : List String}

theorem mem_iff (h : s.StoresForms given) {e : String} :
    e ∈ s ↔ ∃ word ∈ given, Text.trim word ≠ "" ∧ e = Text.lowercase (Text.trim word) :=
  (h e).trans mem_entries

theorem settled (h : s.StoresForms given) {e : String} (he : e ∈ s) :
    e ≠ "" ∧ Text.trim e = e ∧ Text.lowercase e = e := by
  obtain ⟨word, -, hblank, rfl⟩ := h.mem_iff.mp he
  exact entry_settled hblank

theorem isExempt_iff (h : s.StoresForms given) {q : String} :
    s.isExempt q = true ↔ ∃ word ∈ given, Text.trim word ≠ ""
      ∧ Text.lowercase q = Text.lowercase (Text.trim word) :=
  SkipSet.isExempt_iff.trans h.mem_iff

theorem isExemptWhole (h : s.StoresForms given) {word : String} (hword : word ∈ given)
    (hblank : Text.trim word ≠ "") : s.isExemptWhole word = true :=
  h.isExempt_iff.mpr ⟨word, hword, hblank, rfl⟩

theorem size_eq (h : s.StoresForms given) : s.size = (entries given).dedup.length := by
  -- Nothing is stored twice, so the stored words are the distinct forms in some order.
  have hperm : s.words.Perm (entries given).dedup :=
    (List.perm_ext_iff_of_nodup s.nodup (List.nodup_dedup _)).mpr fun e =>
      (h e).trans List.mem_dedup.symm
  exact hperm.length_eq

end StoresForms

theorem intersects_iff {s : SkipSet} {words : List String} :
    s.intersects words = true ↔ ∃ word ∈ words, s.isExempt word = true := by
  rw [intersects, List.any_eq_true]

/-- The queries see of a set only what it stores, and not in which order. -/
theorem answers_eq {s t : SkipSet} (h : ∀ e, e ∈ s ↔ e ∈ t) :
    (∀ q, s.isExempt q = t.isExempt q) ∧ (∀ q, s.isExemptWhole q = t.isExemptWhole q)
      ∧ (∀ words, s.intersects words = t.intersects words)
      ∧ s.size = t.size ∧ s.isEmpty = t.isEmpty := by
  have hperm : s.words.Perm t.words := (List.perm_ext_iff_of_nodup s.nodup t.nodup).mpr h
  have hexempt : s.isExempt = t.isExempt := by
    funext q
    rw [Bool.eq_iff_iff, isExempt_iff, isExempt_iff, h]
  refine ⟨congrFun hexempt, fun q => congrFun hexempt _, fun words => ?_, hperm.length_eq,
    hperm.isEmpty_eq⟩
  rw [intersects, intersects, hexempt]

/-- **What a history of exempt words comes to.** Start from the set without words or from the
built-in one, and take any steps. The set stores the trimmed and lowercased form of each word that
it was given and that is not blank, and nothing else; each stored form is not empty and is left
alone by trimming and lowercasing. So a word is exempt if it is, but for case, a given word without
the white space around it; white space around the word itself matters unless it is asked for as a
whole. The size is the number of distinct forms. Another history with the same words that are not
blank, in whatever order and grouping, answers alike, and a given word is exempt as a whole after
whatever steps follow. -/
theorem run_queries (start : Start) (steps : List Step) :
    let s := start.set.run steps
    let given := start.words ++ steps.flatMap Step.words
    (∀ e, e ∈ s ↔ ∃ v ∈ given, Text.trim v ≠ "" ∧ e = Text.lowercase (Text.trim v))
      ∧ (∀ e ∈ s, e ≠ "" ∧ Text.trim e = e ∧ Text.lowercase e = e)
      ∧ (∀ q, s.isExempt q = true
        ↔ ∃ v ∈ given, Text.trim v ≠ "" ∧ Text.lowercase q = Text.lowercase (Text.trim v))
      ∧ (∀ q, s.isExemptWhole q = true ↔ ∃ v ∈ given, Text.trim v ≠ ""
        ∧ Text.lowercase (Text.trim q) = Text.lowercase (Text.trim v))
      ∧ (∀ words, s.intersects words = true ↔ ∃ word ∈ words, s.isExempt word = true)
      ∧ s.size = (entries given).dedup.length
      ∧ (∀ (start' : Start) (steps' : List Step),
        (∀ v, Text.trim v ≠ "" → (v ∈ given ↔ v ∈ start'.words ++ steps'.flatMap Step.words)) →
          let t := start'.set.run steps'
          (∀ q, s.isExempt q = t.isExempt q) ∧ (∀ q, s.isExemptWhole q = t.isExemptWhole q)
            ∧ (∀ words, s.intersects words = t.intersects words)
            ∧ s.size = t.size ∧ s.isEmpty = t.isEmpty)
      ∧ ∀ more : List Step, ∀ v ∈ given, Text.trim v ≠ "" →
        (s.run more).isExemptWhole v = true := by
  intro s given
  have hstores : s.StoresForms given := (StoresForms.start start).run steps
  refine ⟨fun e => hstores.mem_iff, fun e => hstores.settled, fun q => hstores.isExempt_iff,
    fun q => hstores.isExempt_iff, fun words => intersects_iff, hstores.size_eq, ?_, ?_⟩
  · intro start' steps' hsame
    have hstores' := (StoresForms.start start').run steps'
    refine answers_eq fun e => ?_
    rw [hstores.mem_iff, hstores'.mem_iff]
    constructor
    · rintro ⟨v, hv, hblank, heq⟩
      exact ⟨v, (hsame v hblank).mp hv, hblank, heq⟩
    · rintro ⟨v, hv, hblank, heq⟩
      exact ⟨v, (hsame v hblank).mpr hv, hblank, heq⟩
  · intro more v hv hblank
    exact (hstores.run more).isExemptWhole (List.mem_append_left _ hv) hblank

/-- Two words in another order, with blank words among them; one ends in a sigma. -/
theorem run_queries_reordered :
    let s := Start.empty.set.run [.insert " MyCorp ", .withWords ["", "ΑΣ", "mycorp"]]
    let t := Start.empty.set.run [.withWords ["ΑΣ", "mycorp"], .insert " \t", .insert " MyCorp "]
    s.isExempt "MYCORP" = true ∧ s.isExempt " MyCorp " = false
      ∧ s.isExemptWhole " MyCorp " = true ∧ s.isExempt "ας" = true
      ∧ s.size = 2 ∧ t.size = 2
      ∧ (t.run [.insert "other"]).isExemptWhole " MyCorp " = true := by
  intro s t
  obtain ⟨-, -, hexempt, hwhole, -, hsize, hsame, -⟩ := run_queries .empty
    [.insert " MyCorp ", .withWords ["", "ΑΣ", "mycorp"]]
  obtain ⟨-, -, -, -, -, -, -, hafter⟩ := run_queries .empty
    [.withWords ["ΑΣ", "mycorp"], .insert " \t", .insert " MyCorp "]
  have hblank : Text.trim " MyCorp " ≠ "" := by decide +kernel
  have htwo : s.size = 2 := hsize.trans (by decide +kernel)
  have hwords (v : String) (hv : Text.trim v ≠ "") : v ∈ [" MyCorp ", "", "ΑΣ", "mycorp"]
      ↔ v ∈ ["ΑΣ", "mycorp", " \t", " MyCorp "] := by
    have hempty : v ≠ "" := fun h => hv (by rw [h]; decide)
    have hspaces : v ≠ " \t" := fun h => hv (by rw [h]; decide +kernel)
    simp only [List.mem_cons, List.not_mem_nil, hempty, hspaces, false_or, or_false]
    rw [or_comm, or_assoc]
  obtain ⟨-, -, -, hsizes, -⟩ := hsame .empty
    [.withWords ["ΑΣ", "mycorp"], .insert " \t", .insert " MyCorp "] hwords
  have hforms : Text.lowercase "MYCORP" = Text.lowercase (Text.trim " MyCorp ")
      ∧ Text.lowercase "ας" = Text.lowercase (Text.trim "ΑΣ") ∧ Text.trim "ΑΣ" ≠ "" := by
    decide +kernel
  refine ⟨(hexempt _).mpr ⟨" MyCorp ", by decide, hblank, hforms.1⟩, by decide +kernel,
    (hwhole _).mpr ⟨" MyCorp ", by decide, hblank, rfl⟩,
    (hexempt _).mpr ⟨"ΑΣ", by decide, hforms.2.2, hforms.2.1⟩, htwo, hsizes.symm.trans htwo,
    hafter [.insert "other"] " MyCorp " (by decide) hblank⟩

end ScriptSpelling.SkipSet
