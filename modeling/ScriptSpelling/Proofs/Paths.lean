import Mathlib.Data.List.Basic
import ScriptSpelling.Files.Path

/-!
# Paths joined and taken apart

`SeenFrom` says case by case what a path is that is named in one directory and used from another,
and `seenFrom_iff` that joining gives this path and no other. For taking the parent, paths are
read as their parts: parts of joined texts are joined parts (`parts_append`), and the parts with
slashes between them are the path again (`intercalate_parts`). So the parent of a file in a
directory is this directory to the letter, as long as the directory ends in a name
(`parent_join`).
-/

namespace ScriptSpelling.Files

/-! ## Joining -/

/-- The path `q` is the path `p` seen from the directory `base`. -/
inductive SeenFrom (base p : String) : String → Prop
  | absolute (habsolute : p.toList.head? = some '/') : SeenFrom base p p
  | here (hbase : base = "") : SeenFrom base p p
  | below (hrelative : p.toList.head? ≠ some '/') (hbase : base ≠ "")
      (hslash : base.toList.getLast? ≠ some '/') : SeenFrom base p (base ++ "/" ++ p)
  | within (hrelative : p.toList.head? ≠ some '/') (hslash : base.toList.getLast? = some '/') :
      SeenFrom base p (base ++ p)

theorem join_eq (base p : String) :
    join base p = if p.toList.head? = some '/' ∨ base = "" then p
      else if base.toList.getLast? = some '/' then base ++ p else base ++ "/" ++ p := by
  have hnil : base.toList = [] ↔ base = "" := String.toList_eq_nil_iff
  apply String.toList_inj.mp
  simp only [join, joinChars, isAbsolute, String.toList_ofList, Bool.or_eq_true, beq_iff_eq,
    List.isEmpty_iff, hnil]
  split
  · rfl
  · split <;> simp [String.toList_append]

theorem seenFrom_iff {base p q : String} : SeenFrom base p q ↔ q = join base p := by
  rw [join_eq]
  constructor
  · rintro (habsolute | hbase | ⟨hrelative, hbase, hslash⟩ | ⟨hrelative, hslash⟩)
    · rw [if_pos (.inl habsolute)]
    · rw [if_pos (.inr hbase)]
    · rw [if_neg (not_or.mpr ⟨hrelative, hbase⟩), if_neg hslash]
    · have hbase : base ≠ "" := by
        rintro rfl
        simp at hslash
      rw [if_neg (not_or.mpr ⟨hrelative, hbase⟩), if_pos hslash]
  · rintro rfl
    split
    · rename_i h
      exact h.elim .absolute .here
    · rename_i h
      obtain ⟨hrelative, hbase⟩ := not_or.mp h
      split
      · rename_i hslash
        exact .within hrelative hslash
      · rename_i hslash
        exact .below hrelative hbase hslash

/-! ## Parts -/

theorem parts_ne_nil (path : List Char) : parts path ≠ [] := by
  fun_induction parts path <;> simp

theorem parts_append (x y : List Char) : parts (x ++ '/' :: y) = parts x ++ parts y := by
  induction x with
  | nil => simp [parts]
  | cons c x ih =>
      rw [List.cons_append, parts, parts, ih]
      split
      · rfl
      · cases hx : parts x with
        | nil => exact absurd hx (parts_ne_nil x)
        | cons part more => rfl

theorem parts_of_not_mem {x : List Char} (h : '/' ∉ x) : parts x = [x] := by
  induction x with
  | nil => rfl
  | cons c x ih =>
      rw [List.mem_cons, not_or] at h
      have hc : ¬ (c == '/') = true := fun hc => h.1 (beq_iff_eq.mp hc).symm
      rw [parts, ih h.2, if_neg hc]

theorem intercalate_parts (x : List Char) : List.intercalate ['/'] (parts x) = x := by
  induction x with
  | nil => rfl
  | cons c x ih =>
      rw [parts]
      cases hx : parts x with
      | nil => exact absurd hx (parts_ne_nil x)
      | cons part more =>
          rw [hx] at ih
          split
          · rename_i hc
            rw [beq_iff_eq.mp hc, List.intercalate_cons_cons, ih]
            rfl
          · cases more with
            | nil =>
                rw [List.intercalate_singleton] at ih ⊢
                rw [ih]
            | cons part' more =>
                rw [List.intercalate_cons_cons] at ih ⊢
                rw [← ih]
                rfl

/-! ## Parents -/

/-- The last part of the path is a name. -/
def EndsInName (path : List Char) : Prop :=
  ∃ part, (parts path).getLast? = some part ∧ isIdle part = false

theorem EndsInName.ne_nil {path : List Char} (h : EndsInName path) : path ≠ [] := by
  rintro rfl
  obtain ⟨part, hpart, hname⟩ := h
  obtain rfl : [] = part := by simpa [parts] using hpart
  cases hname

/-- A path that starts at the root ends in a name if what follows the first slash does. -/
theorem endsInName_cons_slash {path : List Char} :
    EndsInName ('/' :: path) ↔ EndsInName path := by
  have hparts : (parts ('/' :: path)).getLast? = (parts path).getLast? := by
    obtain ⟨part, more, hpath⟩ := List.exists_cons_of_ne_nil (parts_ne_nil path)
    rw [parts, if_pos (by rfl), hpath, List.getLast?_cons_cons]
  rw [EndsInName, hparts, EndsInName]

/-- Without its last name and the slash before it, a path is as it was before these were added. -/
theorem kept_append {dir name : List Char} (hdir : EndsInName dir) (hslash : '/' ∉ name)
    (hname : isIdle name = false) :
    ((((parts (dir ++ '/' :: name)).reverse.dropWhile isIdle).drop 1).dropWhile isIdle).reverse
      = parts dir := by
  obtain ⟨part, hlast, hpart⟩ := hdir
  have hreverse : (parts dir).reverse.head? = some part := by rw [List.head?_reverse, hlast]
  rw [parts_append, parts_of_not_mem hslash, List.reverse_append, List.reverse_singleton,
    List.singleton_append, List.dropWhile_cons_of_neg (by simp [hname]), List.drop_one,
    List.tail_cons]
  cases hparts : (parts dir).reverse with
  | nil => rw [hparts] at hreverse; cases hreverse
  | cons p more =>
      rw [hparts] at hreverse
      obtain rfl := Option.some.inj hreverse
      rw [List.dropWhile_cons_of_neg (by simp [hpart]), ← hparts, List.reverse_reverse]

/-- Where any parts are kept, the parent is made of these. -/
theorem parentChars_eq {path body : List Char} {kept : List (List Char)}
    (hbody : (if isAbsolute path then path.drop 1 else path) = body)
    (hkept : ((((parts body).reverse.dropWhile isIdle).drop 1).dropWhile isIdle).reverse = kept)
    (hne : kept ≠ []) :
    parentChars path = (if isAbsolute path then ['/'] else []) ++ List.intercalate ['/'] kept := by
  subst hbody hkept
  have hempty := List.isEmpty_eq_false_iff.mpr hne
  simp only [parentChars, hempty, Bool.false_eq_true, if_false]

theorem parentChars_append {dir name : List Char} (hdir : EndsInName dir) (hslash : '/' ∉ name)
    (hname : isIdle name = false) : parentChars (dir ++ '/' :: name) = dir := by
  cases dir with
  | nil => exact absurd rfl hdir.ne_nil
  | cons c dir =>
      -- The slash of the root is no separator: it is taken off before the path is cut into parts.
      by_cases hc : c = '/'
      · subst hc
        have hkept := kept_append (endsInName_cons_slash.mp hdir) hslash hname
        have hparent : parentChars ('/' :: dir ++ '/' :: name)
            = ['/'] ++ List.intercalate ['/'] (parts dir) :=
          parentChars_eq rfl hkept (parts_ne_nil dir)
        rw [hparent, intercalate_parts]
        rfl
      · have hrelative : isAbsolute (c :: dir ++ '/' :: name) = false := by simp [isAbsolute, hc]
        have hkept := kept_append hdir hslash hname
        rw [parentChars_eq (by rw [hrelative]; rfl) hkept (parts_ne_nil (c :: dir)),
          intercalate_parts, hrelative]
        rfl

theorem EndsInName.getLast?_ne {path : List Char} (h : EndsInName path) :
    path.getLast? ≠ some '/' := by
  intro hslash
  obtain ⟨start, rfl⟩ := List.getLast?_eq_some_iff.mp hslash
  obtain ⟨part, hpart, hname⟩ := h
  rw [parts_append, List.getLast?_append] at hpart
  obtain rfl : [] = part := by simpa [parts] using hpart
  cases hname

/-- Where a directory ends in a name, it is the parent of every file in it. -/
theorem parent_join {dir name : String} (hdir : EndsInName dir.toList) (hslash : '/' ∉ name.toList)
    (hname : isIdle name.toList = false) : parent (join dir name) = dir := by
  have hrelative : name.toList.head? ≠ some '/' := fun h => hslash (List.mem_of_mem_head? h)
  have hdirname : dir ≠ "" := by
    rintro rfl
    exact hdir.ne_nil rfl
  rw [join_eq, if_neg (not_or.mpr ⟨hrelative, hdirname⟩), if_neg hdir.getLast?_ne, parent]
  have hchars : (dir ++ "/" ++ name).toList = dir.toList ++ '/' :: name.toList := by
    simp [String.toList_append]
  rw [hchars, parentChars_append hdir hslash hname, String.ofList_toList]

theorem endsInName_join (base : String) {name : String} (hslash : '/' ∉ name.toList)
    (hname : isIdle name.toList = false) : EndsInName (join base name).toList := by
  have hparts : parts name.toList = [name.toList] := parts_of_not_mem hslash
  have hrelative : name.toList.head? ≠ some '/' := fun h => hslash (List.mem_of_mem_head? h)
  refine ⟨name.toList, ?_, hname⟩
  rw [join_eq]
  split
  · rw [hparts]
    rfl
  · split
    · rename_i hbase
      obtain ⟨start, hstart⟩ := List.getLast?_eq_some_iff.mp hbase
      have hchars : (base ++ name).toList = start ++ '/' :: name.toList := by
        simp [String.toList_append, hstart]
      rw [hchars, parts_append, hparts, List.getLast?_append]
      rfl
    · have hchars : (base ++ "/" ++ name).toList = base.toList ++ '/' :: name.toList := by
        simp [String.toList_append]
      rw [hchars, parts_append, hparts, List.getLast?_append]
      rfl

end ScriptSpelling.Files
