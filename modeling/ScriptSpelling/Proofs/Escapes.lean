import Mathlib.Data.Nat.Digits.Defs
import ScriptSpelling.Literal

/-!
# Every escaping of a text is undone

The body of a string literal is written as a sequence of pieces: plain characters, escapes in
each of their forms, and line continuations (`Piece`). A piece carries the proof that it is one,
so a list of pieces is a well-formed body. What it is written as and what it stands for are two
functions of their own, which do not mention the decoder.

The decoder returns to the state `plain` with the last character of a piece. The one exception is
a continuation that ends in CR, which still waits for an LF; as no piece starts with an LF, it is
never given one. So a piece is read alike whatever comes before and after it (`unescape_piece`),
and a body by induction over its pieces (`unescape_written`). The main statement is
`value?_literal`.
-/

namespace ScriptSpelling.Literal

/-! ## Numbers of 32 bits -/

/-- The number in 32 bits, if it fits. -/
def word? (n : Nat) : Option UInt32 := if n < UInt32.size then some (.ofNat n) else none

theorem le_of_hexFrom? : ∀ {cs : List Char} {acc n : Nat}, hexFrom? acc cs = some n → acc ≤ n
  | [], acc, n, h => Nat.le_of_eq (Option.some.inj h)
  | c :: cs, acc, n, h => by
      rw [hexFrom?] at h
      split at h
      · have hle := le_of_hexFrom? h
        omega
      · cases h

/-- Reading in 32 bits gives what reading without a bound gives, if that fits. A value that is too
large at one digit stays so, because digits only make it larger. -/
theorem hexWordFrom?_eq : ∀ (cs : List Char) (acc : UInt32),
    hexWordFrom? acc cs = (hexFrom? acc.toNat cs).bind word?
  | [], acc => by
      rw [hexWordFrom?, hexFrom?, Option.bind_some, word?, if_pos acc.toNat_lt, UInt32.ofNat_toNat]
  | c :: cs, acc => by
      rw [hexWordFrom?, hexFrom?]
      cases hexDigit? c with
      | none => rfl
      | some d =>
          dsimp only
          by_cases hfits : acc.toNat * 16 + d < UInt32.size
          · have hnext : (acc * 16 + UInt32.ofNat d).toNat = acc.toNat * 16 + d := by
              simp only [UInt32.size] at hfits
              simp only [UInt32.toNat_add, UInt32.toNat_mul, UInt32.toNat_ofNat',
                UInt32.reduceToNat]
              omega
            rw [if_pos hfits, hexWordFrom?_eq cs, hnext]
          · rw [if_neg hfits]
            cases hread : hexFrom? (acc.toNat * 16 + d) cs with
            | none => rfl
            | some n =>
                have hle := le_of_hexFrom? hread
                rw [Option.bind_some, word?, if_neg (by omega)]

/-! ## Hexadecimal digits as they are written -/

/-- A hexadecimal digit: its value, and whether it is written as a capital. -/
structure HexDigit where
  value : Fin 16
  capital : Bool
deriving Repr, DecidableEq

namespace HexDigit

def char (d : HexDigit) : Char :=
  if d.capital then (Nat.digitChar d.value).toUpper else Nat.digitChar d.value

def number (ds : List HexDigit) : Nat := Nat.ofDigits 16 (ds.reverse.map (·.value.val))

theorem hexDigit?_char : ∀ d : HexDigit, hexDigit? d.char = some d.value.val := by
  have hall : ∀ (v : Fin 16) (b : Bool), hexDigit? (char ⟨v, b⟩) = some v.val := by decide
  exact fun ⟨v, b⟩ => hall v b

theorem char_ne (d : HexDigit) {c : Char} (h : hexDigit? c = none) : d.char ≠ c := by
  rintro rfl
  rw [hexDigit?_char] at h
  cases h

theorem number_cons (d : HexDigit) (ds : List HexDigit) :
    number (d :: ds) = d.value.val * 16 ^ ds.length + number ds := by
  rw [number, List.reverse_cons, List.map_append, Nat.ofDigits_append, List.length_map,
    List.length_reverse, List.map_singleton, Nat.ofDigits_singleton, number, Nat.mul_comm,
    Nat.add_comm]

theorem hexFrom?_map_char : ∀ (ds : List HexDigit) (acc : Nat),
    hexFrom? acc (ds.map char) = some (acc * 16 ^ ds.length + number ds)
  | [], acc => by simp [hexFrom?, number]
  | d :: ds, acc => by
      rw [List.map_cons, hexFrom?, hexDigit?_char]
      simp only
      rw [hexFrom?_map_char ds, number_cons, List.length_cons, Nat.pow_succ']
      ring_nf

theorem hexWordFrom?_map_char (ds : List HexDigit) :
    hexWordFrom? 0 (ds.map char) = word? (number ds) := by
  rw [hexWordFrom?_eq, hexFrom?_map_char, Option.bind_some, UInt32.toNat_zero, Nat.zero_mul,
    Nat.zero_add]

theorem hexNumber?_map_char {ds : List HexDigit} (h : ds ≠ []) :
    hexNumber? (ds.map char) = word? (number ds) := by
  cases ds with
  | nil => exact absurd rfl h
  | cons d ds =>
      have hplus : d.char ≠ '+' := d.char_ne (by decide)
      rw [← hexWordFrom?_map_char, List.map_cons, hexNumber?.eq_def]
      split
      · contradiction
      · rename_i heq
        exact absurd (List.cons.inj heq).1 hplus
      · rename_i heq
        exact absurd (List.cons.inj heq).1 hplus
      · rfl

end HexDigit

/-! ## Pieces of a body -/

/-- The escapes of control characters: the letter after the backslash, and what it stands for. -/
def controls : List (Char × Char) :=
  [('n', '\n'), ('t', '\t'), ('r', '\r'), ('b', '\x08'), ('f', '\x0c'), ('v', '\x0b'),
    ('0', '\x00')]

/-- The characters after a backslash that do not stand for themselves, digits apart. -/
def reserved : List Char :=
  ['n', 't', 'r', 'b', 'f', 'v', 'x', 'u', '\n', '\r', '\u2028', '\u2029']

/-- The line ends that a backslash continues the text over. -/
def lineEnds : List (List Char) := [['\n'], ['\r'], ['\r', '\n']]

/-- A piece of the body of a string literal. -/
inductive Piece where
  /-- A character that is written as it is. -/
  | plain (c : Char) (h : c ∉ ['\\', '\'', '"', '\n', '\r'])
  /-- The escape of a control character by a letter. -/
  | control (letter c : Char) (h : (letter, c) ∈ controls)
  /-- An escape by two hexadecimal digits. -/
  | byte (a b : HexDigit)
  /-- An escape by four hexadecimal digits that name a character. -/
  | unit (a b c d : HexDigit) (h : (HexDigit.number [a, b, c, d]).isValidChar)
  /-- An escape by any number of hexadecimal digits in braces that name a character. -/
  | braced (ds : List HexDigit) (hne : ds ≠ []) (h : (HexDigit.number ds).isValidChar)
  /-- A backslash before a character that stands for itself. -/
  | identity (c : Char) (h : c ∉ reserved) (hdigit : c.isDigit = false)
  /-- A backslash before a line end, which stands for nothing. -/
  | continuation (lineEnd : List Char) (h : lineEnd ∈ lineEnds)

namespace Piece

def written : Piece → List Char
  | plain c _ => [c]
  | control letter _ _ => ['\\', letter]
  | byte a b => '\\' :: 'x' :: [a, b].map HexDigit.char
  | unit a b c d _ => '\\' :: 'u' :: [a, b, c, d].map HexDigit.char
  | braced ds _ _ => '\\' :: 'u' :: '{' :: (ds.map HexDigit.char ++ ['}'])
  | identity c _ _ => ['\\', c]
  | continuation lineEnd _ => '\\' :: lineEnd

/-- The text that the piece stands for. -/
def value : Piece → List Char
  | plain c _ => [c]
  | control _ c _ => [c]
  | byte a b => [Char.ofNat (HexDigit.number [a, b])]
  | unit a b c d _ => [Char.ofNat (HexDigit.number [a, b, c, d])]
  | braced ds _ _ => [Char.ofNat (HexDigit.number ds)]
  | identity c _ _ => [c]
  | continuation _ _ => []

end Piece

def written (pieces : List Piece) : List Char := pieces.flatMap Piece.written

def denoted (pieces : List Piece) : List Char := pieces.flatMap Piece.value

inductive Quote where
  | single
  | double
deriving Repr, DecidableEq

def Quote.char : Quote → Char
  | single => '\''
  | double => '"'

/-- A string literal: a body between two equal quotation marks. -/
def literal (q : Quote) (pieces : List Piece) : String :=
  String.ofList (q.char :: written pieces ++ [q.char])

/-! ## The decoder on one escape -/

theorem scalar?_of_valid {n : Nat} (h : n.isValidChar) : scalar? n = some (Char.ofNat n) := by
  rw [scalar?, dif_pos h, Char.ofNat, dif_pos h]

/-- Every number that names a character fits 32 bits. -/
theorem word?_bind_scalar? (n : Nat) : ((word? n).bind fun w => scalar? w.toNat) = scalar? n := by
  by_cases hfits : n < UInt32.size
  · rw [word?, if_pos hfits, Option.bind_some, UInt32.toNat_ofNat_of_lt' hfits]
  · have hinvalid : ¬ n.isValidChar := by
      simp only [UInt32.size] at hfits
      rw [Nat.isValidChar]
      omega
    rw [word?, if_neg hfits, Option.bind_none, scalar?, dif_neg hinvalid]

theorem codePoint_map_char (letter : Char) {ds : List HexDigit} (hne : ds ≠ [])
    (h : (HexDigit.number ds).isValidChar) :
    codePoint letter (ds.map HexDigit.char) = [Char.ofNat (HexDigit.number ds)] := by
  rw [codePoint, HexDigit.hexNumber?_map_char hne, word?_bind_scalar?, scalar?_of_valid h]

theorem number_pair_valid (a b : HexDigit) : (HexDigit.number [a, b]).isValidChar := by
  have hnumber : HexDigit.number [a, b] = a.value.val * 16 + b.value.val := by
    rw [HexDigit.number_cons, HexDigit.number_cons]
    simp [HexDigit.number]
  have ha := a.value.isLt
  have hb := b.value.isLt
  rw [hnumber]
  exact .inl (by omega)

namespace Reading

theorem run_cons (r : Reading) (c : Char) (cs : List Char) :
    r.run (c :: cs) = (r.step c).1 ++ run (r.step c).2 cs := rfl

/-- A numeric escape takes as many digits as it may still take, and is over with the last. -/
theorem run_digits (letter : Char) (rest : List Char) : ∀ (ds : List HexDigit) (seen : List Char),
    ds ≠ [] → run (digits letter ds.length seen) (ds.map HexDigit.char ++ rest)
      = codePoint letter (seen.reverse ++ ds.map HexDigit.char) ++ run plain rest
  | [d], seen, _ => by
      simp [run_cons, step, digit, HexDigit.hexDigit?_char]
  | d :: d' :: ds, seen, _ => by
      have ih := run_digits letter rest (d' :: ds) (d.char :: seen) (List.cons_ne_nil _ _)
      have hstep : step (digits letter (d :: d' :: ds).length seen) d.char
          = ([], digits letter (d' :: ds).length (d.char :: seen)) := by
        simp [step, digit, HexDigit.hexDigit?_char]
      rw [List.map_cons, List.cons_append, run_cons, hstep, ih]
      simp

/-- Digits that name a character are read as that character. -/
theorem run_digits_of_valid (letter : Char) {ds : List HexDigit} (hne : ds ≠ [])
    (h : (HexDigit.number ds).isValidChar) (rest : List Char) :
    run (digits letter ds.length []) (ds.map HexDigit.char ++ rest)
      = Char.ofNat (HexDigit.number ds) :: unescape rest := by
  rw [run_digits letter rest ds [] hne, List.reverse_nil, List.nil_append,
    codePoint_map_char letter hne h]
  rfl

/-- An escape in braces goes to the first closing brace. -/
theorem run_braces (rest : List Char) : ∀ (cs seen : List Char), '}' ∉ cs →
    run (braces seen) (cs ++ '}' :: rest) = codePoint 'u' (seen.reverse ++ cs) ++ run plain rest
  | [], seen, _ => by
      simp [run_cons, step]
  | c :: cs, seen, h => by
      rw [List.mem_cons, not_or] at h
      have ih := run_braces rest cs (c :: seen) h.2
      have hstep : step (braces seen) c = ([], braces (c :: seen)) := by
        rw [step, if_neg (Ne.symm h.1)]
      rw [List.cons_append, run_cons, hstep, ih]
      simp

/-- After the letter `u`, everything but an opening brace is read like the first of four digits. -/
theorem run_unicode {cs : List Char} (h : cs.head? ≠ some '{') :
    run unicode cs = run (digits 'u' 4 []) cs := by
  cases cs with
  | nil => rfl
  | cons c cs =>
      have hc : c ≠ '{' := fun heq => h (by rw [heq]; rfl)
      have hstep : step unicode c = step (digits 'u' 4 []) c := by
        rw [step, if_neg hc]
        rfl
      rw [run_cons, run_cons, hstep]

theorem head?_map_char_ne (ds : List HexDigit) {rest : List Char}
    (h : ds = [] → rest.head? ≠ some '{') :
    (ds.map HexDigit.char ++ rest).head? ≠ some '{' := by
  cases ds with
  | nil => exact h rfl
  | cons d ds => exact fun heq => d.char_ne (by decide) (Option.some.inj heq)

theorem escape_of_not_reserved {c : Char} (h : c ∉ reserved) (hdigit : c.isDigit = false) :
    escape c = ([c], plain) := by
  unfold escape
  split <;> first | rfl | exact absurd (by decide) h | exact absurd hdigit (by decide)

end Reading

/-! ## The decoder on a body -/

open Reading

theorem unescape_cons_backslash (cs : List Char) : unescape ('\\' :: cs) = backslash.run cs := by
  rw [unescape, run_cons, step, begin, if_pos rfl]
  rfl

theorem unescape_control {letter c : Char} (h : (letter, c) ∈ controls) (rest : List Char) :
    unescape ('\\' :: letter :: rest) = c :: unescape rest := by
  have hescape : escape letter = ([c], plain) := by
    simp only [controls, List.mem_cons, Prod.mk.injEq, List.not_mem_nil, or_false] at h
    rcases h with h | h | h | h | h | h | h <;> obtain ⟨rfl, rfl⟩ := h <;> rfl
  rw [unescape_cons_backslash, run_cons, step, hescape]
  rfl

/-- A continuation is read to its end, unless an LF after it belongs to the line end as well. -/
theorem unescape_continuation {lineEnd : List Char} (h : lineEnd ∈ lineEnds) {rest : List Char}
    (hrest : rest.head? ≠ some '\n') : unescape ('\\' :: (lineEnd ++ rest)) = unescape rest := by
  rw [unescape_cons_backslash]
  simp only [lineEnds, List.mem_cons, List.not_mem_nil, or_false] at h
  rcases h with rfl | rfl | rfl
  · rfl
  · cases rest with
    | nil => rfl
    | cons c cs =>
        have hc : c ≠ '\n' := fun heq => hrest (by rw [heq]; rfl)
        have hstep : step afterReturn c = begin c := by rw [step, if_neg hc]
        show afterReturn.run (c :: cs) = unescape (c :: cs)
        rw [run_cons, hstep]
        rfl
  · rfl

theorem unescape_cons_of_ne {c : Char} (h : c ≠ '\\') (rest : List Char) :
    unescape (c :: rest) = c :: unescape rest := by
  have hbegin : begin c = ([c], Reading.plain) := by rw [begin, if_neg h]
  rw [unescape, run_cons, step, hbegin]
  rfl

/-- An escape by four digits is read as what its digits write. -/
theorem unescape_unit (a b c d : HexDigit) (rest : List Char) :
    unescape ('\\' :: 'u' :: ([a, b, c, d].map HexDigit.char ++ rest))
      = codePoint 'u' ([a, b, c, d].map HexDigit.char) ++ unescape rest := by
  have hbrace : ([a, b, c, d].map HexDigit.char ++ rest).head? ≠ some '{' :=
    head?_map_char_ne [a, b, c, d] nofun
  rw [unescape_cons_backslash, run_cons]
  exact (run_unicode hbrace).trans (run_digits 'u' rest [a, b, c, d] [] (List.cons_ne_nil _ _))

/-- An escape in braces is read as what the characters up to the closing brace write. -/
theorem unescape_braced {cs : List Char} (h : '}' ∉ cs) (rest : List Char) :
    unescape ('\\' :: 'u' :: '{' :: (cs ++ '}' :: rest)) = codePoint 'u' cs ++ unescape rest := by
  have hbraces := run_braces rest cs [] h
  rw [unescape_cons_backslash, run_cons, run_cons]
  exact hbraces

theorem brace_not_mem_map_char (ds : List HexDigit) : '}' ∉ ds.map HexDigit.char := by
  intro hmem
  obtain ⟨d, -, hd⟩ := List.mem_map.mp hmem
  exact d.char_ne (by decide) hd

/-- A piece is read as what it stands for, and what follows is read as if it stood alone. -/
theorem unescape_piece (p : Piece) {rest : List Char} (hrest : rest.head? ≠ some '\n') :
    unescape (p.written ++ rest) = p.value ++ unescape rest := by
  cases p with
  | plain c h =>
      have hc : c ≠ '\\' := fun heq => h (by simp [heq])
      exact unescape_cons_of_ne hc rest
  | control letter c h => exact unescape_control h rest
  | byte a b =>
      show unescape ('\\' :: 'x' :: ([a, b].map HexDigit.char ++ rest)) = _
      rw [unescape_cons_backslash, run_cons]
      exact run_digits_of_valid 'x' (List.cons_ne_nil _ _) (number_pair_valid a b) rest
  | unit a b c d h =>
      show unescape ('\\' :: 'u' :: ([a, b, c, d].map HexDigit.char ++ rest)) = _
      rw [unescape_unit, codePoint_map_char 'u' (List.cons_ne_nil _ _) h]
      rfl
  | braced ds hne h =>
      show unescape ('\\' :: 'u' :: '{' :: (ds.map HexDigit.char ++ ['}'] ++ rest)) = _
      rw [List.append_assoc, List.singleton_append, unescape_braced (brace_not_mem_map_char ds),
        codePoint_map_char 'u' hne h]
      rfl
  | identity c h hdigit =>
      show unescape ('\\' :: c :: rest) = c :: unescape rest
      rw [unescape_cons_backslash, run_cons, step, escape_of_not_reserved h hdigit]
      rfl
  | continuation lineEnd h => exact unescape_continuation h hrest

/-- Let each element of a list be written so that it is read as its value before anything but an
LF, and let none be written with an LF at the start. Then a whole list is read element by
element. -/
theorem unescape_flatMap {α : Type} {f g : α → List Char}
    (hread : ∀ a {rest : List Char}, rest.head? ≠ some '\n' →
      unescape (f a ++ rest) = g a ++ unescape rest)
    (hhead : ∀ a (rest : List Char), (f a ++ rest).head? ≠ some '\n')
    {rest : List Char} (hrest : rest.head? ≠ some '\n') :
    ∀ as : List α, unescape (as.flatMap f ++ rest) = as.flatMap g ++ unescape rest
  | [] => rfl
  | a :: as => by
      have hmore : (as.flatMap f ++ rest).head? ≠ some '\n' := by
        cases as with
        | nil => exact hrest
        | cons a' as =>
            rw [List.flatMap_cons, List.append_assoc]
            exact hhead a' _
      calc unescape ((a :: as).flatMap f ++ rest)
          = unescape (f a ++ (as.flatMap f ++ rest)) := by
            rw [List.flatMap_cons, List.append_assoc]
        _ = g a ++ (as.flatMap g ++ unescape rest) := by
            rw [hread a hmore, unescape_flatMap hread hhead hrest as]
        _ = (a :: as).flatMap g ++ unescape rest := by
            rw [List.flatMap_cons, List.append_assoc]

theorem head_piece_ne (p : Piece) (rest : List Char) : (p.written ++ rest).head? ≠ some '\n' := by
  cases p with
  | plain c h =>
      intro heq
      obtain rfl : c = '\n' := Option.some.inj heq
      exact h (by decide)
  | control _ _ _ | byte _ _ | unit _ _ _ _ _ | braced _ _ _ | identity _ _ _
  | continuation _ _ => simp [Piece.written]

/-- A body is read as what it stands for, and what follows is read as if it stood alone. -/
theorem unescape_written (pieces : List Piece) {rest : List Char}
    (hrest : rest.head? ≠ some '\n') :
    unescape (written pieces ++ rest) = denoted pieces ++ unescape rest :=
  unescape_flatMap (fun p _ hp => unescape_piece p hp) head_piece_ne hrest pieces

theorem unescape_written_nil (pieces : List Piece) :
    unescape (written pieces) = denoted pieces := by
  have h : unescape (written pieces ++ []) = denoted pieces ++ unescape [] :=
    unescape_written pieces (by simp)
  have hnil : unescape [] = [] := rfl
  rwa [hnil, List.append_nil, List.append_nil] at h

/-! ## Whole literals -/

theorem body?_quoted (q : Quote) (body : List Char) :
    body? (q.char :: body ++ [q.char]) = some body := by
  have hquote : q.char = '"' ∨ q.char = '\'' := by cases q <;> simp [Quote.char]
  simp [body?, hquote]

theorem exists_piece (c : Char) : ∃ p : Piece, p.value = [c] := by
  by_cases h : c ∈ ['\\', '\'', '"', '\n', '\r']
  · simp only [List.mem_cons, List.not_mem_nil, or_false] at h
    rcases h with rfl | rfl | rfl | rfl | rfl
    · exact ⟨.identity '\\' (by decide) rfl, rfl⟩
    · exact ⟨.identity '\'' (by decide) rfl, rfl⟩
    · exact ⟨.identity '"' (by decide) rfl, rfl⟩
    · exact ⟨.control 'n' '\n' (by decide), rfl⟩
    · exact ⟨.control 'r' '\r' (by decide), rfl⟩
  · exact ⟨.plain c h, rfl⟩

theorem exists_pieces : ∀ cs : List Char, ∃ pieces : List Piece, denoted pieces = cs
  | [] => ⟨[], rfl⟩
  | c :: cs => by
      obtain ⟨p, hp⟩ := exists_piece c
      obtain ⟨more, hmore⟩ := exists_pieces cs
      refine ⟨p :: more, ?_⟩
      rw [denoted, List.flatMap_cons, hp, ← denoted, hmore]
      rfl

/-- **Escaping is undone.** A literal in either quotation marks, whose body is any sequence of
pieces that stands for the text `s`, is read as `s`; and each text is written by some sequence.
Every piece of a body is read as what it stands for, whatever pieces come before and after it. -/
theorem value?_literal :
    (∀ (s : String) (q : Quote) (pieces : List Piece), denoted pieces = s.toList →
        value? (literal q pieces) = some s)
      ∧ (∀ s : String, ∃ pieces, denoted pieces = s.toList)
      ∧ ∀ (before : List Piece) (p : Piece) (after : List Piece),
          unescape (written (before ++ p :: after))
            = unescape (written before) ++ p.value ++ unescape (written after) := by
  refine ⟨fun s q pieces hs => ?_, fun s => exists_pieces s.toList, fun before p after => ?_⟩
  · rw [value?, literal, String.toList_ofList, body?_quoted, Option.map_some,
      unescape_written_nil, hs, String.ofList_toList]
  · simp only [unescape_written_nil, denoted, List.flatMap_append, List.flatMap_cons,
      List.append_assoc]

/-- Pieces of every form side by side: a short escape before a digit, a continuation that ends in
CR before a further one, and leading zeros in braces. -/
theorem value?_literal_adjacent :
    denoted [.byte ⟨4, false⟩ ⟨1, false⟩, .continuation ['\r'] (by decide),
        .continuation ['\n'] (by decide), .control '0' '\x00' (by decide), .plain '7' (by decide),
        .unit ⟨0, false⟩ ⟨0, false⟩ ⟨14, true⟩ ⟨9, false⟩ (by decide),
        .braced [⟨0, false⟩, ⟨0, false⟩, ⟨4, false⟩, ⟨2, false⟩] (by decide) (by decide),
        .identity '"' (by decide) rfl] = "A\x007éB\"".toList
      ∧ value? (literal .double [.byte ⟨4, false⟩ ⟨1, false⟩, .continuation ['\r'] (by decide),
        .continuation ['\n'] (by decide), .control '0' '\x00' (by decide), .plain '7' (by decide),
        .unit ⟨0, false⟩ ⟨0, false⟩ ⟨14, true⟩ ⟨9, false⟩ (by decide),
        .braced [⟨0, false⟩, ⟨0, false⟩, ⟨4, false⟩, ⟨2, false⟩] (by decide) (by decide),
        .identity '"' (by decide) rfl]) = some "A\x007éB\"" :=
  ⟨by decide, value?_literal.1 _ _ _ (by decide)⟩

end ScriptSpelling.Literal
