import Switchboard.Numerics.Text

/-!
# JSON tokens

A text is cut into tokens without loss: the texts of the tokens, blanks included, join to the text
that was read. What an escape or a numeral stands for is settled later, so a token only has the
right shape.
-/

namespace Switchboard.Json

open Numerics

/-- A numeral by its parts; the exponent keeps its letter and sign as written. -/
structure Numeral where
  negative : Bool
  whole : List Char
  fraction : List Char
  exponent : Option (Char × Option Char × List Char)
deriving DecidableEq, Repr

inductive Word where
  | null | yes | no
deriving DecidableEq, Repr

inductive Token where
  | blank (text : List Char)
  | mark (c : Char)
  | word (w : Word)
  | numeral (n : Numeral)
  | quoted (body : List Char)
deriving DecidableEq, Repr

/-! ## Texts of tokens -/

def Word.text : Word → List Char
  | .null => ['n', 'u', 'l', 'l']
  | .yes => ['t', 'r', 'u', 'e']
  | .no => ['f', 'a', 'l', 's', 'e']

def Numeral.text (n : Numeral) : List Char :=
  (if n.negative then ['-'] else []) ++ n.whole ++
    (if n.fraction.isEmpty then [] else '.' :: n.fraction) ++
    (match n.exponent with
    | none => []
    | some (e, sign, ds) => e :: sign.toList ++ ds)

def Token.text : Token → List Char
  | .blank t => t
  | .mark c => [c]
  | .word w => w.text
  | .numeral n => n.text
  | .quoted body => '"' :: body ++ ['"']

/-! ## Scanning -/

def isSpace (c : Char) : Bool := c == ' ' || c == '\n' || c == '\t' || c == '\r'

def isMark (c : Char) : Bool :=
  c == '{' || c == '}' || c == '[' || c == ']' || c == ',' || c == ':'

def isHex (c : Char) : Bool :=
  isDigit c || ('a' ≤ c && c ≤ 'f') || ('A' ≤ c && c ≤ 'F')

def isEscape (c : Char) : Bool :=
  c == '"' || c == '\\' || c == '/' || c == 'b' || c == 'f' || c == 'n' || c == 'r' || c == 't'

def scanQuoted : List Char → Option (List Char × List Char)
  | [] => none
  | '"' :: r => some ([], r)
  | '\\' :: 'u' :: h1 :: h2 :: h3 :: h4 :: r =>
    if isHex h1 && isHex h2 && isHex h3 && isHex h4 then
      (scanQuoted r).map fun (b, rest) => ('\\' :: 'u' :: h1 :: h2 :: h3 :: h4 :: b, rest)
    else none
  | '\\' :: e :: r =>
    if isEscape e then (scanQuoted r).map fun (b, rest) => ('\\' :: e :: b, rest) else none
  | c :: r =>
    if c == '\\' || c.toNat < 0x20 then none
    else (scanQuoted r).map fun (b, rest) => (c :: b, rest)

theorem scanQuoted_length {s b r : List Char} (h : scanQuoted s = some (b, r)) :
    r.length < s.length := by
  fun_induction scanQuoted s generalizing b r <;> simp_all <;> grind

/-- Digits without a leading zero unless it stands alone. -/
def scanWhole (s : List Char) : Option (List Char × List Char) :=
  match s.takeWhile isDigit with
  | [] => none
  | ['0'] => some (['0'], s.dropWhile isDigit)
  | '0' :: _ => none
  | ds => some (ds, s.dropWhile isDigit)

/-- A point needs a digit after it. -/
def scanFraction (s : List Char) : Option (List Char × List Char) :=
  match s with
  | '.' :: r =>
    match r.takeWhile isDigit with
    | [] => none
    | ds => some (ds, r.dropWhile isDigit)
  | _ => some ([], s)

def cutSign : List Char → Option Char × List Char
  | '+' :: r => (some '+', r)
  | '-' :: r => (some '-', r)
  | r => (none, r)

/-- An exponent letter needs a digit after it, perhaps behind a sign. -/
def scanExponent (s : List Char) :
    Option (Option (Char × Option Char × List Char) × List Char) :=
  match s with
  | e :: r =>
    if e == 'e' || e == 'E' then
      match (cutSign r).2.takeWhile isDigit with
      | [] => none
      | ds => some (some (e, (cutSign r).1, ds), (cutSign r).2.dropWhile isDigit)
    else some (none, s)
  | [] => some (none, s)

def scanNumeral (s : List Char) : Option (Numeral × List Char) := do
  let (negative, s) :=
    match s with
    | '-' :: r => (true, r)
    | s => (false, s)
  let (whole, s) ← scanWhole s
  let (fraction, s) ← scanFraction s
  let (exponent, s) ← scanExponent s
  some (⟨negative, whole, fraction, exponent⟩, s)

theorem length_dropWhile_le (p : Char → Bool) (s : List Char) :
    (s.dropWhile p).length ≤ s.length := (List.dropWhile_suffix p).length_le

theorem scanWhole_length {s w r : List Char} (h : scanWhole s = some (w, r)) :
    r.length < s.length := by
  have hs : (s.takeWhile isDigit).length + (s.dropWhile isDigit).length = s.length := by
    rw [← List.length_append, List.takeWhile_append_dropWhile]
  unfold scanWhole at h
  split at h
  · simp at h
  · simp_all; omega
  · simp at h
  · next ds hne _ _ =>
    obtain ⟨rfl, rfl⟩ : _ = w ∧ _ = r := by simpa using h
    have := List.length_pos_iff.2 hne
    omega

theorem scanFraction_length {s w r : List Char} (h : scanFraction s = some (w, r)) :
    r.length ≤ s.length := by
  unfold scanFraction at h
  split at h
  · next t =>
    have := length_dropWhile_le isDigit t
    split at h
    · simp at h
    · simp only [Option.some.injEq, Prod.mk.injEq] at h
      grind
  · simp_all

theorem cutSign_length (s : List Char) : (cutSign s).2.length ≤ s.length := by
  fun_cases cutSign s <;> simp

theorem scanExponent_length {s r : List Char} {w} (h : scanExponent s = some (w, r)) :
    r.length ≤ s.length := by
  unfold scanExponent at h
  split at h
  · next e t =>
    have h1 := length_dropWhile_le isDigit (cutSign t).2
    have h2 := cutSign_length t
    grind
  · simp_all

theorem scanNumeral_length {s r : List Char} {n : Numeral} (h : scanNumeral s = some (n, r)) :
    r.length < s.length := by
  unfold scanNumeral at h
  simp only [Option.bind_eq_bind, Option.bind_eq_some_iff, Prod.exists] at h
  obtain ⟨w, s1, h1, f, s2, h2, e, s3, h3, h4⟩ := h
  have l1 := scanWhole_length h1
  have l2 := scanFraction_length h2
  have l3 := scanExponent_length h3
  simp only [Option.some.injEq, Prod.mk.injEq] at h4
  obtain ⟨-, rfl⟩ := h4
  split at l1 <;> simp_all <;> omega

def lex : List Char → Option (List Token)
  | [] => some []
  | 't' :: 'r' :: 'u' :: 'e' :: r => (lex r).map (.word .yes :: ·)
  | 'f' :: 'a' :: 'l' :: 's' :: 'e' :: r => (lex r).map (.word .no :: ·)
  | 'n' :: 'u' :: 'l' :: 'l' :: r => (lex r).map (.word .null :: ·)
  | c :: r =>
    if isSpace c then (lex (r.dropWhile isSpace)).map (.blank (c :: r.takeWhile isSpace) :: ·)
    else if isMark c then (lex r).map (.mark c :: ·)
    else if c == '"' then
      match _h : scanQuoted r with
      | some (body, rest) => (lex rest).map (.quoted body :: ·)
      | none => none
    else
      match _h : scanNumeral (c :: r) with
      | some (n, rest) => (lex rest).map (.numeral n :: ·)
      | none => none
termination_by s => s.length
decreasing_by
  all_goals simp_wf
  · omega
  · omega
  · omega
  · have := length_dropWhile_le isSpace r; omega
  · have := scanQuoted_length _h; omega
  · have := scanNumeral_length _h; simpa using this

end Switchboard.Json
