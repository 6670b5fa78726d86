import Switchboard.Json.Reader
import Switchboard.Text.Pieces
import Switchboard.Toml.Table

/-!
# TOML scalars

Strings of four kinds, and the words between separators: booleans, integers in four bases, floats,
dates and times. A reader of strings answers with the content and with what follows.
-/

namespace Switchboard.Toml

open Numerics

/-! ## Blanks and lines -/

def isBlank (c : Char) : Bool := c == ' ' || c == '\t'

def skipBlanks (s : List Char) : List Char := s.dropWhile isBlank

def isPrintable (c : Char) : Bool := c == '\t' || (0x20 ≤ c.toNat && c.toNat != 0x7F)

def newline? : List Char → Option (List Char)
  | '\n' :: r => some r
  | '\r' :: '\n' :: r => some r
  | _ => none

theorem newline?_length {s r : List Char} (h : newline? s = some r) : r.length < s.length := by
  revert h
  fun_cases newline? s <;> intro h <;> cases h <;> simp only [List.length_cons] <;> omega

/-! ## Strings -/

def codeChar? (digits : List Char) : Option Char :=
  let n := digits.foldl (fun n c => n * 16 + Json.hexValue c) 0
  if digits.all Json.isHex ∧ n.isValidChar then some (Char.ofNat n) else none

def escapeChar? : Char → Option Char
  | 'b' => some '\x08'
  | 't' => some '\t'
  | 'n' => some '\n'
  | 'f' => some '\x0c'
  | 'r' => some '\r'
  | '"' => some '"'
  | '\\' => some '\\'
  | _ => none

def escape? : List Char → Option (Char × List Char)
  | 'u' :: r => if r.length < 4 then none else (codeChar? (r.take 4)).map (·, r.drop 4)
  | 'U' :: r => if r.length < 8 then none else (codeChar? (r.take 8)).map (·, r.drop 8)
  | c :: r => (escapeChar? c).map (·, r)
  | [] => none

theorem escape?_length {s r : List Char} {c : Char} (h : escape? s = some (c, r)) :
    r.length ≤ s.length := by
  fun_cases escape? s <;> simp_all [escape?] <;> grind

def basic? (s : List Char) : Option (List Char × List Char) :=
  match s with
  | [] => none
  | '"' :: r => some ([], r)
  | '\\' :: r =>
    match _h : escape? r with
    | some (c, rest) => (basic? rest).map fun (text, rest) => (c :: text, rest)
    | none => none
  | c :: r => if isPrintable c then (basic? r).map fun (text, rest) => (c :: text, rest) else none
termination_by s.length
decreasing_by
  · have := escape?_length _h
    simp
    omega
  · simp

def literal? : List Char → Option (List Char × List Char)
  | [] => none
  | '\'' :: r => some ([], r)
  | c :: r => if isPrintable c then (literal? r).map fun (text, rest) => (c :: text, rest) else none

/-- The content of a long string up to three delimiters; one or two more in front of these belong to
it. A line break counts as a line feed. Behind a backslash, in strings with escapes, blanks and line
breaks are skipped when there is at least one line break. -/
def long? (delimiter : Char) (escapes : Bool) (s : List Char) : Option (List Char × List Char) :=
  match s with
  | [] => none
  | c :: r =>
    if c = delimiter then
      match (r.takeWhile (· = delimiter)).length with
      | 0 | 1 => (long? delimiter escapes r).map fun (text, rest) => (c :: text, rest)
      | 2 => some ([], r.drop 2)
      | 3 => some ([c], r.drop 3)
      | _ => some ([c, c], r.drop 4)
    else if c = '\\' ∧ escapes then
      if (newline? (skipBlanks r)).isSome then
        skipping delimiter escapes r
      else
        match _h : escape? r with
        | some (e, rest) => (long? delimiter escapes rest).map fun (text, rest) => (e :: text, rest)
        | none => none
    else if c = '\n' then (long? delimiter escapes r).map fun (text, rest) => (c :: text, rest)
    else if c = '\r' then if r.head? = some '\n' then long? delimiter escapes r else none
    else if isPrintable c then
      (long? delimiter escapes r).map fun (text, rest) => (c :: text, rest)
    else none
termination_by (s.length, 0)
decreasing_by
  · grind
  · grind
  · have := escape?_length _h
    grind
  all_goals grind
where
  /-- Goes on behind blanks and line breaks. -/
  skipping (delimiter : Char) (escapes : Bool) (s : List Char) : Option (List Char × List Char) :=
    match s with
    | [] => none
    | c :: r =>
      if isBlank c ∨ c = '\n' ∨ (c = '\r' ∧ r.head? = some '\n') then skipping delimiter escapes r
      else long? delimiter escapes (c :: r)
  termination_by (s.length, 1)

/-! ## Words -/

def digitRun? (isDigit : Char → Bool) (s : List Char) : Option (List Char) :=
  if (Text.pieces '_' s).all fun p => !p.isEmpty && p.all isDigit then some (s.filter (· != '_'))
  else none

def signed : List Char → List Char × List Char
  | '-' :: r => (['-'], r)
  | '+' :: r => (['+'], r)
  | r => ([], r)

/-- A decimal integer with its sign; it has no leading zero. -/
def decimal? (s : List Char) : Option (List Char) :=
  let (sign, body) := signed s
  match digitRun? isDigit body with
  | some ['0'] => some (sign ++ ['0'])
  | some ('0' :: _) => none
  | some ds => some (sign ++ ds)
  | none => none

/-- Digits of a base; a value past the bound stays past it, so it grows no further. -/
def baseInt? (base : Nat) (isBaseDigit : Char → Bool) (s : List Char) : Option Int :=
  (digitRun? isBaseDigit s).bind fun ds =>
    let n : Int := ds.foldl (fun n c => if n ≤ int64Max then n * base + Json.hexValue c else n) 0
    if n ≤ int64Max then some n else none

def int? : List Char → Option Int
  | '0' :: 'x' :: r => baseInt? 16 Json.isHex r
  | '0' :: 'o' :: r => baseInt? 8 (fun c => '0' ≤ c && c ≤ '7') r
  | '0' :: 'b' :: r => baseInt? 2 (fun c => c == '0' || c == '1') r
  | s => (decimal? s).bind readInt64?

def exponent? : List Char → Option (List Char)
  | [] => some []
  | e :: r =>
    if e = 'e' ∨ e = 'E' then
      let (sign, body) := signed r
      (digitRun? isDigit body).map fun ds => 'e' :: sign ++ ds
    else none

/-- A decimal with a fraction, an exponent or both; a value beyond the largest double is refused. -/
def decimalFloat? (s : List Char) : Option Float := do
  let isMark (c : Char) : Bool := c == '.' || c == 'e' || c == 'E'
  let whole ← decimal? (s.takeWhile (!isMark ·))
  let tail ←
    match s.dropWhile (!isMark ·) with
    | '.' :: r => do
      let fraction ← digitRun? isDigit (r.takeWhile (!isMark ·))
      let exponent ← exponent? (r.dropWhile (!isMark ·))
      some ('.' :: fraction ++ exponent)
    | [] => none
    | r => exponent? r
  let x ← readFloat? (whole ++ tail)
  if x == 1.0 / 0.0 then none else some x

def float? (s : List Char) : Option Float :=
  let (sign, body) := signed s
  if body = "inf".toList ∨ body = "nan".toList then readFloat? (sign ++ body) else decimalFloat? s

/-! ## Dates and times -/

def field? (count low high : Nat) (s : List Char) : Option Nat :=
  if s.length = count then (readNat? high s).filter fun n => low ≤ n else none

def isLeap (year : Nat) : Bool := year % 4 == 0 && (year % 100 != 0 || year % 400 == 0)

def daysIn (year month : Nat) : Nat :=
  if month = 2 then (if isLeap year then 29 else 28)
  else if [4, 6, 9, 11].contains month then 30
  else 31

def isDate (s : List Char) : Bool :=
  match Text.pieces '-' s with
  | [y, m, d] =>
    match field? 4 0 9999 y, field? 2 1 12 m with
    | some year, some month => (field? 2 1 (daysIn year month) d).isSome
    | _, _ => false
  | _ => false

/-- Hours, minutes and seconds, with any number of digits behind the point. -/
def isTime (s : List Char) : Bool :=
  let (clock, fraction) := Text.cut '.' s
  (match Text.pieces ':' clock with
    | [h, m, sec] =>
      (field? 2 0 23 h).isSome && (field? 2 0 59 m).isSome && (field? 2 0 60 sec).isSome
    | _ => false) &&
  match fraction with
  | some ds => isDigits ds
  | none => true

def isOffset (s : List Char) : Bool :=
  match s with
  | ['Z'] | ['z'] => true
  | sign :: r =>
    (sign == '+' || sign == '-') &&
      match Text.pieces ':' r with
      | [h, m] => (field? 2 0 23 h).isSome && (field? 2 0 59 m).isSome
      | _ => false
  | [] => false

def isOffsetTime (s : List Char) : Bool :=
  let isMark (c : Char) : Bool := c == 'Z' || c == 'z' || c == '+' || c == '-'
  let offset := s.dropWhile (!isMark ·)
  isTime (s.takeWhile (!isMark ·)) && (offset.isEmpty || isOffset offset)

def isMoment (s : List Char) : Bool :=
  isDate s || isTime s ||
    (isDate (s.take 10) &&
      match s.drop 10 with
      | c :: time => (c == 'T' || c == 't' || c == ' ') && isOffsetTime time
      | [] => false)

def word? (s : List Char) : Option Node :=
  if s = "true".toList then some (.bool true)
  else if s = "false".toList then some (.bool false)
  else if isMoment s then some (.moment s)
  else
    match int? s with
    | some n => some (.int n)
    | none => (float? s).map .float

end Switchboard.Toml
