import Switchboard.Numerics.Shortest

/-!
# Numbers as text

Integers in decimal with their bounds, and doubles in the notation of JSON: positional while the
leading digit stands between `10⁻⁵` and `10¹⁵`, with a signed exponent beyond, and always with a
mark that tells them from integers.
-/

namespace Switchboard.Numerics

def digitsOf (n : Nat) : List Char := Nat.toDigits 10 n

def zeros (n : Nat) : List Char := List.replicate n '0'

def Decimal.format (d : Decimal) : List Char :=
  let ds := digitsOf d.digits
  let lead := d.exponent + ds.length - 1
  if -5 ≤ lead ∧ lead ≤ 15 then
    if 0 ≤ d.exponent then ds ++ zeros d.exponent.toNat ++ ['.', '0']
    else if 0 ≤ lead then ds.take (lead.toNat + 1) ++ '.' :: ds.drop (lead.toNat + 1)
    else '0' :: '.' :: zeros ((-lead).toNat - 1) ++ ds
  else
    let tail := ds.drop 1
    ds.take 1 ++ (if tail.isEmpty then [] else '.' :: tail) ++
      'e' :: (if 0 ≤ lead then '+' else '-') :: digitsOf lead.natAbs

def formatFloat (x : Float) : List Char :=
  (if isNegative x then ['-'] else []) ++ (shortest x).format

def formatInt (n : Int) : List Char :=
  if n < 0 then '-' :: digitsOf n.natAbs else digitsOf n.natAbs

/-! ## Reading -/

def isDigit (c : Char) : Bool := '0' ≤ c && c ≤ '9'

def digitValue (c : Char) : Nat := c.toNat - '0'.toNat

def natOfDigits (ds : List Char) : Nat := ds.foldl (fun n c => n * 10 + digitValue c) 0

def isDigits (s : List Char) : Bool := !s.isEmpty && s.all isDigit

/-- The value of digits, or the bound where it is less. Digits beyond those of the bound, zeros in
front apart, can only make a larger value, so they are not looked at. -/
def natUpTo (bound : Nat) (ds : List Char) : Nat :=
  let ds := ds.dropWhile (· == '0')
  if (digitsOf bound).length < ds.length then bound else min bound (natOfDigits ds)

def readNat? (bound : Nat) (s : List Char) : Option Nat :=
  let n := natUpTo (bound + 1) s
  if isDigits s && n ≤ bound then some n else none

def readSigned? (low high : Int) (s : List Char) : Option Int :=
  let within (n : Int) : Option Int := if low ≤ n ∧ n ≤ high then some n else none
  let magnitude? := readNat? (max low.natAbs high.natAbs)
  match s with
  | '-' :: ds => (magnitude? ds).bind fun n => within (-n)
  | '+' :: ds => (magnitude? ds).bind fun n => within n
  | ds => (magnitude? ds).bind fun n => within n

def int64Min : Int := -9223372036854775808
def int64Max : Int := 9223372036854775807
def uint64Max : Int := 18446744073709551615

def readInt64? (s : List Char) : Option Int := readSigned? int64Min int64Max s

/-- An unsigned number may carry a plus sign but no minus sign. -/
def readUInt64? (s : List Char) : Option Nat :=
  match s with
  | '-' :: _ => none
  | _ => (readSigned? 0 uint64Max s).map Int.toNat

/-! ## Doubles -/

/-- More digits than any boundary between two doubles has, which are at most 767. -/
def decisiveDigits : Nat := 800

/-- The value of digits with a decimal exponent, rounded to the nearest double. Of the digits past
the decisive ones it only matters whether they are all zero, so one digit stands for them. A
magnitude far beyond the range is settled by the place of its leading digit. -/
def nearest (ds : List Char) (exponent : Int) : Float :=
  let ds := ds.dropWhile (· == '0')
  let lead := exponent + ds.length
  if ds.isEmpty then 0.0
  else if lead > 400 then Float.ofScientific 1 false 400
  else if lead < -400 then 0.0
  else
    let rest := if (ds.drop decisiveDigits).all (· == '0') then [] else ['1']
    let kept := ds.take decisiveDigits ++ rest
    let exponent := lead - kept.length
    Float.ofScientific (natOfDigits kept) (exponent < 0) exponent.natAbs

/-- The value of the digits of an exponent. Once it has reached `2 ^ 16` no more digits count: it is
past all doubles by then. -/
def exponentOf (ds : List Char) : Nat :=
  ds.foldl (fun n c => if n < 65536 then n * 10 + digitValue c else n) 0

def readExponent? : List Char → Option Int
  | [] => some 0
  | e :: s =>
    let (negative, ds) :=
      match s with
      | '-' :: ds => (true, ds)
      | '+' :: ds => (false, ds)
      | ds => (false, ds)
    if (e == 'e' || e == 'E') && isDigits ds then
      some (if negative then -(exponentOf ds : Int) else exponentOf ds)
    else none

/-- An unsigned decimal: digits on at least one side of an optional point, then an exponent. -/
def readMagnitude? (s : List Char) : Option Float :=
  let whole := s.takeWhile isDigit
  let (fraction, rest) :=
    match s.dropWhile isDigit with
    | '.' :: r => (r.takeWhile isDigit, r.dropWhile isDigit)
    | r => ([], r)
  if whole.isEmpty && fraction.isEmpty then none
  else (readExponent? rest).map fun e =>
    nearest (whole ++ fraction) (e - fraction.length)

def readFloat? (s : List Char) : Option Float :=
  let (negative, body) :=
    match s with
    | '-' :: r => (true, r)
    | '+' :: r => (false, r)
    | r => (false, r)
  let magnitude :=
    let name := body.map Char.toLower
    if name == ['i', 'n', 'f'] || name == "infinity".toList then some (1.0 / 0.0)
    else if name == ['n', 'a', 'n'] then some (0.0 / 0.0)
    else readMagnitude? body
  magnitude.map fun x => if negative then -x else x

end Switchboard.Numerics
