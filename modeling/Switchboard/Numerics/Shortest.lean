/-!
# The shortest decimal of a double

A finite double stands for all reals that round to it. Of the decimals in that interval the
shortest is the one with the fewest digits, and of those with equally many the nearest to the
double; a tie goes to the even digit. The search works on exact rationals: on each decimal grid it
looks at the two neighbours of the double.
-/

namespace Switchboard.Numerics

structure Decimal where
  digits : Nat
  exponent : Int
deriving DecidableEq, Repr

def Decimal.strip : Nat → Decimal → Decimal
  | 0, d => d
  | fuel + 1, d =>
    if d.digits ≠ 0 ∧ d.digits % 10 = 0 then strip fuel ⟨d.digits / 10, d.exponent + 1⟩ else d

/-- A double as the rationals `low ≤ value ≤ high`, all over the denominator `den`; `closed` says
whether the ends of the interval still round to the double. -/
structure Interval where
  low : Nat
  value : Nat
  high : Nat
  den : Nat
  closed : Bool

/-- The interval of the double `m × 2 ^ q`; below a power of two the gap is half as wide. -/
def Interval.of (m : Nat) (q : Int) (powerOfTwo : Bool) : Interval :=
  let unit := Nat.pow 2 q.toNat
  { low := (4 * m - (if powerOfTwo then 1 else 2)) * unit
    value := 4 * m * unit
    high := (4 * m + 2) * unit
    den := 4 * Nat.pow 2 (-q).toNat
    closed := m % 2 == 0 }

def Interval.holds (i : Interval) (g : Int) (d : Nat) : Bool :=
  let point := d * i.den * Nat.pow 10 g.toNat
  let scale := Nat.pow 10 (-g).toNat
  if i.closed then i.low * scale ≤ point && point ≤ i.high * scale
  else i.low * scale < point && point < i.high * scale

def Interval.pick (i : Interval) (g : Int) : Option Nat :=
  let v := i.value * Nat.pow 10 (-g).toNat
  let step := i.den * Nat.pow 10 g.toNat
  let d := v / step
  let r := v % step
  match i.holds g d && d != 0, i.holds g (d + 1) with
  | true, true =>
    if 2 * r < step || (2 * r == step && d % 2 == 0) then some d else some (d + 1)
  | true, false => some d
  | false, true => some (d + 1)
  | false, false => none

def leadExponent (num den : Nat) : Int :=
  if den ≤ num then (Nat.toDigits 10 (num / den)).length - 1
  else
    let k := (Nat.toDigits 10 den).length - (Nat.toDigits 10 num).length
    if den ≤ num * Nat.pow 10 k then -(k : Int) else -(k : Int) - 1

/-- The first grid with a representative wins; seventeen digits always have one. -/
def Interval.shortest (i : Interval) : Decimal :=
  let lead := leadExponent i.value i.den
  let found := (List.range 17).findSome? fun (n : Nat) =>
    (i.pick (lead - n)).map fun d => Decimal.strip 17 ⟨d, lead - n⟩
  found.getD ⟨i.value / i.den, 0⟩

def fields (x : Float) : Bool × Nat × Nat :=
  let b := x.toBits.toNat
  (b ≥ Nat.pow 2 63, b / Nat.pow 2 52 % Nat.pow 2 11, b % Nat.pow 2 52)

def shortest (x : Float) : Decimal :=
  match fields x with
  | (_, 0, 0) => ⟨0, 0⟩
  | (_, 0, f) => (Interval.of f (-1074) false).shortest
  | (_, e, f) => (Interval.of (Nat.pow 2 52 + f) ((e : Int) - 1075) (f == 0 && e > 1)).shortest

def isNegative (x : Float) : Bool := (fields x).1

def isFinite (x : Float) : Bool := (fields x).2.1 != 2047

end Switchboard.Numerics
