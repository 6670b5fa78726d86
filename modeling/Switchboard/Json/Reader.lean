import Switchboard.Json.Tree
import Switchboard.Json.Value
import Switchboard.Text.Utf8

/-!
# Reading JSON

The value of a syntax tree: escapes are resolved, numerals rounded, members sorted with the last of
equal keys kept. A document whose lists and objects are nested too deep is refused, and so are half
a surrogate pair and a numeral beyond the range of doubles.
-/

namespace Switchboard.Json

open Numerics

/-! ## Quoted texts -/

def hexValue (c : Char) : Nat :=
  if isDigit c then c.toNat - '0'.toNat
  else if 'a' ≤ c then c.toNat - 'a'.toNat + 10
  else c.toNat - 'A'.toNat + 10

def hex4 (a b c d : Char) : Nat :=
  ((hexValue a * 16 + hexValue b) * 16 + hexValue c) * 16 + hexValue d

def escapeValue (c : Char) : Char :=
  if c == 'b' then Char.ofNat 8
  else if c == 'f' then Char.ofNat 12
  else if c == 'n' then '\n'
  else if c == 'r' then '\r'
  else if c == 't' then '\t'
  else c

def unquote : List Char → Option (List Char)
  | [] => some []
  | '\\' :: 'u' :: a :: b :: c :: d :: r =>
    let n := hex4 a b c d
    if 0xDC00 ≤ n ∧ n ≤ 0xDFFF then none
    else if 0xD800 ≤ n ∧ n ≤ 0xDBFF then
      match r with
      | '\\' :: 'u' :: e :: f :: g :: h :: r =>
        let m := hex4 e f g h
        if 0xDC00 ≤ m ∧ m ≤ 0xDFFF then
          (unquote r).map (Char.ofNat (0x10000 + (n - 0xD800) * 0x400 + (m - 0xDC00)) :: ·)
        else none
      | _ => none
    else (unquote r).map (Char.ofNat n :: ·)
  | '\\' :: c :: r => (unquote r).map (escapeValue c :: ·)
  | c :: r => (unquote r).map (c :: ·)

/-! ## Numerals -/

/-- As many leading digits as stay below `2 ^ 64`, and how many of the others there are. -/
def significand (n : Nat) : List Char → Nat × Nat
  | [] => (n, 0)
  | c :: ds =>
    let m := n * 10 + digitValue c
    if m ≤ uint64Max.toNat then significand m ds else (n, ds.length + 1)

def powerOfTen (k : Nat) : Float := Float.ofScientific 1 false k

/-- Scales a significand by a power of ten, in steps that stay within the range of doubles. -/
def scale : Nat → Float → Int → Option Float
  | 0, _, _ => none
  | fuel + 1, f, e =>
    if e.natAbs ≤ 308 then
      if 0 ≤ e then
        let x := f * powerOfTen e.toNat
        if x.isInf then none else some x
      else some (f / powerOfTen e.natAbs)
    else if f == 0.0 then some f
    else if 0 ≤ e then none
    else scale fuel (f / powerOfTen 308) (e + 308)

def exponentBound : Nat := 2147483647

/-- The double of a significand and a decimal exponent. Four steps of scaling reach zero. -/
def floatOf (negative : Bool) (digits : Nat) (exponent : Int) : Option Float :=
  (scale 8 (Float.ofNat digits) exponent).map fun f => if negative then -f else f

/-- The exponent part adds to the exponent; beyond 32 bits the sign alone decides. -/
def withExponent (n : Numeral) (digits : Nat) (exponent : Int) : Option Float :=
  match n.exponent with
  | none => floatOf n.negative digits exponent
  | some (_, sign, ds) =>
    let k := natUpTo (exponentBound + 1) ds
    if k > exponentBound then
      if digits ≠ 0 ∧ sign ≠ some '-' then none
      else some (if n.negative then -0.0 else 0.0)
    else floatOf n.negative digits (if sign = some '-' then exponent - k else exponent + k)

/-- An integer where it fits into 64 bits and is written as one, else a double. Minus zero is a
double. -/
def Numeral.value? (n : Numeral) : Option Number :=
  let (whole, dropped) := significand 0 n.whole
  if n.fraction.isEmpty && n.exponent.isNone then
    if dropped > 0 then (floatOf n.negative whole dropped).map .float
    else if n.negative then
      if whole = 0 ∨ whole > Nat.pow 2 63 then some (.float (-(Float.ofNat whole)))
      else some (.int (-(whole : Int)))
    else some (.int whole)
  else
    let (digits, unread) := significand whole n.fraction
    let read := n.fraction.length - unread
    (withExponent n digits ((dropped : Int) - read)).map .float

/-! ## Documents -/

namespace Tree

mutual
def depth : Tree → Nat
  | list items _ => depthList items + 1
  | object ms _ => depthMembers ms + 1
  | _ => 0
def depthList : List Tree → Nat
  | [] => 0
  | t :: ts => max (depth t) (depthList ts)
def depthMembers : List (List Char × Tree) → Nat
  | [] => 0
  | (_, t) :: ms => max (depth t) (depthMembers ms)
end

mutual
def value? : Tree → Option Json
  | word .null => some .null
  | word .yes => some (.bool true)
  | word .no => some (.bool false)
  | numeral n => n.value?.map .num
  | quoted b => (unquote b).map Json.text
  | list items _ => (values? items).map .arr
  | object ms _ => (members? ms).map fun ms => .obj (Members.sorted ms)
def values? : List Tree → Option (List Json)
  | [] => some []
  | t :: ts => do
    let v ← value? t
    let vs ← values? ts
    some (v :: vs)
def members? : List (List Char × Tree) → Option Members
  | [] => some []
  | (k, t) :: ms => do
    let key ← unquote k
    let v ← value? t
    let rest ← members? ms
    some ((String.ofList key, v) :: rest)
end

end Tree

def maxDepth : Nat := 127

def ofTree? (t : Tree) : Option Json := if t.depth ≤ maxDepth then t.value? else none

def ofText? (s : List Char) : Option Json := (Tree.ofText? s).bind ofTree?

def ofString? (s : String) : Option Json := ofText? s.toList

def ofBytes? (b : Bytes) : Option Json := (Utf8.decode? b).bind ofText?

end Switchboard.Json
