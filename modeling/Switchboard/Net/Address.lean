import Switchboard.Text.Pieces
import Switchboard.Numerics.Text

/-!
# Network addresses

Internet addresses of both families and addresses with a port, as text and as numbers. The text of
a long address leaves out its longest run of zero groups. A host may be named in looser spellings
than an address: fewer numbers between dots, octal and hexadecimal numbers, no brackets.
-/

namespace Switchboard

open Numerics

inductive IpAddress where
  | v4 (a b c d : Nat)
  | v6 (groups : List Nat)
deriving DecidableEq, Repr

structure SocketAddress where
  ip : IpAddress
  port : Nat
deriving DecidableEq, Repr

namespace IpAddress

def isV4 : IpAddress → Bool
  | v4 .. => true
  | v6 _ => false

def isMapped : IpAddress → Bool
  | v6 [0, 0, 0, 0, 0, 0xFFFF, _, _] => true
  | _ => false

/-! ## Reading -/

/-- One octet: at most three digits, no leading zero, below 256. -/
def octet? (s : List Char) : Option Nat :=
  if s.length > 3 || (s.length > 1 && s.head? == some '0') then none
  else readNat? 255 s

def v4? (s : List Char) : Option IpAddress :=
  match (Text.pieces '.' s).mapM octet? with
  | some [a, b, c, d] => some (v4 a b c d)
  | _ => none

def hexDigit? (c : Char) : Option Nat :=
  if isDigit c then some (digitValue c)
  else if 'a' ≤ c && c ≤ 'f' then some (c.toNat - 87)
  else if 'A' ≤ c && c ≤ 'F' then some (c.toNat - 55)
  else none

/-- One group: one to four hexadecimal digits. -/
def group? (s : List Char) : Option Nat :=
  if s.isEmpty || s.length > 4 then none
  else (s.mapM hexDigit?).map fun ds => ds.foldl (fun n d => n * 16 + d) 0

/-- Groups between colons; the last piece may be a short address, worth two groups. -/
def groups? : List (List Char) → Option (List Nat)
  | [] => some []
  | [p] =>
    match v4? p with
    | some (v4 a b c d) => some [a * 256 + b, c * 256 + d]
    | _ => (group? p).map fun g => [g]
  | p :: ps => do
    let g ← group? p
    let gs ← groups? ps
    some (g :: gs)

def side? (s : List Char) : Option (List Nat) :=
  if s.isEmpty then some [] else groups? (Text.pieces ':' s)

def cutGap? : List Char → Option (List Char × List Char)
  | ':' :: ':' :: r => some ([], r)
  | c :: r => (cutGap? r).map fun (a, b) => (c :: a, b)
  | [] => none

def v6? (s : List Char) : Option IpAddress :=
  match cutGap? s with
  | some (before, after) => do
    let front ← if before.contains '.' then none else side? before
    let back ← side? after
    if front.length + back.length ≤ 7 then
      some (v6 (front ++ List.replicate (8 - front.length - back.length) 0 ++ back))
    else none
  | none => do
    let gs ← groups? (Text.pieces ':' s)
    if gs.length = 8 then some (v6 gs) else none

/-! ## Looser spellings -/

/-- A number that is hexadecimal behind `0x` and octal behind a lone zero. -/
def numeral? (s : List Char) : Option Nat :=
  let inBase (base : Nat) (ds : List Char) : Option Nat :=
    if ds.isEmpty then none
    else
      ds.foldlM (fun n c => (hexDigit? c).bind fun d =>
        if d < base then some (n * base + d) else none) 0
  match s with
  | '0' :: 'x' :: r | '0' :: 'X' :: r => inBase 16 r
  | '0' :: _ => inBase 8 s
  | _ => inBase 10 s

/-- The number below `limit` that numbers spell of which all but the last are octets; the last
fills what the octets before it leave. -/
def filled? (limit : Nat) : List Nat → Option Nat
  | [] => none
  | [a] => if a < limit then some a else none
  | a :: r =>
    if a < 256 ∧ 256 < limit then (filled? (limit / 256) r).map (a * (limit / 256) + ·) else none

def looseV4? (s : List Char) : Option IpAddress := do
  let ns ← (Text.pieces '.' s).mapM numeral?
  let n ← filled? 0x100000000 ns
  some (v4 (n / 0x1000000) (n / 0x10000 % 256) (n / 256 % 256) (n % 256))

def scope? (s : List Char) : Option Nat := readNat? 0xFFFFFFFF s

/-- A long address, which the number of an interface may follow behind a percent sign. -/
def scopedV6? (s : List Char) : Option IpAddress :=
  match Text.cut '%' s with
  | (ip, none) => v6? ip
  | (ip, some scope) => (scope? scope).bind fun _ => v6? ip

def ofHost? (s : List Char) : Option IpAddress := looseV4? s <|> scopedV6? s

/-! ## Writing -/

def hexText (n : Nat) : List Char := Nat.toDigits 16 n

def zeroRun (gs : List Nat) : Nat := (gs.takeWhile (· == 0)).length

def longestZeros : Nat → List Nat → Nat × Nat
  | _, [] => (0, 0)
  | i, g :: gs =>
    let here := zeroRun (g :: gs)
    let (start, length) := longestZeros (i + 1) gs
    if here ≥ length then (i, here) else (start, length)

def render : IpAddress → String
  | v4 a b c d => String.ofList (Text.join '.' ([a, b, c, d].map digitsOf))
  | v6 gs =>
    String.ofList <|
      match gs with
      | [0, 0, 0, 0, 0, 0xFFFF, x, y] =>
        "::ffff:".toList ++ Text.join '.' ([x / 256, x % 256, y / 256, y % 256].map digitsOf)
      | _ =>
        let (start, length) := longestZeros 0 gs
        if length > 1 then
          Text.join ':' ((gs.take start).map hexText) ++ [':', ':'] ++
            Text.join ':' ((gs.drop (start + length)).map hexText)
        else Text.join ':' (gs.map hexText)

end IpAddress

namespace SocketAddress

def port? (s : List Char) : Option Nat := readNat? 65535 s

def ofString? (s : String) : Option SocketAddress :=
  match s.toList with
  | '[' :: r => do
    let ip ← IpAddress.scopedV6? (r.takeWhile (· != ']'))
    match r.dropWhile (· != ']') with
    | ']' :: ':' :: p => (port? p).map fun n => ⟨ip, n⟩
    | _ => none
  | cs =>
    match Text.cut ':' cs with
    | (a, some p) => do
      let ip ← IpAddress.v4? a
      let n ← port? p
      some ⟨ip, n⟩
    | (_, none) => none

def signedPort? : List Char → Option Nat
  | '+' :: p => port? p
  | p => port? p

/-- The address that a text names: a socket address, or a host by number, a colon and a port. -/
def resolve? (s : String) : Option SocketAddress :=
  ofString? s <|>
    match Text.cut ':' s.toList.reverse with
    | (_, none) => none
    | (port, some host) => do
      let ip ← IpAddress.ofHost? host.reverse
      let n ← signedPort? port.reverse
      some ⟨ip, n⟩

end SocketAddress

end Switchboard
