import Switchboard.Text.Utf8
import Switchboard.Json.Reader

/-!
# Encoded pairs

Names and values as in queries and simple forms: pairs joined by `&`, a name and a value joined by
the first `=`, a plus for a blank and `%XX` for an octet. Nothing is refused: a percent sign
without two hexadecimal digits stands for itself, and ill-formed octets become replacement
characters.
-/

namespace Switchboard

/-- Values under names, which may repeat, in the order in which they were met. -/
abbrev Multimap (α : Type) := List (String × α)

namespace Multimap

variable {α : Type}

def values? (m : Multimap α) (name : String) : Option (List α) :=
  match m.filter (·.1 == name) with
  | [] => none
  | ps => some (ps.map (·.2))

def first? (m : Multimap α) (name : String) : Option α := m.lookup name

def grouped (m : Multimap α) : List (String × List α) :=
  let runs := (m.mergeSort fun p q => !(q.1 < p.1)).splitBy fun p q => p.1 == q.1
  runs.filterMap fun run => run.head?.map fun p => (p.1, run.map (·.2))

end Multimap

namespace Pairs

def hexOctet? (b : UInt8) : Option UInt8 :=
  let c := Char.ofNat b.toNat
  if Json.isHex c then some (UInt8.ofNat (Json.hexValue c)) else none

def plain (b : UInt8) : UInt8 := if b == 0x2B then 0x20 else b

def decodeOctets : Bytes → Bytes
  | b :: h :: l :: r =>
    if b == 0x25 then
      match hexOctet? h, hexOctet? l with
      | some x, some y => (x * 16 + y) :: decodeOctets r
      | _, _ => b :: decodeOctets (h :: l :: r)
    else plain b :: decodeOctets (h :: l :: r)
  | b :: r => plain b :: decodeOctets r
  | [] => []

def decode (b : Bytes) : String := Utf8.toTextLossy (decodeOctets b)

def pieces : Bytes → List Bytes
  | [] => [[]]
  | b :: r =>
    if b == 0x26 then [] :: pieces r
    else
      match pieces r with
      | p :: ps => (b :: p) :: ps
      | [] => [[b]]

/-- The name and value of one piece; without an `=` the value is empty. -/
def ofPiece (p : Bytes) : String × String :=
  (decode (p.takeWhile (· != 0x3D)), decode ((p.dropWhile (· != 0x3D)).drop 1))

/-- The pairs in order; empty pieces stand for nothing. -/
def ofBytes (b : Bytes) : List (String × String) :=
  ((pieces b).filter (!·.isEmpty)).map ofPiece

end Pairs

end Switchboard
