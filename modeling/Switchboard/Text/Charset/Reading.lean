import Switchboard.Text.Utf8

/-!
# Reading text by steps

A set of characters without states is read from one character to the next. A step looks at an octet
and what follows it, and tells the characters found and how many of the octets that follow it has
used; what is ill-formed is read as the replacement character.
-/

namespace Switchboard.Charset

abbrev Step := UInt8 → Bytes → List Char × Nat

def readAll (step : Step) : Bytes → List Char
  | [] => []
  | b :: r => (step b r).1 ++ readAll step (r.drop (step b r).2)
termination_by s => s.length
decreasing_by
  simp only [List.length_cons, List.length_drop]
  omega

def within (lo hi b : UInt8) : Bool := lo ≤ b && b ≤ hi

def isAscii (b : UInt8) : Bool := b < 0x80

def illFormed : List Char := [Utf8.replacement]

def shifted (first : Nat) (base b : UInt8) : Char := Char.ofNat (first + (b.toNat - base.toNat))

/-- Reads the trail octet of a character. Where it names none, an octet beyond ASCII goes with the
ill-formed sequence, and an ASCII octet is left for the next step. -/
def trail (found : UInt8 → Option (List Char)) : Bytes → List Char × Nat
  | [] => (illFormed, 0)
  | t :: _ =>
    match found t with
    | some cs => (cs, 1)
    | none => (illFormed, if isAscii t then 0 else 1)

end Switchboard.Charset
