/-!
# UTF-8

Octet sequences as lists, and the two ways of reading them as text: strictly, where one ill-formed
sequence refuses the whole, and with replacement, where each longest ill-formed piece becomes one
replacement character.
-/

namespace Switchboard

abbrev Bytes := List UInt8

namespace Utf8

def replacement : Char := Char.ofNat 0xFFFD

def encode (s : List Char) : Bytes := s.flatMap String.utf8EncodeChar

/-! ## One character -/

def continues (b : UInt8) : Bool := 0x80 ≤ b && b ≤ 0xBF

def second3 (b0 b1 : UInt8) : Bool :=
  if b0 == 0xE0 then 0xA0 ≤ b1 && b1 ≤ 0xBF
  else if b0 == 0xED then 0x80 ≤ b1 && b1 ≤ 0x9F
  else continues b1

def second4 (b0 b1 : UInt8) : Bool :=
  if b0 == 0xF0 then 0x90 ≤ b1 && b1 ≤ 0xBF
  else if b0 == 0xF4 then 0x80 ≤ b1 && b1 ≤ 0x8F
  else continues b1

def low6 (b : UInt8) : Nat := b.toNat % 64

/-- Reads the character that starts with `b`, or skips the longest ill-formed piece (`none`). -/
def step (b : UInt8) (r : Bytes) : Option Char × Bytes :=
  if b < 0x80 then (some (Char.ofNat b.toNat), r)
  else if 0xC2 ≤ b && b ≤ 0xDF then
    match r with
    | b1 :: r1 =>
      if continues b1 then (some (Char.ofNat ((b.toNat % 32) * 64 + low6 b1)), r1) else (none, r)
    | [] => (none, r)
  else if 0xE0 ≤ b && b ≤ 0xEF then
    match r with
    | b1 :: r1 =>
      if second3 b b1 then
        match r1 with
        | b2 :: r2 =>
          if continues b2 then
            (some (Char.ofNat ((b.toNat % 16) * 4096 + low6 b1 * 64 + low6 b2)), r2)
          else (none, r1)
        | [] => (none, r1)
      else (none, r)
    | [] => (none, r)
  else if 0xF0 ≤ b && b ≤ 0xF4 then
    match r with
    | b1 :: r1 =>
      if second4 b b1 then
        match r1 with
        | b2 :: r2 =>
          if continues b2 then
            match r2 with
            | b3 :: r3 =>
              if continues b3 then
                (some (Char.ofNat
                  ((b.toNat % 8) * 262144 + low6 b1 * 4096 + low6 b2 * 64 + low6 b3)), r3)
              else (none, r2)
            | [] => (none, r2)
          else (none, r1)
        | [] => (none, r1)
      else (none, r)
    | [] => (none, r)
  else (none, r)

theorem step_length (b : UInt8) (r : Bytes) : (step b r).2.length ≤ r.length := by
  unfold step
  repeat' split
  all_goals simp_all <;> omega

/-! ## Whole texts -/

def decode? : Bytes → Option (List Char)
  | [] => some []
  | b :: r =>
    match _h : step b r with
    | (some c, rest) => (decode? rest).map (c :: ·)
    | (none, _) => none
termination_by s => s.length
decreasing_by
  have h := step_length b r
  rw [_h] at h
  exact Nat.lt_succ_of_le h

/-- Reads a text with one replacement character for each ill-formed piece. -/
def decodeLossy : Bytes → List Char
  | [] => []
  | b :: r => (step b r).1.getD replacement :: decodeLossy (step b r).2
termination_by s => s.length
decreasing_by
  exact Nat.lt_succ_of_le (step_length b r)

/-! ## Strings -/

def ofText (s : String) : Bytes := encode s.toList

def toText? (b : Bytes) : Option String := (decode? b).map String.ofList

def toTextLossy (b : Bytes) : String := String.ofList (decodeLossy b)

end Utf8

end Switchboard
