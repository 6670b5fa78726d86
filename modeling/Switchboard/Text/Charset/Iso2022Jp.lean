import Switchboard.Text.Charset.JisX0208
import Switchboard.Text.Charset.Reading

/-!
# ISO-2022-JP

A set with states: escape sequences of three octets switch between sets of one or two octets, all
written with octets below 0x80.
-/

namespace Switchboard.Charset.Iso2022Jp

inductive Mode where
  | ascii | roman | katakana | kanji
deriving DecidableEq, Repr

def Mode.ofEscape? : Bytes → Option Mode
  | 0x28 :: 0x42 :: _ => some .ascii
  | 0x28 :: 0x4A :: _ => some .roman
  | 0x28 :: 0x49 :: _ => some .katakana
  | 0x24 :: 0x40 :: _ | 0x24 :: 0x42 :: _ => some .kanji
  | _ => none

/-- The octets that shift codes in other sets; no mode has them. -/
def isShift (b : UInt8) : Bool := b == 0x0E || b == 0x0F

def single? (m : Mode) (b : UInt8) : Option Char :=
  match m with
  | .ascii => if isAscii b && !isShift b then some (Char.ofNat b.toNat) else none
  | .roman =>
    if b == 0x5C then some '¥'
    else if b == 0x7E then some '‾'
    else if isAscii b && !isShift b then some (Char.ofNat b.toNat)
    else none
  | .katakana => if within 0x21 0x5F b then some (shifted 0xFF61 0x21 b) else none
  | .kanji => none

def pair? (b t : UInt8) : Option Char :=
  if within 0x21 0x7E t then jisX0208.char? ((b.toNat - 0x21) * 94 + (t.toNat - 0x21)) else none

/-- The characters of octets from a mode on; `switched` tells that nothing has been read since the
last escape sequence. Of two escape sequences in a row the second is ill-formed, though it switches.
An escape octet without its sequence is ill-formed by itself. -/
def read (m : Mode) (switched : Bool) : Bytes → List Char
  | [] => []
  | b :: r =>
    if b == 0x1B then
      match Mode.ofEscape? r with
      | some m' => (if switched then illFormed else []) ++ read m' true (r.drop 2)
      | none => illFormed ++ read m false r
    else if m = .kanji ∧ within 0x21 0x7E b then
      match r with
      | [] => illFormed
      | t :: r' =>
        if t == 0x1B then illFormed ++ read m false (t :: r')
        else (pair? b t).getD Utf8.replacement :: read m false r'
    else (single? m b).getD Utf8.replacement :: read m false r
termination_by s => s.length
decreasing_by
  all_goals simp only [List.length_cons, List.length_drop]
  all_goals omega

end Switchboard.Charset.Iso2022Jp
