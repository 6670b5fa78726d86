import Switchboard.Text.Utf8

/-!
# Indexes of characters

An index numbers the characters of a set, beginning with zero; a number may have none. It is written
as segments, one after another.
-/

namespace Switchboard.Charset

/-- A piece of an index: numbers without a character, characters that follow each other in their
order, or characters as they stand in a text. -/
inductive Segment where
  | gap (count : Nat)
  | run (first count : Nat)
  | text (s : String)
deriving DecidableEq, Repr

def Segment.chars : Segment → List Char
  | gap n => List.replicate n Utf8.replacement
  | run first n => (List.range n).map fun i => Char.ofNat (first + i)
  | text s => s.toList

abbrev Index := Array Char

namespace Index

def ofSegments (ss : List Segment) : Index := (ss.flatMap Segment.chars).toArray

def char? (ix : Index) (i : Nat) : Option Char :=
  match ix[i]? with
  | some c => if c == Utf8.replacement then none else some c
  | none => none

end Index

end Switchboard.Charset
