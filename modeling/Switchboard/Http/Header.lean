import Switchboard.Text.Pieces

/-!
# Header fields

A header is a sequence of fields, a lowercase name with a value each. Several fields may have one
name; they keep their order. Fields with an illegal name or value never enter a header.
-/

namespace Switchboard

def isTokenChar (c : Char) : Bool :=
  c.isAlphanum || "!#$%&'*+-.^_`|~".toList.contains c

def isToken (s : String) : Bool := !s.isEmpty && s.toList.all isTokenChar

abbrev Header := List (String × String)

namespace Header

def maxNameLength : Nat := 65535

def isName (s : String) : Bool := isToken s && s.toList.length ≤ maxNameLength

def name? (s : String) : Option String :=
  if isName s then some (String.ofList (Text.lowerAscii s.toList)) else none

/-- Values hold no control characters but the tab. -/
def isValue (s : String) : Bool :=
  s.toList.all fun c => c == '\t' || (0x20 ≤ c.toNat && c.toNat != 0x7F)

def isVisible (s : String) : Bool :=
  s.toList.all fun c => c == '\t' || (0x20 ≤ c.toNat && c.toNat < 0x7F)

def field? (name value : String) : Option (String × String) :=
  (name? name).bind fun n => if isValue value then some (n, value) else none

def values (h : Header) (name : String) : List String :=
  match name? name with
  | some n => (h.filter (·.1 == n)).map (·.2)
  | none => []

def first? (h : Header) (name : String) : Option String := (h.values name).head?

def text? (h : Header) (name : String) : Option String := (h.first? name).filter isVisible

def erase (h : Header) (name : String) : Header :=
  match name? name with
  | some n => h.filter (·.1 != n)
  | none => h

def set (h : Header) (name value : String) : Header :=
  match field? name value with
  | some f => h.erase f.1 ++ [f]
  | none => h

def add (h : Header) (name value : String) : Header :=
  match field? name value with
  | some f => h ++ [f]
  | none => h

def names (h : Header) : List String := (h.map (·.1)).eraseDups

/-- The fields by name; those of one name keep their order. -/
def sorted (h : Header) : Header := h.mergeSort fun a b => !(b.1 < a.1)

end Header

end Switchboard
