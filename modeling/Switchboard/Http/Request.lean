import Switchboard.Http.Header
import Switchboard.Http.Uri
import Switchboard.Json.Value
import Switchboard.Net.Address
import Switchboard.Text.Blank

/-!
# Requests

A request with its whole body, and the values that an application attaches to it.
-/

namespace Switchboard

inductive IntKind where
  | i8 | i16 | i32 | i64 | u8 | u16 | u32 | u64
deriving DecidableEq, Repr

namespace IntKind

def all : List IntKind := [i8, i16, i32, i64, u8, u16, u32, u64]

def name : IntKind → String
  | i8 => "i8"
  | i16 => "i16"
  | i32 => "i32"
  | i64 => "i64"
  | u8 => "u8"
  | u16 => "u16"
  | u32 => "u32"
  | u64 => "u64"

def ofName? (s : String) : Option IntKind := all.find? fun k => k.name == s

def bits : IntKind → Nat
  | i8 | u8 => 8
  | i16 | u16 => 16
  | i32 | u32 => 32
  | i64 | u64 => 64

def isSigned : IntKind → Bool
  | i8 | i16 | i32 | i64 => true
  | u8 | u16 | u32 | u64 => false

/-- The number of the type that agrees with `n` in all bits the type has. -/
def wrap (k : IntKind) (n : Int) : Int :=
  let m := n % (Nat.pow 2 k.bits : Int)
  if k.isSigned && (Nat.pow 2 (k.bits - 1) : Int) ≤ m then m - (Nat.pow 2 k.bits : Int) else m

end IntKind

inductive Stored where
  /-- A text that the store owns. -/
  | text (s : String)
  /-- A text that is part of the program. -/
  | constant (s : String)
  | json (j : Json)
  | bool (b : Bool)
  | int (kind : IntKind) (n : Int)
  | float32 (x : Float32)
  | float64 (x : Float)
  /-- A value of a type that nothing here knows. -/
  | other

abbrev Store := List (String × Stored)

def Store.insert (s : Store) (key : String) (value : Stored) : Store :=
  s.filter (·.1 != key) ++ [(key, value)]

structure Request where
  method : String
  uri : Uri
  header : Header := []
  body : Bytes := []
  remote : Option SocketAddress := none
  /-- Whether the transport below can be handed over to another protocol. -/
  upgradable : Bool := false
  values : Store := []

namespace Request

/-- A request for a target as text; a target that does not parse becomes the root. -/
def new (method uri : String) : Request :=
  { method, uri := (Uri.ofString? uri).getD Uri.root }

def empty : Request := new "GET" "/"

instance : Inhabited Request := ⟨empty⟩

def withHeader (r : Request) (name value : String) : Request :=
  { r with header := r.header.add name value }

def withBody (r : Request) (body : Bytes) : Request := { r with body }

def withRemote (r : Request) (a : SocketAddress) : Request := { r with remote := some a }

def withValue (r : Request) (key : String) (value : Stored) : Request :=
  { r with values := r.values.insert key value }

def text? (r : Request) (name : String) : Option String := r.header.text? name

/-- The declared length, or that of the body where none is declared. -/
def contentLength (r : Request) : Nat :=
  ((r.text? "content-length").bind fun v => Numerics.readUInt64? (Text.trim v.toList)).getD
    r.body.length

def hasType (r : Request) (kind : String) : Bool :=
  kind.toList.isPrefixOf ((r.text? "content-type").getD "").toList

end Request

end Switchboard
