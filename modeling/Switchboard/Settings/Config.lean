import Switchboard.Error
import Switchboard.Text.Utf8
import Switchboard.Toml.Reader
import Switchboard.Web.FileTree

/-!
# Settings

What a service can be told before it starts, in code or in a TOML file. Settings that a file leaves
out keep their defaults, and those it adds are ignored.
-/

namespace Switchboard

inductive Network where
  | tcp | tcp4 | tcp6 | unix
deriving DecidableEq, Repr

namespace Network

def ofName? : String → Except Error Network
  | "tcp" => .ok .tcp
  | "tcp4" => .ok .tcp4
  | "tcp6" => .ok .tcp6
  | "unix" => .ok .unix
  | other => .error (.invalidNetwork other)

def label : Network → String
  | tcp => "Tcp"
  | tcp4 => "Tcp4"
  | tcp6 => "Tcp6"
  | unix => "Unix"

end Network

structure Config where
  /-- Whether error responses tell the cause. -/
  debug : Bool := false
  network : Network := .tcp
  /-- A host and port, or the path of a socket. -/
  address : String := "0.0.0.0:8080"
  /-- The longest body of a request, in octets. -/
  maxBodySize : Nat := 32 * 1024 * 1024
  /-- The file that stands for a directory. -/
  indexFile : String := "index.html"
deriving DecidableEq, Repr

namespace Config

open Toml (Node)

/-! ## Reading -/

def bool? : Node → Option Bool
  | .bool b => some b
  | _ => none

def text? : Node → Option String
  | .text s => some s
  | _ => none

def size? : Node → Option Nat
  | .int n => if 0 ≤ n then some n.toNat else none
  | _ => none

def isEmptyNode : Node → Bool
  | .array items => items.isEmpty
  | .table _ ms => ms.isEmpty
  | _ => false

/-- A network is written as its name, or as a table that holds only an empty table or list under
that name. -/
def network? : Node → Option Network
  | .text s => (Network.ofName? s).toOption
  | .table _ [(name, value)] => if isEmptyNode value then (Network.ofName? name).toOption else none
  | _ => none

def setting {α : Type} (ms : Toml.Members) (key : String) (read? : Node → Option α) (default : α) :
    Option α :=
  match ms.find? key with
  | some n => read? n
  | none => some default

def ofMembers? (ms : Toml.Members) : Option Config := do
  let standard : Config := {}
  some {
    debug := ← setting ms "debug" bool? standard.debug
    network := ← setting ms "listener_network" network? standard.network
    address := ← setting ms "address" text? standard.address
    maxBodySize := ← setting ms "max_body_size" size? standard.maxBodySize
    indexFile := ← setting ms "index_file" text? standard.indexFile }

def ofText (s : List Char) : Except Error Config :=
  match (Toml.ofText? s).bind ofMembers? with
  | some c => .ok c
  | none => .error (.config "malformed settings")

def ofFile (files : FileTree) (path : String) : Except Error Config :=
  match files.find? path with
  | some entry =>
    match entry.read with
    | .ok content =>
      match Utf8.decode? content with
      | some s => ofText s
      | none => .error (.io "stream did not contain valid UTF-8")
    | .error detail => .error (.io detail)
  | none => .error (.io "No such file or directory")

end Config

end Switchboard
