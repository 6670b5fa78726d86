/-!
# Methods

The request methods that a route can be registered for: the standard ones, two of WebDAV, and two
that mark envelopes by the way they arrived. Names are written in capitals and compared as written.
-/

namespace Switchboard

inductive Method where
  | connect | delete | get | head | options | patch | post | put | trace | propfind | report
  | websocket | call
deriving DecidableEq, Repr, Inhabited

namespace Method

def all : List Method :=
  [connect, delete, get, head, options, patch, post, put, trace, propfind, report, websocket, call]

def standard : List Method :=
  [connect, delete, get, head, options, patch, post, put, trace, propfind, report]

def name : Method → String
  | connect => "CONNECT"
  | delete => "DELETE"
  | get => "GET"
  | head => "HEAD"
  | options => "OPTIONS"
  | patch => "PATCH"
  | post => "POST"
  | put => "PUT"
  | trace => "TRACE"
  | propfind => "PROPFIND"
  | report => "REPORT"
  | websocket => "WEBSOCKET"
  | call => "CALL"

def slot (m : Method) : Nat := all.idxOf m

def ofName? (s : String) : Option Method := all.find? fun m => m.name == s

theorem mem_all (m : Method) : m ∈ all := by cases m <;> decide

theorem ofName?_name (m : Method) : ofName? m.name = some m := by cases m <;> decide

theorem name_of_ofName? {s : String} {m : Method} (h : ofName? s = some m) : m.name = s := by
  have hm : (m.name == s) = true := List.find?_some (p := fun m : Method => m.name == s) h
  exact beq_iff_eq.1 hm

end Method

end Switchboard
