import Switchboard.Events.Envelope

/-!
# Subjects and links

A connection that joins a subject, a method with an endpoint path, gets a link: a queue of messages
to its receiver, a signal that asks its serving loop to stop, and what it has sent and nobody has
read. A subject knows its connections by id and can put a message into the queue of one or of all.
-/

namespace Switchboard

inductive Arrival where
  | envelope (e : Envelope)
  /-- A frame that is no envelope; the loop skips it. -/
  | malformed
  /-- The transport failed. -/
  | broken
  /-- The other side closed the connection. -/
  | closing
deriving DecidableEq, Repr

inductive LoopState where
  | ready | running | ended
deriving DecidableEq, Repr

inductive Callback where
  | none
  | collect
  /-- A callback that panics, which ends the taking of messages. -/
  | panics
deriving DecidableEq, Repr

/-- The side of a link that calls: the numbers of calls that wait, the replies that have been
handed to calls, and the messages that went to the callback. -/
structure Client where
  callback : Callback
  nextRid : Nat := 1
  pending : List Nat := []
  answered : List (Nat × Envelope) := []
  delivered : List Envelope := []
deriving DecidableEq, Repr

structure Link where
  method : Method
  path : String
  id : String
  queue : List Envelope := []
  /-- Whether the receiver of the queue is alive. -/
  receiving : Bool := true
  /-- Whether the serving loop has been asked to stop. -/
  cancelled : Bool := false
  loop : LoopState := .ready
  inbound : List Arrival := []
  /-- Whether more can arrive. -/
  sending : Bool := true
  client : Option Client := none
deriving DecidableEq, Repr

structure Subject where
  method : Method
  path : String
  peers : List (String × Nat) := []
deriving DecidableEq, Repr

structure Hub where
  subjects : List Subject := []
  links : List Link := []
deriving DecidableEq, Repr

namespace Client

/-- The number of the next request; numbers have 64 bits. -/
def reserve (c : Client) : Nat × Client :=
  (c.nextRid, { c with nextRid := (c.nextRid + 1) % UInt64.size })

def wait (c : Client) (rid : Nat) : Client := { c with pending := c.pending ++ [rid] }

def withdraw (c : Client) (rid : Nat) : Client := { c with pending := c.pending.erase rid }

def giveUp (c : Client) : Client := { c with pending := [] }

/-- Hands a message to the call that waits for its number, or to the callback; `none` when the
callback panics. -/
def take (c : Client) (e : Envelope) : Option Client :=
  if e.rid ≠ 0 ∧ e.rid ∈ c.pending then
    some { c with pending := c.pending.erase e.rid, answered := c.answered ++ [(e.rid, e)] }
  else
    match c.callback with
    | .none => some c
    | .collect => some { c with delivered := c.delivered ++ [e] }
    | .panics => none

/-- What a call has come to once its request is sent; `none` as long as it waits. -/
def result? (c : Client) (rid : Nat) : Option (Except Error Envelope) :=
  match c.answered.lookup rid with
  | some reply => some (.ok reply)
  | none => if rid ∈ c.pending then none else some (.error .closed)

end Client

namespace Link

def withClient (l : Link) (c : Client) : Link := { l with client := some c }

def post? (l : Link) (e : Envelope) : Option Link :=
  if l.loop = .ended then none else some { l with inbound := l.inbound ++ [.envelope e] }

def put? (l : Link) (e : Envelope) : Option Link :=
  if l.receiving then some { l with queue := l.queue ++ [e] } else none

/-- The loop reads no more; what has arrived is lost. -/
def deafen (l : Link) : Link := { l with loop := .ended, inbound := [] }

/-- The receiver hands the first message of the queue on. A callback that panics ends it. -/
def handOn (l : Link) (c : Client) (e : Envelope) (rest : List Envelope) : Link :=
  match c.take e with
  | some c => { l with queue := rest, client := some c }
  | none => { l with queue := [], receiving := false }

def finish (l : Link) (c : Client) : Link := { l with receiving := false, client := some c.giveUp }

end Link

namespace Subject

def isFor (s : Subject) (m : Method) (path : String) : Bool := s.method == m && s.path == path

def contains (s : Subject) (id : String) : Bool := s.peers.any (·.1 == id)

def connections (s : Subject) : List String := s.peers.map (·.1)

end Subject

namespace Hub

/-! ## Links -/

def link? (h : Hub) (i : Nat) : Option Link := h.links[i]?

def modifyLink (h : Hub) (i : Nat) (f : Link → Link) : Hub :=
  { h with links := h.links.modify i f }

def enqueue? (h : Hub) (i : Nat) (e : Envelope) : Option Hub :=
  (h.link? i).bind fun l => (l.put? e).map fun l => h.modifyLink i fun _ => l

def hasSender (h : Hub) (i : Nat) : Bool :=
  h.subjects.any (fun s => s.peers.any (·.2 == i)) ||
  match h.link? i with
  | some l => l.loop != .ended
  | none => false

/-! ## Subjects -/

def subject? (h : Hub) (m : Method) (path : String) : Option Subject :=
  h.subjects.find? (·.isFor m path)

def openSubject (h : Hub) (m : Method) (path : String) : Hub :=
  if (h.subject? m path).isSome then h
  else { h with subjects := h.subjects ++ [{ method := m, path }] }

def modifySubject (h : Hub) (m : Method) (path : String) (f : Subject → Subject) : Hub :=
  { h with subjects := h.subjects.map fun s => if s.isFor m path then f s else s }

/-- Joins a subject under an id that no other connection there has, with a new link. -/
def attach (h : Hub) (m : Method) (path id : String) (client : Option Client) :
    Hub × Except Error Nat :=
  let h := h.openSubject m path
  match h.subject? m path with
  | some s =>
    if s.contains id then (h, .error (.duplicateConnection id))
    else
      let i := h.links.length
      let h : Hub := { h with links := h.links ++ [{ method := m, path, id, client }] }
      (h.modifySubject m path fun s => { s with peers := s.peers ++ [(id, i)] }, .ok i)
  | none => (h, .error .closed)

def remove (h : Hub) (m : Method) (path id : String) : Hub :=
  match (h.subject? m path).bind fun s => s.peers.lookup id with
  | some i =>
    (h.modifySubject m path fun s => { s with peers := s.peers.filter (·.1 != id) }).modifyLink i
      fun l => { l with cancelled := true }
  | none => h

def disconnect (h : Hub) (m : Method) (path id : String) : Hub × Bool :=
  match h.subject? m path with
  | some s => if s.contains id then (h.remove m path id, true) else (h, false)
  | none => (h, false)

def sendAll (h : Hub) (e : Envelope) : List (String × Nat) → Hub × List String
  | [] => (h, [])
  | (id, i) :: ps =>
    match h.enqueue? i e with
    | some h => sendAll h e ps
    | none =>
      let (h, gone) := sendAll h e ps
      (h, id :: gone)

def broadcast (h : Hub) (m : Method) (path : String) (e : Envelope) : Hub × Except Error Unit :=
  match h.subject? m path with
  | some s =>
    let (h, gone) := h.sendAll e s.peers
    (h, if gone.isEmpty then .ok () else .error (.broadcast (gone.map fun id => (id, .closed))))
  | none => (h, .ok ())

def sendTo (h : Hub) (m : Method) (path id : String) (e : Envelope) : Hub × Except Error Unit :=
  match (h.subject? m path).bind fun s => s.peers.lookup id with
  | some i =>
    match h.enqueue? i e with
    | some h => (h, .ok ())
    | none => (h, .error .closed)
  | none => (h, .error .closed)

/-- Sends to one connection of a subject when an id is given, else to all of them; `none` when nobody
has ever joined the subject. -/
def post? (h : Hub) (m : Method) (path : String) (id : Option String) (e : Envelope) :
    Option (Hub × Except Error Unit) :=
  (h.subject? m path).map fun _ =>
    match id with
    | some id => h.sendTo m path id e
    | none => h.broadcast m path e

end Hub

end Switchboard
