import Switchboard.Web.Pipeline

/-!
# Serving connections

A running service: its pool and its world. Each link has a serving loop, which takes what arrives,
has it served and queues the reply, and a receiver, which hands queued messages to the calls that wait
for them or to the callback. Both go on in turns; a turn that has nothing to do changes nothing.
-/

namespace Switchboard

structure Running (ε : Type) where
  pool : Pool := []
  world : World ε := {}

namespace Running

variable {ε : Type}

def hub (u : Running ε) : Hub := u.world.hub

def withHub (u : Running ε) (hub : Hub) : Running ε := { u with world := { u.world with hub } }

def report (u : Running ε) (r : Report ε) : Running ε := { u with world := u.world.report r }

def modifyLink (u : Running ε) (i : Nat) (f : Link → Link) : Running ε :=
  u.withHub (u.hub.modifyLink i f)

def serve (u : Running ε) (v : Service ε) (depth : Nat) (r : Request) :
    Option (Answer × Running ε) :=
  (v.serve depth r u.pool u.world).map fun (a, pool, world) => (a, ⟨pool, world⟩)

/-! ## The serving loop -/

def openedReport (l : Link) : Report ε :=
  .event .debug [("conn", l.id), ("subject", l.path), ("message", "event connection opened")]

def closedReport (l : Link) : Report ε :=
  .event .debug [("conn", l.id), ("message", "event connection closed")]

def leave (u : Running ε) (i : Nat) (l : Link) : Running ε :=
  ((u.withHub (u.hub.remove l.method l.path l.id)).modifyLink i Link.deafen).report (closedReport l)

def answer (u : Running ε) (v : Service ε) (depth : Nat) (l : Link) (e : Envelope) :
    Option (Envelope × Running ε) :=
  match e.toRequest l.method l.id with
  | .error failure => some (.failure e.rid e.uri failure, u)
  | .ok r => (u.serve v depth r).map fun (a, u) => (.reply e.rid e.uri a, u)

def takeArrival (u : Running ε) (v : Service ε) (depth : Nat) (i : Nat) (l : Link) :
    Arrival → Option (Running ε)
  | .envelope e =>
    if e.rid = 0 then
      some (u.report (.event .warn [("conn", l.id), ("uri", e.uri),
        ("message", "dropping envelope without rid")]))
    else do
      let (reply, u) ← u.answer v depth l e
      match u.hub.enqueue? i reply with
      | some hub => some (u.withHub hub)
      | none => some (u.leave i l)
  | .malformed =>
    some (u.report (.event .warn [("conn", l.id), ("message", "malformed envelope")]))
  | .broken =>
    some ((u.report (.event .debug [("conn", l.id), ("message", "transport error")])).leave i l)
  | .closing => some (u.leave i l)

/-- One turn of a running loop. It ends when it is asked to, when the service stops, and when nothing
more can arrive. -/
def loopTurn (u : Running ε) (v : Service ε) (depth : Nat) (i : Nat) (l : Link) :
    Option (Running ε) :=
  if l.cancelled ∨ u.world.stop ≠ .running then some (u.leave i l)
  else
    match l.inbound with
    | a :: rest => (u.modifyLink i fun l => { l with inbound := rest }).takeArrival v depth i l a
    | [] => some (if l.sending then u else u.leave i l)

def serveTurn (u : Running ε) (v : Service ε) (depth : Nat) (i : Nat) : Option (Running ε) :=
  match u.hub.link? i with
  | some l =>
    match l.loop with
    | .ready =>
      ((u.modifyLink i fun l => { l with loop := .running }).report (openedReport l)).loopTurn
        v depth i l
    | .running => u.loopTurn v depth i l
    | .ended => some u
  | none => some u

/-! ## The receiver -/

def unclaimedReport (e : Envelope) : Report ε :=
  .event .debug [("rid", Error.number e.rid), ("message", "no receiver for envelope")]

def deliver (u : Running ε) (i : Nat) (c : Client) (e : Envelope) (rest : List Envelope) :
    Running ε :=
  let u := u.modifyLink i (·.handOn c e rest)
  if c.callback = .none ∧ ¬(e.rid ≠ 0 ∧ e.rid ∈ c.pending) then u.report (unclaimedReport e) else u

/-- One turn of the receiver of a link. When the queue is empty and nobody can put anything into it,
the receiver ends and the calls that still wait are given up. -/
def receiveTurn (u : Running ε) (i : Nat) : Running ε :=
  match u.hub.link? i with
  | some l =>
    match l.client with
    | some c =>
      if l.receiving then
        match l.queue with
        | e :: rest => u.deliver i c e rest
        | [] =>
          if u.hub.hasSender i then u else u.modifyLink i (·.finish c)
      else u
    | none => u
  | none => u

/-! ## Running until all is still -/

def loopIsDue (u : Running ε) (l : Link) : Bool :=
  match l.loop with
  | .ready => true
  | .running => l.cancelled || u.world.stop != .running || !l.inbound.isEmpty || !l.sending
  | .ended => false

def receiverIsDue (u : Running ε) (i : Nat) (l : Link) : Bool :=
  l.client.isSome && l.receiving && (!l.queue.isEmpty || !u.hub.hasSender i)

def firstDue (due : Nat → Link → Bool) : Nat → List Link → Option Nat
  | _, [] => none
  | i, l :: ls => if due i l then some i else firstDue due (i + 1) ls

/-- The link whose loop has its turn: loops that have not started yet come first. -/
def nextLoop? (u : Running ε) : Option Nat :=
  firstDue (fun _ l => l.loop == .ready) 0 u.hub.links <|>
    firstDue (fun _ l => u.loopIsDue l) 0 u.hub.links

/-- Gives turns to loops, and to receivers when no loop has anything to do, until all is still. The
first argument bounds the number of turns. -/
def settle (v : Service ε) (depth : Nat) : Nat → Running ε → Option (Running ε)
  | 0, _ => none
  | fuel + 1, u =>
    match u.nextLoop? with
    | some i => (u.serveTurn v depth i).bind (settle v depth fuel)
    | none =>
      match firstDue u.receiverIsDue 0 u.hub.links with
      | some i => settle v depth fuel (u.receiveTurn i)
      | none => some u

/-! ## Clients -/

/-- Connects a client within the process to a subject, under an id of its own or a fresh one. -/
def connect (u : Running ε) (subject : String) (id : Option String) (callback : Callback) :
    Running ε × Except Error Nat :=
  let (id, world) :=
    match id with
    | some id => (id, u.world)
    | none => u.world.freshId
  let (hub, joined) := world.hub.attach .call subject id (some { callback })
  ({ u with world := { world with hub } }, joined)

/-- Sends a request over the connection of a client. A call waits for the reply to its number from
before the request is sent, and no longer when it cannot be sent. -/
def submit (u : Running ε) (i : Nat) (waits : Bool) (uri : String)
    (header : List (String × String)) (body : Option (List Char)) :
    Running ε × Except Error Nat :=
  match u.hub.link? i with
  | some l =>
    match l.client with
    | some c =>
      let (rid, c) := c.reserve
      let l := l.withClient (if waits then c.wait rid else c)
      match l.post? { rid, uri, header, body } with
      | some l => (u.modifyLink i fun _ => l, .ok rid)
      | none =>
        let c := if waits then (c.wait rid).withdraw rid else c
        (u.modifyLink i fun _ => l.withClient c, .error .closed)
    | none => (u, .error .closed)
  | none => (u, .error .closed)

def callResult? (u : Running ε) (i rid : Nat) : Option (Except Error Envelope) :=
  ((u.hub.link? i).bind (·.client)).bind (·.result? rid)

def close (u : Running ε) (i : Nat) : Running ε :=
  match u.hub.link? i with
  | some l => u.withHub (u.hub.disconnect l.method l.path l.id).1
  | none => u

def drop (u : Running ε) (i : Nat) : Running ε :=
  (u.close i).modifyLink i fun l => { l with sending := false }

def collect (u : Running ε) (i : Nat) : Running ε × List Envelope :=
  match (u.hub.link? i).bind (·.client) with
  | some c => (u.modifyLink i fun l => { l with client := some { c with delivered := [] } }, c.delivered)
  | none => (u, [])

def stop (u : Running ε) (how : Stop) : Running ε := { u with world := { u.world with stop := how } }

end Running

end Switchboard
