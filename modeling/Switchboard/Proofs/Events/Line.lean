import Mathlib.Logic.Relation
import Switchboard.Proofs.Events.Loops

/-!
# The line of a client

One client, the serving loop of its link and the receiver of its replies, in steps that can come in any
order. A call takes a number, lets itself be waited for, sends, and takes its name off again when the
loop reads no more. The loop serves one request after the other; in the end it takes the entry of the
link out of its subject, stops to read, and drops its own end of the queue, in this order. The receiver
hands messages on until nobody is left who could send one, and then gives up all calls that wait.

Besides the link itself a state keeps what has become of each request and each message.
-/

namespace Switchboard

variable {ε : Type}

@[simp]
def Arrival.envelope? : Arrival → Option Envelope
  | envelope e => some e
  | _ => none

inductive Stage where
  | numbered
  | listed
  | sent
  | refused
  | failed
deriving DecidableEq

structure Op where
  waits : Bool
  envelope : Envelope
  stage : Stage := .numbered

namespace Op

def rid (o : Op) : Nat := o.envelope.rid

/-- Whether the request can be sent now; calls are listed first. -/
def Ready (o : Op) : Prop := o.stage = if o.waits then .listed else .numbered

def moved (o : Op) (s : Stage) : Op := { o with stage := s }

end Op

inductive Recipient where
  | call (rid : Nat)
  | callback
  | nobody
deriving DecidableEq

def Callback.recipient (b : Callback) : Recipient := if b = .none then .nobody else .callback

/-- Who gets a message; with a callback that panics, the panic is all that comes of it. -/
def Client.recipient (c : Client) (e : Envelope) : Recipient :=
  if e.rid ≠ 0 ∧ e.rid ∈ c.pending then .call e.rid else c.callback.recipient

structure Line where
  link : Link
  /-- Whether the entry of the link, with a sender for the queue, stands in the subject. -/
  standing : Bool := true
  /-- The senders that pushes have borrowed from the entry. -/
  loaned : Nat := 0
  stopped : Bool := false
  phase : LoopPhase := .reading
  /-- Whether the receiver has ended in its own time. -/
  ended : Bool := false
  ops : List Op := []
  /-- All that was ever put into the queue. -/
  queued : List Envelope := []
  handed : List (Envelope × Recipient) := []
  /-- What was on its way when a channel was dropped. -/
  lost : List Envelope := []

namespace Line

def opened (path id : String) (callback : Callback) : Line :=
  { link := { method := .call, path, id, client := some { callback } } }

def advance (x : Line) (k : Nat) (o : Op) (s : Stage) : List Op := x.ops.set k (o.moved s)

def HasSender (x : Line) : Prop := x.standing = true ∨ 0 < x.loaned ∨ x.phase ≠ .over

/-- One step of a line whose requests are served as those of the link `l₀`. -/
inductive Step (v : Service ε) (l₀ : Link) : Line → Line → Prop
  -- the client
  | reserve {x : Line} {c : Client} (waits : Bool) (uri : String)
    (header : List (String × String)) (body : Option (List Char)) :
    x.link.client = some c →
    Step v l₀ x { x with
      link := x.link.withClient c.reserve.2
      ops := x.ops ++ [{ waits, envelope := { rid := c.reserve.1, uri, header, body } }] }
  | wait {x : Line} {c : Client} {k : Nat} {o : Op} :
    x.link.client = some c → x.ops[k]? = some o → o.waits = true → o.stage = .numbered →
    Step v l₀ x { x with ops := x.advance k o .listed, link := x.link.withClient (c.wait o.rid) }
  | send {x : Line} {k : Nat} {o : Op} {l : Link} :
    x.ops[k]? = some o → o.Ready → x.link.post? o.envelope = some l →
    Step v l₀ x { x with ops := x.advance k o .sent, link := l }
  | refuse {x : Line} {k : Nat} {o : Op} :
    x.ops[k]? = some o → o.Ready → x.link.post? o.envelope = none →
    Step v l₀ x { x with ops := x.advance k o (if o.waits then .refused else .failed) }
  | withdraw {x : Line} {c : Client} {k : Nat} {o : Op} :
    x.link.client = some c → x.ops[k]? = some o → o.stage = .refused →
    Step v l₀ x { x with ops := x.advance k o .failed, link := x.link.withClient (c.withdraw o.rid) }
  -- closing: the entry can be taken out at any time, by its own loop, by the client or by others
  | expel {x : Line} : Step v l₀ x { x with standing := false }
  | cancel {x : Line} : Step v l₀ x { x with link := { x.link with cancelled := true } }
  | hangUp {x : Line} : Step v l₀ x { x with link := { x.link with sending := false } }
  | stop {x : Line} : Step v l₀ x { x with stopped := true }
  -- pushes
  | lend {x : Line} : x.standing = true → Step v l₀ x { x with loaned := x.loaned + 1 }
  | push {x : Line} {l : Link} (uri : String) (value : Json) :
    0 < x.loaned → x.link.put? (.push uri value) = some l →
    Step v l₀ x { x with link := l, queued := x.queued ++ [.push uri value] }
  | giveBack {x : Line} : Step v l₀ x { x with loaned := x.loaned - 1 }
  -- the serving loop
  | start {x : Line} : x.link.loop = .ready →
    Step v l₀ x { x with link := { x.link with loop := .running } }
  | read {x : Line} {e : Envelope} {rest : List Arrival} :
    x.phase = .reading → x.link.inbound = .envelope e :: rest → e.rid ≠ 0 →
    Step v l₀ x { x with link := { x.link with inbound := rest }, phase := .serving e }
  | skip {x : Line} {e : Envelope} {rest : List Arrival} :
    x.phase = .reading → x.link.inbound = .envelope e :: rest → e.rid = 0 →
    Step v l₀ x { x with link := { x.link with inbound := rest } }
  | reply {x : Line} {e r : Envelope} {l : Link} :
    x.phase = .serving e → Served v l₀ e r → x.link.put? r = some l →
    Step v l₀ x { x with link := l, phase := .reading, queued := x.queued ++ [r] }
  | unheard {x : Line} {e r : Envelope} :
    x.phase = .serving e → Served v l₀ e r → x.link.put? r = none →
    Step v l₀ x { x with phase := .leaving, lost := x.lost ++ [r] }
  | quit {x : Line} :
    x.phase = .reading →
    x.link.cancelled = true ∨ x.stopped = true ∨ x.link.inbound = [] ∧ x.link.sending = false →
    Step v l₀ x { x with phase := .leaving }
  | leave {x : Line} : x.phase = .leaving →
    Step v l₀ x { x with phase := .left }
  | deafen {x : Line} : x.phase = .left →
    Step v l₀ x { x with
      phase := .deaf
      link := x.link.deafen
      lost := x.lost ++ x.link.inbound.filterMap Arrival.envelope? }
  | close {x : Line} : x.phase = .deaf → Step v l₀ x { x with phase := .over }
  -- the receiver
  | handOn {x : Line} {c c' : Client} {e : Envelope} {rest : List Envelope} :
    x.link.client = some c → x.link.receiving = true → x.link.queue = e :: rest →
    c.take e = some c' →
    Step v l₀ x { x with
      link := x.link.handOn c e rest, handed := x.handed ++ [(e, c.recipient e)] }
  | breakOff {x : Line} {c : Client} {e : Envelope} {rest : List Envelope} :
    x.link.client = some c → x.link.receiving = true → x.link.queue = e :: rest →
    c.take e = none →
    Step v l₀ x { x with
      link := x.link.handOn c e rest, handed := x.handed ++ [(e, c.recipient e)]
      lost := x.lost ++ rest }
  | finish {x : Line} {c : Client} :
    x.link.client = some c → x.link.receiving = true → x.link.queue = [] → ¬ x.HasSender →
    Step v l₀ x { x with link := x.link.finish c, ended := true }

abbrev Steps (v : Service ε) (l₀ : Link) : Line → Line → Prop := Relation.ReflTransGen (Step v l₀)

def Reach (v : Service ε) (path id : String) (callback : Callback) : Line → Prop :=
  Relation.ReflTransGen (Step v (opened path id callback).link) (opened path id callback)

end Line

end Switchboard
