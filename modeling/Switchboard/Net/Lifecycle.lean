import Switchboard.Web.World

/-!
# The life of a listening service

A service that listens accepts connections until it sees a wish to stop; then it lets those in flight
finish, or drops them. The wish can be uttered at any time. Listening starts by taking back an
earlier one, and sees only those that are uttered once it watches for them.
-/

namespace Switchboard

inductive Phase where
  /-- Listening has been asked for and has not begun. -/
  | invoked
  /-- An earlier wish has been taken back, and nobody watches for another one yet. -/
  | starting
  | accepting
  /-- No more connections are accepted; those in flight are waited for. -/
  | draining
  | finished
deriving DecidableEq, Repr

structure Lifecycle where
  stop : Stop := .running
  /-- Whether a wish has been uttered since it was looked at last. -/
  unseen : Bool := false
  phase : Phase := .invoked
  /-- Whether the last look has found no wish, and nothing has been accepted since. -/
  ready : Bool := false
  inFlight : List Nat := []
  /-- Connections that were dropped. -/
  aborted : List Nat := []
deriving DecidableEq, Repr

namespace Lifecycle

inductive Event where
  | shutdown
  | close
  /-- An earlier wish is taken back. -/
  | begin
  /-- From now on wishes are watched for. -/
  | watch
  | accept (connection : Nat)
  | finish (connection : Nat)
  /-- The wish is looked at. -/
  | observe
  /-- Nothing is in flight any more. -/
  | drained
deriving DecidableEq, Repr

/-- What an event does, if it can happen. Each connection is accepted after a look that has found no
wish; one may be uttered in between. -/
def step (l : Lifecycle) : Event → Option Lifecycle
  | .shutdown => some { l with stop := .graceful, unseen := true }
  | .close => some { l with stop := .immediate, unseen := true }
  | .begin =>
    if l.phase = .invoked then some { l with stop := .running, phase := .starting } else none
  | .watch =>
    if l.phase = .starting then some { l with unseen := false, phase := .accepting } else none
  | .accept c =>
    if l.phase = .accepting ∧ l.ready ∧ c ∉ l.inFlight then
      some { l with ready := false, inFlight := l.inFlight ++ [c] }
    else none
  | .finish c => if c ∈ l.inFlight then some { l with inFlight := l.inFlight.erase c } else none
  | .observe =>
    if l.phase = .accepting then
      if l.unseen then
        match l.stop with
        | .running => some { l with unseen := false, ready := false }
        | .graceful => some { l with unseen := false, ready := false, phase := .draining }
        | .immediate =>
          some { l with
            unseen := false
            ready := false
            phase := .draining
            inFlight := []
            aborted := l.aborted ++ l.inFlight }
      else some { l with ready := true }
    else none
  | .drained =>
    if l.phase = .draining ∧ l.inFlight = [] then some { l with phase := .finished } else none

def run (l : Lifecycle) : List Event → Option Lifecycle
  | [] => some l
  | e :: es => (l.step e).bind fun l => l.run es

end Lifecycle

end Switchboard
