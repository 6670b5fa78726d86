import Switchboard.Web.Exchange

/-!
# Tracing

A middleware that reports each request when it starts and how it ended. A panic passes without an
entry of its own.
-/

namespace Switchboard.Middleware

variable {ε : Type}

def requestIdField : String := "x-request-id"

def startReport (s : State ε) : Report ε :=
  .span "request" [("method", s.request.method), ("path", s.request.uri.path),
    ("id", (s.context.header? requestIdField).getD "")]

def endReport (s : State ε) : Outcome Unit → Option (Report ε)
  | .ok () => some (.event .info [("status", Error.number s.response.status),
      ("size", Error.number s.response.size), ("message", "completed")])
  | .error e => some (.event .warn [("status", Error.number e.status), ("error", e.message),
      ("message", "failed")])
  | .panic _ => none

/-- Reports a request and its end; the outcome stays. -/
def trace (next : Exchange ε Unit) : Exchange ε Unit := do
  Exchange.report (startReport (← Exchange.get))
  let outcome ← next.attempt
  match endReport (← Exchange.get) outcome with
  | some r => Exchange.report r
  | none => pure ()
  Exchange.resume outcome

/-! ## Request ids -/

def identify (s : State ε) : String × State ε :=
  match (s.context.header? requestIdField).filter (!·.isEmpty) with
  | some id => (id, s)
  | none =>
    let (id, world) := s.world.freshId
    (id, { s with world })

theorem context_identify (s : State ε) : (identify s).2.context = s.context := by
  unfold identify
  split <;> rfl

/-- Gives the response the id of the request, and keeps it in the store. -/
def requestId : Middleware ε := fun next d s =>
  let (id, s) := identify s
  let s := s.setHeader requestIdField id
  next d (s.mapContext (·.setValue "request_id" (.text id)))

end Switchboard.Middleware
