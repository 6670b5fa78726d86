import Switchboard.Web.Context
import Switchboard.Web.World

/-!
# States of an exchange

The context of a request together with the world around it. All that the response writer reports
moves into the journal of the world at once.
-/

namespace Switchboard

structure State (ε : Type) where
  context : Context
  world : World ε := {}

/-- How a piece of work ends: with a value, an error, or a panic that may carry a text. -/
inductive Outcome (α : Type) where
  | ok (value : α)
  | error (e : Error)
  | panic (text : Option String)

namespace State

variable {ε : Type}

def request (s : State ε) : Request := s.context.request

def response (s : State ε) : Response := s.context.response

def withContext (s : State ε) (c : Context) : State ε := { s with context := c }

def mapContext (s : State ε) (f : Context → Context) : State ε := s.withContext (f s.context)

def report (s : State ε) (r : Report ε) : State ε := { s with world := s.world.report r }

def noted (w : World ε) (capturing : Bool) : WriterNote → World ε
  | .alreadyCommitted => w.tell capturing "response already committed"
  | n => w.report (.writer n)

def withResponse (s : State ε) (r : Response) : State ε where
  context := { s.context with response := { r with journal := [] } }
  world := r.journal.foldl (noted · s.context.capturing) s.world

/-! ## Writer steps -/

def step (s : State ε) (w : WriterStep) : State ε := s.withResponse (s.response.step w)

def setHeader (s : State ε) (name value : String) : State ε := s.step (.setHeader name value)

def appendHeader (s : State ε) (name value : String) : State ε := s.step (.appendHeader name value)

def setContentType (s : State ε) (value : String) : State ε := s.setHeader "content-type" value

def write (s : State ε) (body : Bytes) : State ε := s.step (.write body)

def writeHeader (s : State ε) (code : Nat) : State ε := s.step (.writeHeader code)

def setCookie (s : State ε) (c : Cookie) : State ε := s.appendHeader "set-cookie" c.render

end State

end Switchboard
