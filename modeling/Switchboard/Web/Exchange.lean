import Switchboard.Web.Reply

/-!
# Exchanges

The work of a handler: it changes the state of its exchange, may fail or panic, and may have another
request served on the way. Such a nested request is left to whoever runs the work, so a handler is a
plain value.
-/

namespace Switchboard

/-- Work that has ended, or that waits for the answer to a request of its own. -/
inductive Work (ε α : Type) where
  | done (outcome : Outcome α) (state : State ε)
  | serve (request : Request) (world : World ε) (resume : Answer → World ε → Work ε α)

namespace Work

variable {ε α β : Type}

def andThen (f : Outcome α → State ε → Work ε β) : Work ε α → Work ε β
  | done o s => f o s
  | serve r w k => serve r w fun a w => (k a w).andThen f

def bind (f : α → State ε → Work ε β) : Work ε α → Work ε β :=
  andThen fun
    | .ok a, s => f a s
    | .error e, s => done (.error e) s
    | .panic text, s => done (.panic text) s

end Work

/-- How a service renders errors and results. -/
structure Desk (ε : Type) where
  onError : Error → State ε → State ε
  onOk : Json → State ε → Outcome Unit × State ε

def Desk.standard {ε : Type} (debug : Bool) : Desk ε where
  onError e s := s.renderError debug e
  onOk data s := (.ok (), s.renderOk data)

/-- Work that is yet to be told its desk and the state it starts from. -/
def Exchange (ε α : Type) := Desk ε → State ε → Work ε α

abbrev Handler (ε : Type) := Exchange ε Unit

abbrev Middleware (ε : Type) := Handler ε → Handler ε

namespace Exchange

variable {ε α β : Type}

instance : Monad (Exchange ε) where
  pure a := fun _ s => .done (.ok a) s
  bind x f := fun d s => (x d s).bind fun a s => f a d s

/-! ## Basic work -/

def get : Exchange ε (State ε) := fun _ s => .done (.ok s) s

def modify (f : State ε → State ε) : Exchange ε Unit := fun _ s => .done (.ok ()) (f s)

def fail (e : Error) : Exchange ε α := fun _ s => .done (.error e) s

def panic (text : Option String) : Exchange ε α := fun _ s => .done (.panic text) s

def liftResult (f : State ε → Except Error α × State ε) : Exchange ε α := fun _ s =>
  match f s with
  | (.ok a, s) => .done (.ok a) s
  | (.error e, s) => .done (.error e) s

def onContext (f : Context → α × Context) : Exchange ε α := fun _ s =>
  let (a, c) := f s.context
  .done (.ok a) (s.withContext c)

def tryContext (f : Context → Except Error α × Context) : Exchange ε α :=
  liftResult fun s =>
    let (r, c) := f s.context
    (r, s.withContext c)

def report (r : Report ε) : Exchange ε Unit := modify (·.report r)

def attempt (x : Exchange ε α) : Exchange ε (Outcome α) := fun d s =>
  (x d s).andThen fun o s => .done (.ok o) s

def resume : Outcome α → Exchange ε α
  | .ok a => pure a
  | .error e => fail e
  | .panic text => panic text

/-- Work followed by `last`, whether it succeeds, fails or panics. -/
def finally_ (x : Exchange ε α) (last : State ε → State ε) : Exchange ε α := fun d s =>
  (x d s).andThen fun o s => .done o (last s)

def serve (r : Request) : Exchange ε Answer := fun _ s =>
  .serve r s.world fun a w => .done (.ok a) { s with world := w }

/-- Sends to connections of the service; `false` when nobody has ever joined the subject. -/
def post (m : Method) (path : String) (id : Option String) (e : Envelope) : Exchange ε Bool :=
  liftResult fun s =>
    match s.world.hub.post? m path id e with
    | some (hub, sent) => (sent.map fun _ => true, { s with world := { s.world with hub } })
    | none => (.ok false, s)

/-! ## Results -/

def renderError (e : Error) : Exchange ε Unit := fun d s => .done (.ok ()) (d.onError e s)

def ok (data : Json) : Exchange ε Unit := fun d s =>
  let (o, s) := d.onOk data s
  .done o s

end Exchange

/-- A handler within middlewares, the first one outermost. -/
def Handler.within {ε : Type} (h : Handler ε) (mws : List (Middleware ε)) : Handler ε :=
  mws.foldr (fun mw h => mw h) h

end Switchboard
