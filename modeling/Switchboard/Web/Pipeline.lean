import Switchboard.Web.Service

/-!
# Serving

The way of a request through a service: the middlewares before routing, the router, the middlewares
around its choice, the handler. An error or a panic that leaves the chain is rendered once. Contexts
come from a pool and go back to it clean, and a panic leaves nothing of what was written before.

A handler can have a request of its own served on the way, so serving nests. The first argument of
`serve` bounds the depth; there is no answer when the requests nest deeper.
-/

namespace Switchboard

/-- Contexts that wait for a request. -/
abbrev Pool := List Context

def Work.run {ε α : Type} (serve : Request → Pool → World ε → Option (Answer × Pool × World ε)) :
    Work ε α → Pool → Option (Outcome α × State ε × Pool)
  | .done o s, pool => some (o, s, pool)
  | .serve r w resume, pool => do
    let (a, pool, w) ← serve r pool w
    (resume a w).run serve pool

namespace Service

variable {ε : Type}

/-! ## Contexts -/

def resize (slots : List String) (width : Nat) : List String :=
  slots.take width ++ List.replicate (width - slots.length) ""

def acquire (v : Service ε) : Pool → Context × Pool
  | c :: pool => (c, pool)
  | [] => ({ slots := List.replicate v.routes.maxParam "" }, [])

def prepare (v : Service ε) (c : Context) (r : Request) : Context :=
  { c with request := r, response := {}, slots := resize c.slots v.routes.maxParam, site := some v.site }

/-- A context without all that belonged to its request; the buffer keeps its width. -/
def clean (c : Context) : Context := { slots := c.slots.map fun _ => "" }

/-! ## Routing -/

def missing (e : HttpError) : Handler ε := Exchange.fail (.http e)

def choose (v : Service ε) (c : Context) : Handler ε × Context :=
  match Method.ofName? c.request.method with
  | none => (missing HttpError.methodNotAllowed, { c with routed := true })
  | some m =>
    let found := v.routes.find m c.request.uri.path c.slots
    let h :=
      match found.outcome with
      | .matched h => h
      | .methodNotAllowed => missing HttpError.methodNotAllowed
      | .notFound => missing HttpError.notFound
    (h, { c with
      routed := true
      template := found.template
      names := found.names
      slots := found.slots })

def dispatch (v : Service ε) : Handler ε := fun d s =>
  let (h, c) := v.choose s.context
  (h.within v.around) d (s.withContext c)

def chain (v : Service ε) : Handler ε := v.dispatch.within v.before

/-! ## Serving -/

def panicText (text : Option String) : String := text.getD "handler panicked"

/-- Renders what has left the chain: an error as it is, a panic as an internal error into an empty
response. -/
def settle (v : Service ε) : Outcome Unit → State ε → State ε
  | .ok (), s => s
  | .error e, s => v.desk.onError e s
  | .panic text, s =>
    let world := s.world.tell v.capturing ("[PANIC RECOVER] " ++ panicText text)
    let s : State ε := ⟨{ s.context with response := {} }, world⟩
    v.desk.onError
      (.http (HttpError.internalServerError.withInternal (.other (panicText text)))) s

/-- Serves a request: the answer, the pool and the world after it. Those that handlers have served on
the way are answered by `nested`. -/
def serveWith (v : Service ε)
    (nested : Request → Pool → World ε → Option (Answer × Pool × World ε)) (r : Request)
    (pool : Pool) (world : World ε) : Option (Answer × Pool × World ε) := do
  let (c, pool) := v.acquire pool
  let s : State ε := ⟨v.prepare c r, world⟩
  let (outcome, s, pool) ← (v.chain v.desk s).run nested pool
  let s := v.settle outcome s
  some (s.response.toAnswer, clean s.context :: pool, s.world)

/-- Serves a request, with all that handlers have served on the way up to a depth. -/
def serve (v : Service ε) : Nat → Request → Pool → World ε → Option (Answer × Pool × World ε)
  | 0 => fun _ _ _ => none
  | depth + 1 => v.serveWith (v.serve depth)

def reject (v : Service ε) (e : Error) (r : Request) (pool : Pool) (world : World ε) :
    Answer × Pool × World ε :=
  let (c, pool) := v.acquire pool
  let s := v.desk.onError e ⟨v.prepare c r, world⟩
  (s.response.toAnswer, clean s.context :: pool, s.world)

/-- What arrives over HTTP: a request without its body, and the body unless reading it failed. -/
structure Incoming where
  head : Request
  body : Option Bytes

/-- Answers what arrives over HTTP. A body beyond the limit, or one that cannot be read, is refused
without routing. -/
def receive (v : Service ε) (depth : Nat) (i : Incoming) (pool : Pool) (world : World ε) :
    Option (Answer × Pool × World ε) :=
  match i.body with
  | none =>
    some (v.reject (.http (HttpError.badRequest.withInternal (.other "unreadable body")))
      (i.head.withBody []) pool world)
  | some body =>
    if v.config.maxBodySize < body.length then
      some (v.reject
        (.http (HttpError.payloadTooLarge.withInternal (.other "length limit exceeded")))
        (i.head.withBody []) pool world)
    else v.serve depth (i.head.withBody body) pool world

end Service

end Switchboard
