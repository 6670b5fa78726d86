import Switchboard.Proofs.Web.Keeping

/-!
# Panics

A panic that leaves the chain is rendered into an empty writer, so nothing that has been written or
registered before it shows in the answer. Only the request is read once more: the rendering asks for its
method.
-/

namespace Switchboard

variable {ε : Type}

def Outcome.panicText? {α : Type} : Outcome α → Option (Option String)
  | .panic text => some text
  | _ => none

theorem Outcome.panicText?_eq_some_iff {α : Type} {o : Outcome α} {text : Option String} :
    o.panicText? = some text ↔ o = .panic text := by
  cases o <;> simp [panicText?]

namespace State

theorem response_step (s : State ε) (w : WriterStep) :
    (s.step w).response = { s.response.step w with journal := [] } := rfl

theorem response_setHeader (s : State ε) (name value : String) :
    (s.setHeader name value).response = { s.response.setHeader name value with journal := [] } := by
  rw [setHeader, response_step]
  simp only [Response.step, Response.run, Response.turn, List.append_nil]

/-- The rendering of an error looks at the commit of the writer and at the method of the request, so what
the steps of writers keep alike it keeps alike. -/
theorem renderError_rel {R : Response → Response → Prop}
    (hstep : ∀ r r' w, R r r' → R { r.step w with journal := [] } { r'.step w with journal := [] })
    {s s' : State ε} (hresponse : R s.response s'.response)
    (hcommitted : s.response.committed = s'.response.committed)
    (hmethod : s.request.method = s'.request.method) (debug : Bool) (e : Error) :
    R (s.renderError debug e).response (s'.renderError debug e).response := by
  have hsteps {t t' : State ε} (h : R t.response t'.response) (w : WriterStep) :
      R (t.step w).response (t'.step w).response := hstep _ _ w h
  unfold renderError
  simp only [hcommitted, hmethod]
  split
  · exact hresponse
  · split
    · exact hsteps hresponse _
    · exact hsteps (hsteps (hsteps hresponse _) _) _

theorem response_renderError {s s' : State ε} (hresponse : s.response = s'.response)
    (hmethod : s.request.method = s'.request.method) (debug : Bool) (e : Error) :
    (s.renderError debug e).response = (s'.renderError debug e).response := by
  refine renderError_rel (fun r r' w h => ?_) hresponse (by rw [hresponse]) hmethod debug e
  rw [h]

end State

namespace Service

/-- The answer to a panic with a text, for a request of a method. -/
def panicAnswer (v : Service ε) (r : Request) (text : Option String) : Answer :=
  let e := HttpError.internalServerError.withInternal (.other (panicText text))
  let s : State ε := ⟨{ request := r }, {}⟩
  (s.renderError v.config.debug (.http e)).response.toAnswer

theorem desk_onError {v : Service ε} (hdefault : v.onError = none) :
    v.desk.onError = fun e s => s.renderError v.config.debug e := by
  unfold desk
  rw [hdefault]
  rfl

theorem toAnswer_settle_panic {v : Service ε} (hdefault : v.onError = none) {s : State ε}
    {r : Request} (hmethod : s.request.method = r.method) (text : Option String) :
    (v.settle (.panic text) s).response.toAnswer = v.panicAnswer r text := by
  unfold settle panicAnswer
  rw [desk_onError hdefault]
  refine congrArg Response.toAnswer ?_
  apply State.response_renderError
  · rfl
  · exact hmethod

/-- How the chain is left for a request, before anything is rendered. -/
def runChain (v : Service ε) (nested : Request → Pool → World ε → Option (Answer × Pool × World ε))
    (r : Request) (pool : Pool) (world : World ε) : Option (Outcome Unit × State ε × Pool) :=
  (v.chain v.desk ⟨v.prepare (v.acquire pool).1 r, world⟩).run nested (v.acquire pool).2

variable {v : Service ε} {nested : Request → Pool → World ε → Option (Answer × Pool × World ε)}
  {r : Request} {pool pool' : Pool} {world : World ε} {o : Outcome Unit} {s : State ε}

/-- A run of the chain that ends is answered with what is rendered of its end. -/
theorem serveWith_of_runChain (hrun : v.runChain nested r pool world = some (o, s, pool')) :
    ∃ rest, v.serveWith nested r pool world = some ((v.settle o s).response.toAnswer, rest) := by
  unfold runChain at hrun
  unfold serveWith
  simp only [hrun, Option.bind_eq_bind, Option.bind_some]
  exact ⟨_, rfl⟩

def panicking (v : Service ε) (text : Option String) : Service ε :=
  { v with before := [fun _ => Exchange.panic text] }

/-- Whatever has been done when a panic leaves the chain, the answer is the rendering of the panic on an
empty writer, which is also the answer when nothing else than the panic happens. -/
theorem panic_leaves_nothing {text : Option String} (hdefault : v.onError = none)
    (hrun : v.runChain nested r pool world = some (.panic text, s, pool'))
    (hkept : s.request.method = r.method) :
    (∃ rest, v.serveWith nested r pool world = some (v.panicAnswer r text, rest)) ∧
      ∀ nested' pool₁ world₁, ∃ rest,
        (v.panicking text).serveWith nested' r pool₁ world₁ = some (v.panicAnswer r text, rest) := by
  constructor
  · obtain ⟨rest, hserve⟩ := serveWith_of_runChain hrun
    rw [toAnswer_settle_panic hdefault hkept] at hserve
    exact ⟨rest, hserve⟩
  · intro nested' pool₁ world₁
    have hatonce : (v.panicking text).runChain nested' r pool₁ world₁ =
        some (.panic text, _, _) := rfl
    obtain ⟨rest, hserve⟩ := serveWith_of_runChain hatonce
    have hanswer : (v.panicking text).panicAnswer r text = v.panicAnswer r text := rfl
    rw [toAnswer_settle_panic (r := r) (by exact hdefault) rfl, hanswer] at hserve
    exact ⟨rest, hserve⟩

/-- Writes a header field, leaves hooks, and commits some text. -/
def clutter : Exchange ε Unit := Exchange.modify fun s =>
  (((s.setHeader "x-a" "1").step (.before [.setHeader "x-b" "2", .write [0x3F]])).step
    (.after "late")).write [0x68, 0x69]

/-- Clutters before and after what it is put around, and then panics. -/
def cluttered (next : Handler ε) : Exchange ε Unit := do
  clutter
  let _ ← next.attempt
  clutter
  Exchange.panic (some "boom")

def cluttering : Service Unit := (({ before := [cluttered] } : Service Unit).add .get "/" clutter []).1

theorem cluttering_leaves_nothing :
    ∃ rest, cluttering.serve 1 (Request.new "GET" "/") [] {} =
      some (cluttering.panicAnswer (Request.new "GET" "/") (some "boom"), rest) := by
  have hend : (cluttering.runChain (cluttering.serve 0) (Request.new "GET" "/") [] {}).map
      (fun x => (x.1.panicText?, x.2.1.request.method)) = some (some (some "boom"), "GET") := by
    decide +kernel
  obtain ⟨⟨o, s, pool'⟩, hrun, heq⟩ := Option.map_eq_some_iff.mp hend
  obtain ⟨hpanic, hmethod⟩ := Prod.mk.inj heq
  obtain rfl := Outcome.panicText?_eq_some_iff.mp hpanic
  exact (panic_leaves_nothing rfl hrun hmethod).1

end Service

end Switchboard
