import Switchboard.Proofs.Web.Commit
import Switchboard.Proofs.Web.Layers
import Switchboard.Proofs.Web.Recovery
import Switchboard.Web.Tracing

/-!
# Answers that are handed on

A middleware hands on when it goes on in a state that differs in nothing that routing or the writing of a
body depends on, and ends well with the body that has been left to it when what it is put around ends
well. Behind such middlewares the body of an answer is the one that the handler has written.
-/

namespace Switchboard

variable {ε : Type}

/-- States with the same target to be routed, and in which the same has been written. -/
structure State.Akin (s s' : State ε) : Prop where
  method : s'.request.method = s.request.method
  uri : s'.request.uri = s.request.uri
  slots : s'.context.slots = s.context.slots
  body : s'.response.body = s.response.body
  before : s'.response.before = s.response.before

namespace State.Akin

variable {s s' s'' : State ε}

theorem refl (s : State ε) : Akin s s := ⟨rfl, rfl, rfl, rfl, rfl⟩

theorem trans (h : Akin s s') (h' : Akin s' s'') : Akin s s'' :=
  ⟨h'.method.trans h.method, h'.uri.trans h.uri, h'.slots.trans h.slots, h'.body.trans h.body,
    h'.before.trans h.before⟩

end State.Akin

/-! ## Middlewares -/

def Middleware.HandsOn (mw : Middleware ε) : Prop :=
  ∀ (h : Handler ε) d s, ∃ s₁, s.Akin s₁ ∧ ∀ s₂, h d s₁ = .done (.ok ()) s₂ →
    ∃ s₃, mw h d s = .done (.ok ()) s₃ ∧ s₃.response.body = s₂.response.body

theorem Handler.within_handsOn {mws : List (Middleware ε)} (h : ∀ mw ∈ mws, mw.HandsOn) :
    Middleware.HandsOn fun h => Handler.within h mws := by
  induction mws with
  | nil => exact fun h d s => ⟨s, .refl s, fun s₂ hs₂ => ⟨s₂, hs₂, rfl⟩⟩
  | cons mw mws ih =>
    obtain ⟨hmw, hmws⟩ := List.forall_mem_cons.mp h
    intro h d s
    obtain ⟨s₁, hs₁, houter⟩ := hmw (h.within mws) d s
    obtain ⟨s₂, hs₂, hinner⟩ := ih hmws h d s₁
    refine ⟨s₂, hs₁.trans hs₂, fun s₃ hs₃ => ?_⟩
    obtain ⟨s₄, hs₄, hbody₄⟩ := hinner s₃ hs₃
    obtain ⟨s₅, hs₅, hbody₅⟩ := houter s₄ hs₄
    exact ⟨s₅, hs₅, hbody₅.trans hbody₄⟩

theorem Middleware.traceEnd_ok (d : Desk ε) (s : State ε) :
    ∃ r, (traceEnd (.ok ()) : Handler ε) d s = .done (.ok ()) (s.report r) := ⟨_, rfl⟩

theorem Middleware.trace_handsOn : HandsOn (trace : Middleware ε) := by
  intro h d s
  refine ⟨s.report (startReport s), ⟨rfl, rfl, rfl, rfl, rfl⟩, fun s₂ hs₂ => ?_⟩
  have htrace : trace h d s =
      (h d (s.report (startReport s))).andThen fun o => (traceEnd o : Handler ε) d :=
    (h d (s.report (startReport s))).bind_attempt fun o => traceEnd o d
  obtain ⟨r, hend⟩ := traceEnd_ok d s₂
  refine ⟨s₂.report r, ?_, rfl⟩
  rw [htrace, hs₂]
  exact hend

theorem State.akin_setHeader (s : State ε) (name value : String) :
    s.Akin (s.setHeader name value) := by
  refine ⟨rfl, rfl, rfl, ?_, ?_⟩ <;> rw [response_setHeader] <;> rfl

theorem State.akin_of_context {s s' : State ε} (h : s'.context = s.context) : s.Akin s' := by
  constructor <;> simp only [request, response, h]

theorem Middleware.requestId_handsOn : HandsOn (requestId : Middleware ε) := by
  intro h d s
  have hset := (State.akin_of_context (context_identify s)).trans
    ((identify s).2.akin_setHeader requestIdField (identify s).1)
  refine ⟨_, ?_, fun s₂ hs₂ => ⟨s₂, hs₂, rfl⟩⟩
  exact hset.trans ⟨rfl, rfl, rfl, rfl, rfl⟩

/-! ## Handlers -/

/-- In a writer to which nothing has been written, and for which no hook waits, the handler leaves
the body. -/
def Handler.Leaves (body : Bytes) (h : Handler ε) : Prop :=
  ∀ d s, s.response.body = [] → s.response.before = [] →
    ∃ s', h d s = .done (.ok ()) s' ∧ s'.response.body = body

theorem Handler.leaves_within {body : Bytes} {h : Handler ε} (hh : h.Leaves body)
    {mws : List (Middleware ε)} (hmws : ∀ mw ∈ mws, mw.HandsOn) : (h.within mws).Leaves body := by
  intro d s hbody hbefore
  obtain ⟨s₁, hs₁, hwithin⟩ := Handler.within_handsOn hmws h d s
  obtain ⟨s₂, hs₂, hleft⟩ := hh d s₁ (hs₁.body.trans hbody) (hs₁.before.trans hbefore)
  obtain ⟨s₃, hs₃, hsame⟩ := hwithin s₂ hs₂
  exact ⟨s₃, hs₃, hsame.trans hleft⟩

def WriterStep.octets : WriterStep → Bytes
  | .write body => body
  | _ => []

/-- Where no hook waits, a step writes nothing but what it is there to write. -/
theorem Response.step_of_before {r : Response} (hr : r.before = []) (w : WriterStep) :
    (r.step w).body = r.body ++ w.octets ∧ (r.step w).before = w.hooks := by
  cases w with
  | writeHeader code =>
    by_cases hc : r.committed = true <;>
      simp [step, run, turn, hr, hc, note, commit, WriterStep.octets, WriterStep.hooks]
  | write body =>
    by_cases hc : r.committed = true <;>
      simp [step, run, turn, hr, hc, append, commit, WriterStep.octets, WriterStep.hooks]
  | _ =>
    simp [step, run, turn, hr, setHeader, appendHeader, removeHeader, addBefore, addAfter,
      WriterStep.octets, WriterStep.hooks]

/-- The work ends well, and by then it has written nothing and no hook waits. -/
def Exchange.Prepares (x : Exchange ε Unit) : Prop :=
  ∀ d s, s.response.body = [] → s.response.before = [] →
    ∃ s', x d s = .done (.ok ()) s' ∧ s'.response.body = [] ∧ s'.response.before = []

theorem Exchange.prepares_setHeader (name value : String) :
    Prepares (modify (·.setHeader name value) : Exchange ε Unit) := fun _ s hbody hbefore =>
  ⟨_, rfl, (s.akin_setHeader name value).body.trans hbody,
    (s.akin_setHeader name value).before.trans hbefore⟩

def Exchange.thenText (x : Exchange ε Unit) (text : String) : Exchange ε Unit := do
  x
  modify (·.sendText 200 text)

theorem State.body_sendText {s : State ε} (hbody : s.response.body = []) (hbefore : s.response.before = [])
    (code : Nat) (text : String) : (s.sendText code text).response.body = Utf8.ofText text := by
  have hstep {s : State ε} (h : s.response.before = []) (w : WriterStep) :
      (s.step w).response.body = s.response.body ++ w.octets ∧
        (s.step w).response.before = w.hooks := s.response.step_of_before h w
  obtain ⟨htype, htype'⟩ := hstep hbefore (.setHeader "content-type" ContentType.text.value)
  obtain ⟨hcommit, hcommit'⟩ := hstep htype' (.writeHeader code)
  obtain ⟨hwrite, -⟩ := hstep hcommit' (.write (Utf8.ofText text))
  refine hwrite.trans ?_
  rw [hcommit, htype, hbody]
  simp [WriterStep.octets]

theorem Exchange.thenText_leaves {x : Exchange ε Unit} (hx : x.Prepares) (text : String) :
    Handler.Leaves (Utf8.ofText text) (x.thenText text) := by
  intro d s hbody hbefore
  obtain ⟨s', hs', hbody', hbefore'⟩ := hx d s hbody hbefore
  refine ⟨s'.sendText 200 text, ?_, State.body_sendText hbody' hbefore' 200 text⟩
  exact congrArg (Work.bind fun _ s => .done (.ok ()) (s.sendText 200 text)) hs'

namespace Service

variable {v : Service ε} {body : Bytes} {h : Handler ε} {m : Method} {r : Request}

theorem length_resize (slots : List String) (width : Nat) : (resize slots width).length = width := by
  simp only [resize, List.length_append, List.length_take, List.length_replicate]
  omega

/-- Requests of a method for a path are given to the handler, perhaps within middlewares that hand
on. -/
def RoutesTo (v : Service ε) (m : Method) (path : String) (h : Handler ε) : Prop :=
  ∀ slots, slots.length = v.routes.maxParam → ∃ mws : List (Middleware ε),
    (v.routes.find m path slots).outcome = .matched (h.within mws) ∧ ∀ mw ∈ mws, mw.HandsOn

theorem RoutesTo.choose (hroute : v.RoutesTo m r.uri.path h) (hmethod : r.method = m.name)
    {c : Context} (hc : c.request.method = r.method) (huri : c.request.uri = r.uri)
    (hslots : c.slots.length = v.routes.maxParam) :
    ∃ mws : List (Middleware ε), (v.choose c).1 = h.within mws ∧ ∀ mw ∈ mws, mw.HandsOn := by
  obtain ⟨mws, hfound, hmws⟩ := hroute c.slots hslots
  refine ⟨mws, ?_, hmws⟩
  unfold Service.choose
  rw [hc, hmethod, Method.ofName?_name, huri]
  dsimp only
  rw [hfound]

/-- Routing and all around it leaves the body that the handler leaves. -/
theorem dispatch_leaves (hh : h.Leaves body) (hmethod : r.method = m.name)
    (hroute : v.RoutesTo m r.uri.path h) (haround : ∀ mw ∈ v.around, mw.HandsOn) {s : State ε}
    (hs : s.request.method = r.method) (huri : s.request.uri = r.uri)
    (hslots : s.context.slots.length = v.routes.maxParam) (hbody : s.response.body = [])
    (hbefore : s.response.before = []) (d : Desk ε) :
    ∃ s', v.dispatch d s = .done (.ok ()) s' ∧ s'.response.body = body := by
  obtain ⟨mws, hchosen, hmws⟩ := hroute.choose hmethod hs huri hslots
  have hleaves := Handler.leaves_within (Handler.leaves_within hh hmws) haround
  rw [← hchosen] at hleaves
  have hresponse : (v.choose s.context).2.response = s.response := by
    unfold Service.choose
    split <;> rfl
  exact hleaves d (s.withContext (v.choose s.context).2)
    ((congrArg Response.body hresponse).trans hbody)
    ((congrArg Response.before hresponse).trans hbefore)

/-- Behind middlewares that hand on, the answer to a request has the body that the handler leaves. -/
theorem serve_body (hh : h.Leaves body) (hmethod : r.method = m.name)
    (hroute : v.RoutesTo m r.uri.path h) (hmws : ∀ mw ∈ v.before ++ v.around, mw.HandsOn)
    (depth : Nat) (pool : Pool) (world : World ε) :
    ∃ a rest, v.serve (depth + 1) r pool world = some (a, rest) ∧ a.body = body := by
  obtain ⟨hbefore, haround⟩ := List.forall_mem_append.mp hmws
  obtain ⟨s₁, hs₁, hpassed⟩ := Handler.within_handsOn hbefore v.dispatch v.desk
    ⟨v.prepare (v.acquire pool).1 r, world⟩
  obtain ⟨s₂, hs₂, hleft⟩ := dispatch_leaves hh hmethod hroute haround hs₁.method hs₁.uri
    ((congrArg List.length hs₁.slots).trans (length_resize _ _)) hs₁.body hs₁.before v.desk
  obtain ⟨s₃, hs₃, hsame⟩ := hpassed s₂ hs₂
  have hrun : v.runChain (v.serve depth) r pool world = some (.ok (), s₃, (v.acquire pool).2) := by
    unfold runChain
    exact congrArg (Work.run (v.serve depth) · _) hs₃
  obtain ⟨rest, hserve⟩ := serveWith_of_runChain hrun
  exact ⟨_, rest, hserve, hsame.trans hleft⟩

end Service

end Switchboard
