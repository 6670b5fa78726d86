import Switchboard.Proofs.Route.Registration
import Switchboard.Proofs.Route.Relabel
import Switchboard.Web.Pipeline

/-!
# Routes for envelopes

Two methods mark envelopes, and handlers that are registered for them are meant for envelopes alone. A
method is known by its name, though, so a request that arrives over HTTP under one of the two names is
routed to them. Under every other name it makes no difference what these handlers are: exchanged for
others, they leave every answer and all that a request does as they were.
-/

namespace Switchboard

open Route

variable {ε : Type}

/-! ## What HTTP is to see -/

def overHttp {α : Type} (m : Method) (h : α) : Option α :=
  if m ∈ Method.standard then some h else none

def Route.Registration.overHttp {α : Type} (r : Registration α) : Registration (Option α) :=
  ⟨r.method, r.pattern, Switchboard.overHttp r.method r.handler⟩

def PlainName (token : String) : Prop := token ≠ "WEBSOCKET" ∧ token ≠ "CALL"

theorem plainName_iff (m : Method) : PlainName m.name ↔ m ∈ Method.standard := by
  cases m <;> simp [PlainName, Method.name, Method.standard]

namespace Service

/-- Two services that differ in their handlers for envelopes only. -/
def AlikeOverHttp (v v' : Service ε) : Prop :=
  ∃ t, v' = { v with routes := t } ∧ t.relabel overHttp = v.routes.relabel overHttp

/-- Registers one route after the other; those that are refused are passed over. -/
def enroll (v : Service ε) (rs : List (Registration (Handler ε))) : Service ε :=
  rs.foldl (fun v r => (v.add r.method r.pattern r.handler []).1) v

theorem enroll_eq (v : Service ε) (rs : List (Registration (Handler ε))) :
    v.enroll rs =
      { v with routes := rs.foldl (fun t r => (t.add r.method r.pattern r.handler).1) v.routes } := by
  induction rs generalizing v with
  | nil => rfl
  | cons r rs ih => exact ih _

theorem relabel_enroll (t : Route.Tree (Handler ε)) (rs : List (Registration (Handler ε))) :
    (rs.foldl (fun t r => (t.add r.method r.pattern r.handler).1) t).relabel overHttp =
      (rs.map Registration.overHttp).foldl (fun t r => (t.add r.method r.pattern r.handler).1)
        (t.relabel overHttp) := by
  induction rs generalizing t with
  | nil => rfl
  | cons r rs ih =>
    rw [List.foldl_cons, ih, List.map_cons, List.foldl_cons]
    exact congrArg (List.foldl _ · _)
      (congrArg Prod.fst (Route.Tree.add_relabel overHttp t r.method r.pattern r.handler)).symm

theorem alike_enroll (v : Service ε) {rs rs' : List (Registration (Handler ε))}
    (h : rs.map Registration.overHttp = rs'.map Registration.overHttp) :
    (v.enroll rs).AlikeOverHttp (v.enroll rs') := by
  refine ⟨(v.enroll rs').routes, ?_, ?_⟩
  · simp only [enroll_eq]
  · simp only [enroll_eq, relabel_enroll, h]

/-! ## Routing -/

theorem overHttp_injective {m : Method} (hm : m ∈ Method.standard) :
    (overHttp m : Handler ε → Option (Handler ε)).Injective := by
  intro h h' e
  rwa [overHttp, overHttp, if_pos hm, if_pos hm, Option.some.injEq] at e

theorem find_alike {v v' : Service ε} (h : v.AlikeOverHttp v') {m : Method}
    (hm : m ∈ Method.standard) (path : String) (slots : List String) :
    v'.routes.find m path slots = v.routes.find m path slots := by
  obtain ⟨t, rfl, ht⟩ := h
  have hfind := congrArg (fun t => t.find m path slots) ht
  simp only [Route.Tree.find_relabel] at hfind
  exact Found.map_injective (overHttp_injective hm) hfind

theorem exists_handler_ne (h : Handler ε) : ∃ h' : Handler ε, h' ≠ h := by
  by_cases hp : Exchange.panic none = h
  · refine ⟨Exchange.fail .closed, fun e => ?_⟩
    have := congrFun (congrFun (e.trans hp.symm) (Desk.standard false)) ⟨{}, {}⟩
    cases this
  · exact ⟨_, hp⟩

/-- What routing chooses depends on the handlers for envelopes exactly when it chooses one of them. -/
theorem choose_alike_iff (v : Service ε) (c : Context) :
    (∀ v', v.AlikeOverHttp v' → v'.choose c = v.choose c) ↔
      ∀ m h, c.request.method = m.name →
        (v.routes.find m c.request.uri.path c.slots).outcome = .matched h →
        m ∈ Method.standard := by
  constructor
  · intro halike m h hname hfound
    by_contra hm
    -- a service with another handler in the place of every one for envelopes
    obtain ⟨h', hne⟩ := exists_handler_ne h
    let g : Method → Handler ε → Handler ε := fun m h => if m ∈ Method.standard then h else h'
    have hsame : (v.routes.relabel g).relabel overHttp = v.routes.relabel overHttp := by
      rw [Route.Tree.relabel_relabel]
      refine congrArg v.routes.relabel (funext fun m => funext fun h => ?_)
      by_cases hm : m ∈ Method.standard
      · simp only [g, if_pos hm]
      · simp only [overHttp, if_neg hm]
    have hchosen := congrArg Prod.fst (halike _ ⟨_, rfl, hsame⟩)
    simp only [choose, hname, Method.ofName?_name, Route.Tree.find_relabel, Found.map, hfound,
      Lookup.map, g, if_neg hm] at hchosen
    exact hne hchosen
  · intro hstd v' h
    unfold choose
    cases hm : Method.ofName? c.request.method with
    | none => rfl
    | some m =>
      have hname := Method.name_of_ofName? hm
      have hfind : v'.routes.find m c.request.uri.path c.slots =
          v.routes.find m c.request.uri.path c.slots := by
        by_cases hmatched :
            ∃ h, (v.routes.find m c.request.uri.path c.slots).outcome = .matched h
        · obtain ⟨h', hfound⟩ := hmatched
          exact find_alike h (hstd m h' hname.symm hfound) _ _
        · obtain ⟨t, rfl, ht⟩ := h
          have hfind := congrArg (fun t => t.find m c.request.uri.path c.slots) ht
          simp only [Route.Tree.find_relabel] at hfind
          exact Found.eq_of_map_eq (not_exists.mp hmatched) hfind
      simp only [hfind]

theorem choose_alike {v v' : Service ε} (h : v.AlikeOverHttp v') {c : Context}
    (hc : PlainName c.request.method) : v'.choose c = v.choose c := by
  refine (choose_alike_iff v c).mpr (fun m _ hname _ => ?_) v' h
  rw [← plainName_iff, ← hname]
  exact hc

end Service

/-! ## Middlewares -/

/-- Handlers that do the same work for requests with plain names. -/
def SamePlain (h h' : Handler ε) : Prop :=
  ∀ d s, PlainName s.request.method → h d s = h' d s

/-- A middleware that hands on no request under the name of an envelope, unless it came under one. -/
def Middleware.KeepsPlain (mw : Middleware ε) : Prop :=
  ∀ h h', SamePlain h h' → SamePlain (mw h) (mw h')

theorem SamePlain.within {h h' : Handler ε} (hh : SamePlain h h') :
    ∀ {mws : List (Middleware ε)}, (∀ mw ∈ mws, mw.KeepsPlain) →
      SamePlain (h.within mws) (h'.within mws)
  | [], _ => hh
  | mw :: _, hmws =>
    hmws mw List.mem_cons_self _ _ (hh.within fun mw hmw => hmws mw (List.mem_cons_of_mem _ hmw))

theorem Middleware.requestId_keepsPlain : KeepsPlain (requestId : Middleware ε) := by
  intro h h' hh d s hs
  refine hh d _ ?_
  show PlainName (identify s).2.context.request.method
  rw [context_identify]
  exact hs

theorem Middleware.trace_keepsPlain : KeepsPlain (trace : Middleware ε) := by
  intro h h' hh d s hs
  have hnext : h.attempt d (s.report (startReport s)) = h'.attempt d (s.report (startReport s)) :=
    congrArg (Work.andThen _) (hh d (s.report (startReport s)) hs)
  exact congrArg (Work.bind _) hnext

/-! ## Serving -/

namespace Service

/-- Answers what arrives over HTTP. Requests that handlers have served on the way do not arrive over
HTTP, and are answered by `nested`. -/
def receiveWith (v : Service ε)
    (nested : Request → Pool → World ε → Option (Answer × Pool × World ε)) (i : Incoming)
    (pool : Pool) (world : World ε) : Option (Answer × Pool × World ε) :=
  match i.body with
  | none =>
    some (v.reject (.http (HttpError.badRequest.withInternal (.other "unreadable body")))
      (i.head.withBody []) pool world)
  | some body =>
    if v.config.maxBodySize < body.length then
      some (v.reject
        (.http (HttpError.payloadTooLarge.withInternal (.other "length limit exceeded")))
        (i.head.withBody []) pool world)
    else v.serveWith nested (i.head.withBody body) pool world

theorem receive_succ (v : Service ε) (depth : Nat) :
    v.receive (depth + 1) = v.receiveWith (v.serve depth) := rfl

section alike

variable {v v' : Service ε} (h : v.AlikeOverHttp v')
include h

theorem rest_alike : v'.config = v.config ∧ v'.before = v.before ∧ v'.around = v.around ∧
    v'.desk = v.desk ∧ v'.settle = v.settle := by
  obtain ⟨t, rfl, _⟩ := h
  exact ⟨rfl, rfl, rfl, rfl, rfl⟩

theorem maxParam_alike : v'.routes.maxParam = v.routes.maxParam := by
  obtain ⟨t, rfl, ht⟩ := h
  show (t.relabel overHttp).maxParam = _
  rw [ht]
  rfl

theorem site_alike : v'.site = v.site := by
  have hmax := maxParam_alike h
  obtain ⟨t, rfl, ht⟩ := h
  have hroutes : t.routes = v.routes.routes := by
    rw [← Route.Tree.routes_relabel overHttp t, ht, Route.Tree.routes_relabel]
  simp only at hmax
  simp only [site, hroutes, hmax]

theorem acquire_alike (pool : Pool) : v'.acquire pool = v.acquire pool := by
  cases pool with
  | nil => simp only [acquire, maxParam_alike h]
  | cons => rfl

theorem prepare_alike (c : Context) (r : Request) : v'.prepare c r = v.prepare c r := by
  simp only [prepare, site_alike h, maxParam_alike h]

theorem reject_alike (e : Error) (r : Request) (pool : Pool) (world : World ε) :
    v'.reject e r pool world = v.reject e r pool world := by
  obtain ⟨_, _, _, hdesk, _⟩ := rest_alike h
  simp only [reject, acquire_alike h, prepare_alike h, hdesk]

theorem dispatch_alike : SamePlain v'.dispatch v.dispatch := by
  intro d s hs
  obtain ⟨_, _, haround, _⟩ := rest_alike h
  simp only [dispatch]
  rw [choose_alike h hs, haround]

theorem serveWith_alike (hbefore : ∀ mw ∈ v.before, mw.KeepsPlain) {r : Request}
    (hr : PlainName r.method)
    (nested : Request → Pool → World ε → Option (Answer × Pool × World ε)) (pool : Pool)
    (world : World ε) : v'.serveWith nested r pool world = v.serveWith nested r pool world := by
  obtain ⟨_, hsame, _, hdesk, hsettle⟩ := rest_alike h
  have hchain : SamePlain v'.chain v.chain := by
    rw [chain, hsame]
    exact (dispatch_alike h).within hbefore
  simp only [serveWith, acquire_alike h, prepare_alike h, hdesk, hsettle]
  rw [hchain v.desk ⟨v.prepare (v.acquire pool).1 r, world⟩ hr]

theorem receiveWith_alike (hbefore : ∀ mw ∈ v.before, mw.KeepsPlain) {i : Incoming}
    (hi : PlainName i.head.method)
    (nested : Request → Pool → World ε → Option (Answer × Pool × World ε)) (pool : Pool)
    (world : World ε) : v'.receiveWith nested i pool world = v.receiveWith nested i pool world := by
  obtain ⟨hconfig, _⟩ := rest_alike h
  unfold receiveWith
  cases i.body with
  | none => simp only [reject_alike h]
  | some body =>
    simp only [hconfig, reject_alike h]
    split
    · rfl
    · exact serveWith_alike h hbefore (r := i.head.withBody body) hi nested pool world

end alike

def oneRoute (m : Method) (h : Handler ε) : Service ε := enroll {} [⟨m, "/x", h⟩]

def onlyRequest (m : Method) : Incoming := ⟨Request.new m.name "/x", some []⟩

theorem onlyRequest_eq (m : Method) :
    onlyRequest m = ⟨{ method := m.name, uri := ⟨none, none, "/x", none⟩ }, some []⟩ := by
  have huri : Uri.ofString? "/x" = some ⟨none, none, "/x", none⟩ := by decide +kernel
  unfold onlyRequest Request.new
  rw [huri, Option.getD_some]

def loud : Handler ε := Exchange.report (.line "ran")

def quiet : Handler ε := Exchange.modify fun s => s

def journalOf : Option (Answer × Pool × World ε) → List (Report ε)
  | some (_, _, w) => w.journal
  | none => []

/-- The handler of the route is run, be it for envelopes or not. -/
theorem oneRoute_runs (m : Method) :
    (oneRoute m (quiet : Handler ε)).receiveWith ((oneRoute m loud).serve 0) (onlyRequest m) [] {} ≠
      (oneRoute m loud).receive 1 (onlyRequest m) [] {} := by
  have hquiet : journalOf ((oneRoute m (quiet : Handler ε)).receiveWith ((oneRoute m loud).serve 0)
      (onlyRequest m) [] {}) = [] := by
    rw [onlyRequest_eq]
    cases m <;> cbv
  have hloud : journalOf ((oneRoute m (loud : Handler ε)).receive 1 (onlyRequest m) [] {}) =
      [.line "ran"] := by
    rw [onlyRequest_eq]
    cases m <;> cbv
  intro h
  rw [h, hloud] at hquiet
  cases hquiet

/-- Over HTTP the handlers for envelopes are never run exactly under the names that mark no envelope:
then any others in their place leave all as it is. Under the two other names routing gives the request
to such a handler as soon as it finds one. -/
theorem envelope_handlers_idle_iff (token : String) :
    ((∀ (v : Service ε) (rs rs' : List (Registration (Handler ε))),
        rs.map Registration.overHttp = rs'.map Registration.overHttp →
        (∀ mw ∈ v.before, mw.KeepsPlain) →
        ∀ (depth : Nat) (i : Incoming) (pool : Pool) (world : World ε), i.head.method = token →
          (v.enroll rs').receiveWith ((v.enroll rs).serve depth) i pool world =
            (v.enroll rs).receive (depth + 1) i pool world) ↔
      PlainName token) ∧
    ∀ (v : Service ε) (c : Context), c.request.method = token →
      ((∀ v', v.AlikeOverHttp v' → v'.choose c = v.choose c) ↔
        ∀ m h, token = m.name →
          (v.routes.find m c.request.uri.path c.slots).outcome = .matched h →
          m ∈ Method.standard) := by
  refine ⟨⟨fun hidle => ?_, fun htoken v rs rs' hrs hbefore depth i pool world hi => ?_⟩, ?_⟩
  · by_contra hplain
    obtain ⟨m, hm, rfl⟩ : ∃ m, m ∉ Method.standard ∧ m.name = token := by
      by_cases hws : token = "WEBSOCKET"
      · exact ⟨.websocket, by decide, hws.symm⟩
      · exact ⟨.call, by decide, (not_not.mp fun hcall => hplain ⟨hws, Ne.symm hcall⟩)⟩
    refine oneRoute_runs (ε := ε) m (hidle {} [_] [_] ?_ ?_ 0 (onlyRequest m) [] {} rfl)
    · simp [Registration.overHttp, Switchboard.overHttp, hm]
    · simp
  · have halike := alike_enroll v hrs
    have hbefore' : ∀ mw ∈ (v.enroll rs).before, mw.KeepsPlain := by
      rw [enroll_eq]
      exact hbefore
    rw [receive_succ]
    exact receiveWith_alike halike hbefore' (hi ▸ htoken) _ pool world
  · rintro v c rfl
    exact choose_alike_iff v c

def greet : Handler Unit := Exchange.modify (·.sendText 200 "hi")

/-- A route that is registered for envelopes answers a request that arrives over HTTP. -/
theorem envelope_handler_answers :
    ((oneRoute .websocket greet).receive 1 (onlyRequest .websocket) [] {}).map
        (fun r => (r.1.status, r.1.body)) = some (200, Utf8.ofText "hi") ∧
      ((oneRoute .call greet).receive 1 (onlyRequest .call) [] {}).map
        (fun r => (r.1.status, r.1.body)) = some (200, Utf8.ofText "hi") :=
  ⟨by decide +kernel, by decide +kernel⟩

end Service

end Switchboard
