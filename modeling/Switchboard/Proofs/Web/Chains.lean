import Switchboard.Proofs.Web.Setups

/-!
# Chains that are composed once

A chain of handlers is composed when it is first needed and kept for the requests after. Whichever
chains have been kept by then, a request is served as by chains composed for it alone, so the parts that
are played for it are those that the steps of the application tell.
-/

namespace Switchboard

open Route

variable {ε μ : Type}

/-- A registered handler, and the chain around it once it has been composed. -/
structure Cell (ε : Type) where
  handler : Handler ε
  chained : Option (Handler ε) := none

namespace Cell

def chain (x : Cell ε) (mws : List (Middleware ε)) : Handler ε :=
  x.chained.getD (x.handler.within mws)

def fill (x : Cell ε) (mws : List (Middleware ε)) : Cell ε :=
  { x with chained := some (x.chain mws) }

end Cell

/-- What a service keeps from one request to the next, for each route and for each way to have none. -/
structure Cells (ε : Type) where
  routes : Route.Tree (Cell ε)
  notFound : Cell ε
  methodNotAllowed : Cell ε
  before : Option (Middleware ε) := none

namespace Cells

def cold (v : Service ε) : Cells ε where
  routes := v.routes.relabel fun _ h => ⟨h, none⟩
  notFound := ⟨Service.missing HttpError.notFound, none⟩
  methodNotAllowed := ⟨Service.missing HttpError.methodNotAllowed, none⟩

def entrance (c : Cells ε) (v : Service ε) : Middleware ε := c.before.getD (Handler.within · v.before)

def fillRoute (mws : List (Middleware ε)) (m : Method) (node : Node (Cell ε)) : Node (Cell ε) :=
  { node with
    handlers := fun k => if k = m then (node.handlers k).map (·.fill mws) else node.handlers k }

inductive Fills (v : Service ε) : Cells ε → Cells ε → Prop
  | before (c : Cells ε) : Fills v c { c with before := some (c.entrance v) }
  | route (c : Cells ε) (i : Nat) (m : Method) :
    Fills v c { c with routes := c.routes.modify i (fillRoute v.around m) }
  | notFound (c : Cells ε) : Fills v c { c with notFound := c.notFound.fill v.around }
  | methodNotAllowed (c : Cells ε) :
    Fills v c { c with methodNotAllowed := c.methodNotAllowed.fill v.around }

def cell (c : Cells ε) : Lookup (Cell ε) → Cell ε
  | .matched x => x
  | .methodNotAllowed => c.methodNotAllowed
  | .notFound => c.notFound

/-- The cell that routing chooses, and the context that knows about it. -/
def choose (c : Cells ε) (context : Context) : Cell ε × Context :=
  match Method.ofName? context.request.method with
  | none => (c.methodNotAllowed, { context with routed := true })
  | some m =>
    let found := c.routes.find m context.request.uri.path context.slots
    (c.cell found.outcome, { context with
      routed := true
      template := found.template
      names := found.names
      slots := found.slots })

def dispatch (c : Cells ε) (v : Service ε) : Handler ε := fun d s =>
  let (x, context) := c.choose s.context
  x.chain v.around d (s.withContext context)

structure Sound (v : Service ε) (c : Cells ε) : Prop where
  before : c.entrance v = (Handler.within · v.before)
  routes : (c.routes.relabel fun _ x => x.chain v.around) =
    v.routes.relabel fun _ h => h.within v.around
  notFound : c.notFound.chain v.around = (Service.missing HttpError.notFound).within v.around
  methodNotAllowed : c.methodNotAllowed.chain v.around =
    (Service.missing HttpError.methodNotAllowed).within v.around

theorem cold_sound (v : Service ε) : Sound v (cold v) where
  before := rfl
  routes := Tree.relabel_relabel _ v.routes _
  notFound := rfl
  methodNotAllowed := rfl

theorem relabel_fillRoute (mws : List (Middleware ε)) (m : Method) (node : Node (Cell ε)) :
    (fillRoute mws m node).relabel (fun _ x => x.chain mws) =
      node.relabel fun _ x => x.chain mws := by
  have hhandlers : ∀ k, ((fillRoute mws m node).handlers k).map (·.chain mws) =
      (node.handlers k).map (·.chain mws) := fun k => by
    unfold fillRoute
    dsimp only
    split
    · rw [Option.map_map]
      rfl
    · rfl
  simp only [Node.relabel, hhandlers]
  rfl

theorem Fills.sound {v : Service ε} {c c' : Cells ε} (h : Fills v c c') (hc : Sound v c) :
    Sound v c' := by
  cases h with
  | before => exact { hc with before := hc.before }
  | notFound => exact { hc with notFound := hc.notFound }
  | methodNotAllowed => exact { hc with methodNotAllowed := hc.methodNotAllowed }
  | route i m =>
    have hsame : (c.routes.modify i (fillRoute v.around m)).relabel (fun _ x => x.chain v.around) =
        (c.routes.relabel fun _ x => x.chain v.around).modify i id :=
      Tree.relabel_modify _ _ (relabel_fillRoute v.around m) i
    rw [Tree.modify_id] at hsame
    exact { hc with routes := hsame.trans hc.routes }

theorem Sound.chain_cell {v : Service ε} {c : Cells ε} (hc : Sound v c) {x : Lookup (Cell ε)}
    {y : Lookup (Handler ε)} (h : x.map (·.chain v.around) = y.map (·.within v.around)) :
    (c.cell x).chain v.around = (match y with
      | .matched h => h
      | .methodNotAllowed => Service.missing HttpError.methodNotAllowed
      | .notFound => Service.missing HttpError.notFound).within v.around := by
  cases x with
  | matched x =>
    cases y with
    | matched h' => exact Lookup.matched.inj h
    | methodNotAllowed | notFound => cases h
  | methodNotAllowed =>
    cases y with
    | methodNotAllowed => exact hc.methodNotAllowed
    | matched | notFound => cases h
  | notFound =>
    cases y with
    | notFound => exact hc.notFound
    | matched | methodNotAllowed => cases h

theorem Sound.dispatch_eq {v : Service ε} {c : Cells ε} (hc : Sound v c) : c.dispatch v = v.dispatch := by
  funext d s
  unfold dispatch Service.dispatch choose Service.choose
  cases Method.ofName? s.context.request.method with
  | none => exact congrFun (congrFun hc.methodNotAllowed d) _
  | some m =>
    have hfind := congrArg (Tree.find · m s.context.request.uri.path s.context.slots) hc.routes
    simp only [Tree.find_relabel, Found.map, Found.mk.injEq] at hfind
    obtain ⟨houtcome, htemplate, hnames, hslots⟩ := hfind
    dsimp only
    rewrite [hc.chain_cell houtcome, htemplate, hnames, hslots]
    rfl

end Cells

/-- Chains that requests have composed and kept, in whatever order they came. -/
structure Warm (v : Service ε) where
  cells : Cells ε
  reached : Relation.ReflTransGen (Cells.Fills v) (Cells.cold v) cells

theorem Warm.sound {v : Service ε} (w : Warm v) : Cells.Sound v w.cells := by
  obtain ⟨cells, reached⟩ := w
  induction reached with
  | refl => exact Cells.cold_sound v
  | tail _ hfills ih => exact hfills.sound ih

namespace Service

/-- What a request starts from: a context out of the pool, prepared for it. -/
def arrival (v : Service ε) (r : Request) (pool : Pool) (world : World ε) : Progress ε μ where
  state := ⟨v.prepare (v.acquire pool).1 r, world⟩
  pool := (v.acquire pool).2

def departure (v : Service ε) (p : Progress ε μ) : Answer × Pool × World ε :=
  let s := v.settle p.outcome p.state
  (s.response.toAnswer, clean s.context :: p.pool, s.world)

/-- Serves a request with the chains that have been kept when it arrives, and those that have been kept
when it is routed. -/
def serveFrom (v : Service ε) (arriving routing : Warm v)
    (nested : Request → Pool → World ε → Option (Answer × Pool × World ε)) (r : Request)
    (pool : Pool) (world : World ε) : Option (Answer × Pool × World ε) := do
  let (c, pool) := v.acquire pool
  let chain := arriving.cells.entrance v (routing.cells.dispatch v)
  let (outcome, s, pool) ← (chain v.desk ⟨v.prepare c r, world⟩).run nested pool
  let s := v.settle outcome s
  some (s.response.toAnswer, clean s.context :: pool, s.world)

theorem serveFrom_eq (v : Service ε) (arriving routing : Warm v) :
    v.serveFrom arriving routing = v.serveWith := by
  unfold serveFrom serveWith
  rw [arriving.sound.before, routing.sound.dispatch_eq]
  rfl

theorem serveWith_iff (v : Service ε)
    (nested : Request → Pool → World ε → Option (Answer × Pool × World ε)) (r : Request)
    (pool : Pool) (world : World ε) (result : Answer × Pool × World ε) :
    v.serveWith nested r pool world = some result ↔
      ∃ o s pool', (v.chain v.desk (v.arrival (μ := μ) r pool world).state).run nested
          (v.arrival (μ := μ) r pool world).pool = some (o, s, pool') ∧
        result = v.departure (μ := μ) { outcome := o, state := s, pool := pool' } := by
  unfold serveWith arrival
  simp only [Option.bind_eq_bind, Option.bind_eq_some_iff, Prod.exists, Option.some.injEq]
  constructor
  · rintro ⟨o, s, pool', hrun, rfl⟩
    exact ⟨o, s, pool', hrun, rfl⟩
  · rintro ⟨o, s, pool', hrun, rfl⟩
    exact ⟨o, s, pool', hrun, rfl⟩

end Service

/-- A request is served by playing the parts that the steps of the application tell, each once and in
their order, for what routing chooses on the way; which chains earlier requests have left composed does
not show. A route that is chosen has been registered, and the layers around it, other than its own, had
by then been given to its group or to one that encloses its group. -/
theorem served_in_sequence {n : Nat} (s : Setup ε μ n) (arriving routing : Warm s.service)
    (nested : Request → Pool → World ε → Option (Answer × Pool × World ε)) (r : Request)
    (pool : Pool) (world : World ε) :
    s.service.serveFrom arriving routing nested r pool world =
      s.service.serveWith nested r pool world ∧
    (∀ result, s.service.serveFrom arriving routing nested r pool world = some result ↔
      ∃ chosen q, Plays nested s.route s.service.desk (s.sequence chosen)
        (s.service.arrival r pool world) q ∧ result = s.service.departure q) ∧
    ∀ c e, (s.route c).1 = .matched e → e ∈ s.entries ∧ ∀ l ∈ e.layers, l ∈ e.own ∨
      ∃ g g', e.group = some g ∧ e.past.Encloses g' g ∧ (g', l) ∈ e.past.given := by
  refine ⟨by rw [Service.serveFrom_eq], fun result => ?_, fun c e h =>
    ⟨s.mem_entries h, fun l hl => ?_⟩⟩
  · have hdoes := (s.does_chain nested s.service.desk).run_iff (s.service.arrival r pool world)
    rw [Service.serveFrom_eq, Service.serveWith_iff]
    constructor
    · rintro ⟨o, state, pool', hrun, hresult⟩
      obtain ⟨chosen, memos, hplays⟩ := (hdoes o state pool').mp hrun
      exact ⟨chosen, _, hplays, hresult⟩
    · rintro ⟨chosen, q, hplays, hresult⟩
      exact ⟨_, _, _, (hdoes _ _ _).mpr ⟨chosen, q.memos, hplays⟩, hresult⟩
  · rcases List.mem_append.mp hl with hheld | hown
    · cases hg : e.group with
      | none =>
        rw [hg] at hheld
        cases hheld
      | some g =>
        rw [hg] at hheld
        obtain ⟨g', habove, hgiven⟩ := e.past.held_given hheld
        exact Or.inr ⟨g, g', rfl, habove, hgiven⟩
    · exact Or.inl hown

end Switchboard
