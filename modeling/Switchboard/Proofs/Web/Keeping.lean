import Switchboard.Proofs.Route.Relabel
import Switchboard.Web.Pipeline

/-!
# What every part keeps

The chain of a service is made of its handlers, its middlewares and the refusals of routing. What holds
of all of them holds of the chain: a property of states that each of them keeps is kept by the whole,
however the chain is left.
-/

namespace Switchboard

variable {ε α β : Type}

/-! ## Parts of a service -/

theorem Handler.within_of {Q : Handler ε → Prop} {mws : List (Middleware ε)}
    (hmws : ∀ mw ∈ mws, ∀ h, Q h → Q (mw h)) {h : Handler ε} (hh : Q h) : Q (h.within mws) := by
  induction mws with
  | nil => exact hh
  | cons mw mws ih =>
    obtain ⟨hmw, hmws⟩ := List.forall_mem_cons.mp hmws
    exact hmw _ (ih hmws)

namespace Service

variable {Q : Handler ε → Prop} {v : Service ε}

def Registers (Q : Handler ε → Prop) (v : Service ε) : Prop :=
  ∃ t : Route.Tree { h : Handler ε // Q h }, v.routes = t.relabel fun _ h => h.val

theorem registers_of_empty (h : v.routes = .empty) : v.Registers Q :=
  ⟨.empty, by rw [h]; simp [Route.Tree.relabel, Route.Tree.empty, Route.Node.relabel_new]⟩

theorem Registers.add (hv : v.Registers Q) (m : Method) (path : String) {h : Handler ε}
    {mws : List (Middleware ε)} (hh : Q (h.within mws)) : (v.add m path h mws).1.Registers Q := by
  obtain ⟨t, ht⟩ := hv
  refine ⟨(t.add m path ⟨h.within mws, hh⟩).1, ?_⟩
  have hadd := Route.Tree.add_relabel (fun _ h => h.val) t m path
    (⟨h.within mws, hh⟩ : { h : Handler ε // Q h })
  rw [← ht] at hadd
  exact congrArg Prod.fst hadd

/-- What routing chooses is a handler of the service, or refuses. -/
theorem Registers.choose (hv : v.Registers Q) (hmissing : ∀ e, Q (missing e)) (c : Context) :
    Q (v.choose c).1 := by
  obtain ⟨t, ht⟩ := hv
  unfold Service.choose
  split
  · exact hmissing _
  · rename_i m _
    dsimp only
    rw [ht, Route.Tree.find_relabel, Route.Found.map]
    dsimp only
    cases (t.find m c.request.uri.path c.slots).outcome with
    | matched h => exact h.property
    | methodNotAllowed => exact hmissing _
    | notFound => exact hmissing _

theorem choose_kept (v : Service ε) (c : Context) :
    (v.choose c).2.request = c.request ∧ (v.choose c).2.response = c.response := by
  unfold choose
  split <;> exact ⟨rfl, rfl⟩

end Service

/-! ## Keeping a property -/

namespace Work

variable {P : State ε → Prop}

/-- Work that ends in a state with the property, whatever is answered on the way. -/
inductive Ends (P : State ε → Prop) : Work ε α → Prop
  | done {o : Outcome α} {s : State ε} : P s → Ends P (.done o s)
  | serve {r : Request} {w : World ε} {resume : Answer → World ε → Work ε α} :
    (∀ a w', Ends P (resume a w')) → Ends P (.serve r w resume)

theorem Ends.andThen {x : Work ε α} (hx : x.Ends P) {f : Outcome α → State ε → Work ε β}
    (hf : ∀ o s, P s → (f o s).Ends P) : (x.andThen f).Ends P := by
  induction hx with
  | done hs => exact hf _ _ hs
  | serve _ ih => exact .serve ih

theorem Ends.run {nested : Request → Pool → World ε → Option (Answer × Pool × World ε)}
    {x : Work ε α} (hx : x.Ends P) {pool pool' : Pool} {o : Outcome α} {s : State ε}
    (hrun : x.run nested pool = some (o, s, pool')) : P s := by
  induction hx generalizing pool with
  | done hs =>
    cases hrun
    exact hs
  | serve _ ih =>
    obtain ⟨⟨a, p, w⟩, -, hrun⟩ := Option.bind_eq_some_iff.mp hrun
    exact ih a w hrun

end Work

namespace Exchange

variable {P : State ε → Prop} {d : Desk ε}

/-- From states with the property the work leads to such states only. -/
def Keeps (P : State ε → Prop) (d : Desk ε) (x : Exchange ε α) : Prop := ∀ s, P s → (x d s).Ends P

theorem keeps_modify {f : State ε → State ε} (hf : ∀ s, P s → P (f s)) : Keeps P d (modify f) :=
  fun s hs => .done (hf s hs)

theorem keeps_fail (e : Error) : Keeps P d (fail e : Exchange ε α) := fun _ hs => .done hs

theorem keeps_panic (text : Option String) : Keeps P d (panic text : Exchange ε α) :=
  fun _ hs => .done hs

theorem keeps_bind {x : Exchange ε α} {f : α → Exchange ε β} (hx : Keeps P d x)
    (hf : ∀ a, Keeps P d (f a)) : Keeps P d (x >>= f) := by
  intro s hs
  refine (hx s hs).andThen fun o s' hs' => ?_
  cases o with
  | ok a => exact hf a s' hs'
  | error e => exact .done hs'
  | panic text => exact .done hs'

end Exchange

namespace Service

variable {P : State ε → Prop} {v : Service ε}

structure Keeps (P : State ε → Prop) (v : Service ε) : Prop where
  handlers : v.Registers (Exchange.Keeps P v.desk)
  middlewares : ∀ mw ∈ v.before ++ v.around, ∀ h, Exchange.Keeps P v.desk h →
    Exchange.Keeps P v.desk (mw h)
  onError : ∀ e s, P s → P (v.desk.onError e s)

/-- A property that routing keeps too is kept by the whole chain. -/
theorem Keeps.chain (hv : v.Keeps P)
    (hrouting : ∀ s, P s → P (s.withContext (v.choose s.context).2)) :
    Exchange.Keeps P v.desk v.chain := by
  refine Handler.within_of (fun mw hmw => hv.middlewares mw (List.mem_append_left _ hmw)) ?_
  intro s hs
  have haround := Handler.within_of
    (fun mw hmw => hv.middlewares mw (List.mem_append_right _ hmw))
    (hv.handlers.choose (fun e => Exchange.keeps_fail (.http e)) s.context)
  exact haround _ (hrouting s hs)

end Service

end Switchboard
