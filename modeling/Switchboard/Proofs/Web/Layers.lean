import Mathlib.Logic.Function.Basic
import Switchboard.Web.Pipeline

/-!
# Layers

A middleware that calls what it is put around exactly once comes in two parts, what it does before the
call and what it does after it. Handlers within such layers are played part by part, and the whole run
of a request is one list of parts, each of them played once.
-/

namespace Switchboard

variable {ε μ κ α β : Type}

/-! ## Running work -/

namespace Work

/-- Work that ends with a value, whatever is answered on the way. -/
inductive GoesOn : Work ε α → Prop
  | done (a : α) (s : State ε) : GoesOn (.done (.ok a) s)
  | serve {r : Request} {w : World ε} {resume : Answer → World ε → Work ε α} :
    (∀ a w', GoesOn (resume a w')) → GoesOn (.serve r w resume)

variable {nested : Request → Pool → World ε → Option (Answer × Pool × World ε)}

theorem andThen_done (x : Work ε α) : x.andThen .done = x := by
  induction x with
  | done o s => rfl
  | serve r w resume ih => exact congrArg (serve r w) (funext fun a => funext fun w => ih a w)

/-- To be told how work ends, and to go on with it, is to go on however it ends. -/
theorem bind_attempt (x : Work ε α) (f : Outcome α → State ε → Work ε β) :
    (x.andThen fun o s => .done (.ok o) s).bind f = x.andThen f := by
  induction x with
  | done o s => rfl
  | serve r w resume ih => exact congrArg (serve r w) (funext fun a => funext fun w => ih a w)

theorem run_andThen (x : Work ε α) (f : Outcome α → State ε → Work ε β) (pool : Pool) :
    (x.andThen f).run nested pool =
      (x.run nested pool).bind fun (o, s, pool) => (f o s).run nested pool := by
  induction x generalizing pool with
  | done o s => rfl
  | serve r w resume ih =>
    simp only [andThen, run, Option.bind_eq_bind, Option.bind_assoc, ih]

theorem run_andThen_iff {x : Work ε α} {f : Outcome α → State ε → Work ε β} {pool : Pool}
    {r : Outcome β × State ε × Pool} : (x.andThen f).run nested pool = some r ↔
      ∃ o s pool₁, x.run nested pool = some (o, s, pool₁) ∧ (f o s).run nested pool₁ = some r := by
  rw [run_andThen, Option.bind_eq_some_iff]
  simp only [Prod.exists]

theorem GoesOn.run_ok {x : Work ε α} (hx : x.GoesOn) {pool pool' : Pool} {o : Outcome α} {s : State ε}
    (h : x.run nested pool = some (o, s, pool')) : ∃ a, o = .ok a := by
  induction hx generalizing pool with
  | done a s =>
    cases h
    exact ⟨a, rfl⟩
  | serve _ ih =>
    obtain ⟨⟨a, pool₁, w⟩, _, h⟩ := Option.bind_eq_some_iff.mp h
    exact ih a w h

theorem GoesOn.run_bind_iff {x : Work ε α} (hx : x.GoesOn) {f : α → State ε → Work ε β} {pool : Pool}
    {r : Outcome β × State ε × Pool} : (x.bind f).run nested pool = some r ↔
      ∃ a s pool₁, x.run nested pool = some (.ok a, s, pool₁) ∧ (f a s).run nested pool₁ = some r := by
  rw [bind, run_andThen_iff]
  constructor
  · rintro ⟨o, s, pool₁, hrun, h⟩
    obtain ⟨a, rfl⟩ := hx.run_ok hrun
    exact ⟨a, s, pool₁, hrun, h⟩
  · rintro ⟨a, s, pool₁, hrun, h⟩
    exact ⟨.ok a, s, pool₁, hrun, h⟩

end Work

/-! ## Layers and parts -/

/-- A middleware that calls what it is put around exactly once: what it does before, which always goes on
to the call, and what it does after it, told how the call has ended. It keeps a memo in between. -/
structure Layer (ε μ : Type) where
  enter : Exchange ε μ
  goes_on : ∀ d s, (enter d s).GoesOn
  leave : μ → Outcome Unit → Handler ε

def Layer.around (l : Layer ε μ) : Middleware ε := fun h d s =>
  (l.enter d s).bind fun memo s => (h d s).andThen fun o s => l.leave memo o d s

theorem Middleware.exists_requestId_layer : ∃ l : Layer ε Unit, l.around = Middleware.requestId := by
  let arrive : State ε → State ε := fun s =>
    ((identify s).2.setHeader requestIdField (identify s).1).mapContext
      (·.setValue "request_id" (.text (identify s).1))
  refine ⟨⟨fun _ s => .done (.ok ()) (arrive s), fun _ s => .done _ _, fun _ o _ s => .done o s⟩, ?_⟩
  funext h d s
  exact (h d (arrive s)).andThen_done

def Middleware.traceEnd (o : Outcome Unit) : Exchange ε Unit := do
  match endReport (← Exchange.get) o with
  | some r => Exchange.report r
  | none => pure ()
  Exchange.resume o

/-- The middleware that reports each request, and how it has ended, is a layer too. -/
theorem Middleware.exists_trace_layer : ∃ l : Layer ε Unit, l.around = Middleware.trace := by
  refine ⟨⟨fun _ s => .done (.ok ()) (s.report (startReport s)), fun _ s => .done _ _,
    fun _ o => traceEnd o⟩, ?_⟩
  funext h d s
  exact ((h d (s.report (startReport s))).bind_attempt fun o => traceEnd o d).symm

/-- A part of the run of a request. Layers are told apart by their places, and routing by what it
chooses. -/
inductive Part (ε μ κ : Type) where
  | enter (place : Nat) (l : Layer ε μ)
  | route (chosen : κ)
  | handle (h : Handler ε)
  | leave (place : Nat) (l : Layer ε μ)

/-- How far a run has come: the memos of the layers entered, how the call of a handler has ended that
was the last one to end, and what the parts have left behind. -/
structure Progress (ε μ : Type) where
  memos : Nat → Option μ := fun _ => none
  outcome : Outcome Unit := .ok ()
  state : State ε
  pool : Pool

section play

variable (nested : Request → Pool → World ε → Option (Answer × Pool × World ε))
  (router : Context → κ × Context) (d : Desk ε)

/-- Plays parts one after the other. A layer is left with the memo of the place where it was entered,
and told how the part before it has ended; routing goes on only with what the router chooses. -/
inductive Plays : List (Part ε μ κ) → Progress ε μ → Progress ε μ → Prop
  | done {p} : Plays [] p p
  | enter {i l ps p q memo s pool} :
    (l.enter d p.state).run nested p.pool = some (.ok memo, s, pool) →
    Plays ps { p with memos := Function.update p.memos i (some memo), state := s, pool } q →
    Plays (.enter i l :: ps) p q
  | route {chosen ps p q c} : router p.state.context = (chosen, c) →
    Plays ps { p with state := p.state.withContext c } q → Plays (.route chosen :: ps) p q
  | handle {h ps p q o s pool} : (h d p.state).run nested p.pool = some (o, s, pool) →
    Plays ps { p with outcome := o, state := s, pool } q → Plays (.handle h :: ps) p q
  | leave {i l ps p q memo o s pool} : p.memos i = some memo →
    (l.leave memo p.outcome d p.state).run nested p.pool = some (o, s, pool) →
    Plays ps { p with outcome := o, state := s, pool } q → Plays (.leave i l :: ps) p q

end play

variable {nested : Request → Pool → World ε → Option (Answer × Pool × World ε)}
  {router : Context → κ × Context} {d : Desk ε}

theorem Plays.append {ps qs : List (Part ε μ κ)} {p r : Progress ε μ} :
    Plays nested router d (ps ++ qs) p r ↔
      ∃ q, Plays nested router d ps p q ∧ Plays nested router d qs q r := by
  constructor
  · intro h
    induction ps generalizing p with
    | nil => exact ⟨p, .done, h⟩
    | cons part ps ih =>
      cases h with
      | enter hrun h =>
        obtain ⟨q, hps, hqs⟩ := ih h
        exact ⟨q, .enter hrun hps, hqs⟩
      | route hc h =>
        obtain ⟨q, hps, hqs⟩ := ih h
        exact ⟨q, .route hc hps, hqs⟩
      | handle hrun h =>
        obtain ⟨q, hps, hqs⟩ := ih h
        exact ⟨q, .handle hrun hps, hqs⟩
      | leave hmemo hrun h =>
        obtain ⟨q, hps, hqs⟩ := ih h
        exact ⟨q, .leave hmemo hrun hps, hqs⟩
  · intro ⟨q, hps, hqs⟩
    induction hps with
    | done => exact hqs
    | enter hrun _ ih => exact .enter hrun (ih hqs)
    | route hc _ ih => exact .route hc (ih hqs)
    | handle hrun _ ih => exact .handle hrun (ih hqs)
    | leave hmemo hrun _ ih => exact .leave hmemo hrun (ih hqs)

/-! ## What a handler does, part by part -/

/-- The layers are entered one after the other, from a place on. -/
def enters (κ : Type) (place : Nat) (ls : List (Layer ε μ)) : List (Part ε μ κ) :=
  (ls.zipIdx place).map fun (l, i) => .enter i l

/-- The layers are left one after the other, the last one first. -/
def leaves (κ : Type) (place : Nat) (ls : List (Layer ε μ)) : List (Part ε μ κ) :=
  ((ls.zipIdx place).map fun (l, i) => .leave i l).reverse

/-- The handler does the work of the parts, for the choice that routing makes on the way if it does. The
memos of the places before `place` are left alone. -/
structure Does (nested : Request → Pool → World ε → Option (Answer × Pool × World ε))
    (router : Context → κ × Context) (d : Desk ε) (place : Nat) (h : Handler ε)
    (ps : κ → List (Part ε μ κ)) : Prop where
  run_iff : ∀ (p : Progress ε μ) o s pool, (h d p.state).run nested p.pool = some (o, s, pool) ↔
    ∃ chosen memos, Plays nested router d (ps chosen) p ⟨memos, o, s, pool⟩
  keeps : ∀ chosen p q, Plays nested router d (ps chosen) p q → ∀ i < place, q.memos i = p.memos i

namespace Does

variable {place : Nat} {h : Handler ε}

theorem handle (chosen : κ) (h : Handler ε) :
    Does nested router d place h fun _ : κ => [(.handle h : Part ε μ κ)] where
  run_iff p o s pool := by
    constructor
    · intro hrun
      exact ⟨chosen, p.memos, .handle hrun .done⟩
    · rintro ⟨_, _, _ | _ | _ | ⟨hrun, ⟨⟩⟩ | _⟩
      exact hrun
  keeps := by
    rintro _ p q (_ | _ | _ | ⟨_, ⟨⟩⟩ | _) i _
    rfl

theorem layer {ps : κ → List (Part ε μ κ)} (hps : Does nested router d (place + 1) h ps)
    (l : Layer ε μ) : Does nested router d place (l.around h) fun chosen =>
      .enter place l :: ps chosen ++ [.leave place l] where
  run_iff p o s pool := by
    rw [Layer.around, (l.goes_on d p.state).run_bind_iff]
    simp only [Work.run_andThen_iff]
    constructor
    · rintro ⟨memo, s₁, pool₁, henter, o₂, s₂, pool₂, hh, hleave⟩
      obtain ⟨chosen, memos, hplays⟩ := (hps.run_iff
        ⟨Function.update p.memos place (some memo), p.outcome, s₁, pool₁⟩ o₂ s₂ pool₂).mp hh
      have hmemo : memos place = some memo :=
        (hps.keeps chosen _ _ hplays place (Nat.lt_succ_self place)).trans
          (Function.update_self place _ _)
      exact ⟨chosen, memos, .enter henter (Plays.append.mpr ⟨_, hplays, .leave hmemo hleave .done⟩)⟩
    · rintro ⟨chosen, memos, hplays⟩
      cases hplays with
      | enter henter hrest =>
        obtain ⟨q, hplays, hlast⟩ := Plays.append.mp hrest
        cases hlast with
        | leave hmemo hleave hdone =>
          cases hdone
          have hkept := hps.keeps chosen _ _ hplays place (Nat.lt_succ_self place)
          obtain rfl := Option.some.inj
            (hmemo.symm.trans (hkept.trans (Function.update_self place _ _)))
          exact ⟨_, _, _, henter, _, _, _, (hps.run_iff _ _ _ _).mpr ⟨chosen, _, hplays⟩, hleave⟩
  keeps := by
    intro chosen p r hplays i hi
    cases hplays with
    | enter _ hrest =>
      obtain ⟨q, hplays, hlast⟩ := Plays.append.mp hrest
      cases hlast with
      | leave _ _ hdone =>
        cases hdone
        have hkept := hps.keeps chosen _ _ hplays i (Nat.lt_succ_of_lt hi)
        exact hkept.trans (Function.update_of_ne (Nat.ne_of_lt hi) _ _)

theorem layers {ls : List (Layer ε μ)} {ps : κ → List (Part ε μ κ)}
    (hps : Does nested router d (place + ls.length) h ps) :
    Does nested router d place (h.within (ls.map Layer.around)) fun chosen =>
      enters κ place ls ++ ps chosen ++ leaves κ place ls := by
  induction ls generalizing place with
  | nil =>
    simp only [enters, leaves, List.zipIdx_nil, List.map_nil, List.reverse_nil, List.nil_append,
      List.append_nil]
    exact hps
  | cons l ls ih =>
    rw [List.length_cons, Nat.add_comm ls.length, ← Nat.add_assoc] at hps
    have hlayer := (ih hps).layer l
    simp only [enters, leaves, List.zipIdx_cons, List.map_cons, List.reverse_cons, List.cons_append,
      List.append_assoc] at hlayer ⊢
    exact hlayer

theorem route {body : κ → Handler ε} {ps : κ → List (Part ε μ κ)}
    (hbody : ∀ chosen, Does nested router d place (body chosen) fun _ : κ => ps chosen) :
    Does nested router d place
      (fun d s => body (router s.context).1 d (s.withContext (router s.context).2)) fun chosen =>
        .route chosen :: ps chosen where
  run_iff p o s pool := by
    rw [(hbody _).run_iff { p with state := p.state.withContext (router p.state.context).2 }]
    constructor
    · rintro ⟨_, memos, hplays⟩
      exact ⟨_, memos, .route rfl hplays⟩
    · rintro ⟨chosen, memos, hplays⟩
      cases hplays with
      | route hc hplays =>
        rw [hc]
        exact ⟨chosen, memos, hplays⟩
  keeps := by
    intro chosen p q hplays i hi
    cases hplays with
    | route _ hplays => exact (hbody chosen).keeps chosen _ q hplays i hi

end Does

end Switchboard
