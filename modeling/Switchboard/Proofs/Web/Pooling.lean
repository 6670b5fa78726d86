import Mathlib.Data.List.Basic
import Switchboard.Web.Pipeline

/-!
# The pool of contexts

A context goes back to the pool blank, whatever a handler has done to it, and a blank context that is
prepared for a request is as good as a new one. So nothing of a request shows in the answers to those
after it: the pool might as well be empty whenever a context is taken out of it, for the requests that
handlers have served on the way too.
-/

namespace Switchboard

/-! ## Blank contexts -/

/-- A context that keeps nothing of any request; only the width of its buffer is left open. -/
structure Context.Blank (c : Context) : Prop where
  request : c.request = .empty
  response : c.response = {}
  template : c.template = ""
  names : c.names = []
  slots : ∀ value ∈ c.slots, value = ""
  query : c.query = none
  form : c.form = none
  routed : c.routed = false
  store : c.store = []
  site : c.site = none

def Pool.Blank (pool : Pool) : Prop := ∀ c ∈ pool, c.Blank

namespace Service

variable {ε : Type}

theorem clean_blank (c : Context) : (clean c).Blank := by
  refine ⟨rfl, rfl, rfl, rfl, ?_, rfl, rfl, rfl, rfl, rfl⟩
  simp [clean]

theorem resize_blank {slots : List String} (h : ∀ value ∈ slots, value = "") (width : Nat) :
    resize slots width = List.replicate width "" := by
  refine List.eq_replicate_iff.mpr ⟨?_, fun value hvalue => ?_⟩
  · simp only [resize, List.length_append, List.length_take, List.length_replicate]
    omega
  · rcases List.mem_append.mp hvalue with hkept | hadded
    · exact h value (List.mem_of_mem_take hkept)
    · exact List.eq_of_mem_replicate hadded

theorem prepare_blank (v : Service ε) {c : Context} (h : c.Blank) (r : Request) :
    v.prepare c r =
      { request := r, slots := List.replicate v.routes.maxParam "", site := some v.site } := by
  obtain ⟨request, response, template, names, slots, query, form, routed, store, site⟩ := c
  obtain ⟨_, _, rfl, rfl, hslots, rfl, rfl, rfl, rfl, _⟩ := h
  simp only [prepare, resize_blank hslots]

theorem acquire_blank (v : Service ε) {pool : Pool} (h : Pool.Blank pool) :
    (v.acquire pool).1.Blank := by
  cases pool with
  | nil =>
    refine ⟨rfl, rfl, rfl, rfl, ?_, rfl, rfl, rfl, rfl, rfl⟩
    simp [acquire]
  | cons c pool => exact h c List.mem_cons_self

theorem prepare_acquire_blank (v : Service ε) {pool pool' : Pool} (h : Pool.Blank pool)
    (h' : Pool.Blank pool') (r : Request) :
    v.prepare (v.acquire pool).1 r = v.prepare (v.acquire pool').1 r := by
  rw [prepare_blank v (acquire_blank v h), prepare_blank v (acquire_blank v h')]

theorem acquire_tail_blank (v : Service ε) {pool : Pool} (h : Pool.Blank pool) :
    Pool.Blank (v.acquire pool).2 := by
  cases pool with
  | nil => exact h
  | cons c pool => exact fun c' hc' => h c' (List.mem_cons_of_mem _ hc')

theorem nil_blank : Pool.Blank [] := fun _ hc => absurd hc List.not_mem_nil

theorem cons_blank {c : Context} {pool : Pool} (hc : c.Blank) (h : Pool.Blank pool) :
    Pool.Blank (c :: pool) :=
  List.forall_mem_cons.mpr ⟨hc, h⟩

/-! ## Requests one after the other -/

/-- Serving with a pool that goes through `gate` whenever a request arrives, also one that a handler
has served. Without a pool behind the gate there is no answer. -/
def serveThrough (v : Service ε) (gate : Pool → Option Pool) :
    Nat → Request → Pool → World ε → Option (Answer × Pool × World ε)
  | 0 => fun _ _ _ => none
  | depth + 1 => fun r pool world =>
    (gate pool).bind fun pool => v.serveWith (v.serveThrough gate depth) r pool world

inductive Demand where
  | serve (r : Request)
  | reject (e : Error) (r : Request)

def meet (v : Service ε) (depth : Nat) :
    Demand → Pool → World ε → Option (Answer × Pool × World ε)
  | .serve r, pool, world => v.serve depth r pool world
  | .reject e r, pool, world => some (v.reject e r pool world)

def meetThrough (v : Service ε) (gate : Pool → Option Pool) (depth : Nat) :
    Demand → Pool → World ε → Option (Answer × Pool × World ε)
  | .serve r, pool, world => v.serveThrough gate depth r pool world
  | .reject e r, pool, world => (gate pool).map fun pool => v.reject e r pool world

def meetAll (one : Demand → Pool → World ε → Option (Answer × Pool × World ε)) :
    List Demand → Pool → World ε → Option (List Answer × Pool × World ε)
  | [], pool, world => some ([], pool, world)
  | d :: ds, pool, world => do
    let (a, pool, world) ← one d pool world
    let (as, rest) ← meetAll one ds pool world
    some (a :: as, rest)

def emptied (_ : Pool) : Option Pool := some []

open Classical in
/-- A gate that only lets blank contexts pass. -/
noncomputable def inspected (pool : Pool) : Option Pool :=
  if Pool.Blank pool then some pool else none

/-! ## Pools that cannot be told apart -/

theorem rel_bind {α β γ δ : Type*} {R : α → β → Prop} {S : γ → δ → Prop} {x : Option α}
    {y : Option β} {f : α → Option γ} {g : β → Option δ} (h : Option.Rel R x y)
    (hfg : ∀ a b, R a b → Option.Rel S (f a) (g b)) : Option.Rel S (x.bind f) (y.bind g) := by
  cases h with
  | none => exact .none
  | some h => exact hfg _ _ h

/-- A relation between blank pools that a service keeps when it takes a context out of each, and when
it puts the same one back. -/
structure Swap (v : Service ε) (R : Pool → Pool → Prop) : Prop where
  blank : ∀ {p q}, R p q → Pool.Blank p ∧ Pool.Blank q
  taken : ∀ {p q}, R p q → R (v.acquire p).2 (v.acquire q).2
  back : ∀ {p q} {c : Context}, R p q → c.Blank → R (c :: p) (c :: q)

/-- Both functions give the same answers and worlds on related pools, and leave related pools. -/
def Agree {ρ α : Type*} (R : Pool → Pool → Prop)
    (f g : ρ → Pool → World ε → Option (α × Pool × World ε)) : Prop :=
  ∀ x p q world, R p q →
    Option.Rel (fun a b => a.1 = b.1 ∧ R a.2.1 b.2.1 ∧ a.2.2 = b.2.2) (f x p world) (g x q world)

def AnyBlank (p q : Pool) : Prop := Pool.Blank p ∧ Pool.Blank q

def SameBlank (p q : Pool) : Prop := Pool.Blank p ∧ p = q

theorem swap_any (v : Service ε) : v.Swap AnyBlank where
  blank h := h
  taken h := ⟨acquire_tail_blank v h.1, acquire_tail_blank v h.2⟩
  back h hc := ⟨cons_blank hc h.1, cons_blank hc h.2⟩

theorem swap_same (v : Service ε) : v.Swap SameBlank where
  blank h := ⟨h.1, h.2 ▸ h.1⟩
  taken h := ⟨acquire_tail_blank v h.1, by rw [h.2]⟩
  back h hc := ⟨cons_blank hc h.1, by rw [h.2]⟩

section agree

variable {v : Service ε} {R : Pool → Pool → Prop}

theorem Agree.run {f g : Request → Pool → World ε → Option (Answer × Pool × World ε)}
    (hfg : Agree R f g) {α : Type} (work : Work ε α) {p q : Pool} (h : R p q) :
    Option.Rel (fun a b => a.1 = b.1 ∧ a.2.1 = b.2.1 ∧ R a.2.2 b.2.2)
      (work.run f p) (work.run g q) := by
  induction work generalizing p q with
  | done o s => exact .some ⟨rfl, rfl, h⟩
  | serve r w resume ih =>
    unfold Work.run
    refine rel_bind (hfg r p q w h) ?_
    rintro ⟨a, p', w'⟩ ⟨_, q', _⟩ ⟨rfl, h', rfl⟩
    exact ih a w' h'

variable (hR : v.Swap R)
include hR

theorem Agree.serveWith {f g : Request → Pool → World ε → Option (Answer × Pool × World ε)}
    (hfg : Agree R f g) : Agree R (v.serveWith f) (v.serveWith g) := by
  intro r p q world h
  simp only [Service.serveWith, prepare_acquire_blank v (hR.blank h).1 (hR.blank h).2]
  refine rel_bind (hfg.run _ (hR.taken h)) ?_
  rintro ⟨o, s, p'⟩ ⟨_, _, q'⟩ ⟨rfl, rfl, h'⟩
  exact .some ⟨rfl, hR.back h' (clean_blank _), rfl⟩

theorem agree_reject (e : Error) (r : Request) (world : World ε) {p q : Pool} (h : R p q) :
    (v.reject e r p world).1 = (v.reject e r q world).1 ∧
      R (v.reject e r p world).2.1 (v.reject e r q world).2.1 ∧
      (v.reject e r p world).2.2 = (v.reject e r q world).2.2 := by
  simp only [reject, prepare_acquire_blank v (hR.blank h).1 (hR.blank h).2, true_and, and_true]
  exact hR.back (hR.taken h) (clean_blank _)

variable {gate : Pool → Option Pool} (hgate : ∀ {p q}, R p q → ∃ q', gate q = some q' ∧ R p q')
include hgate

theorem agree_serve (depth : Nat) : Agree R (v.serve depth) (v.serveThrough gate depth) := by
  induction depth with
  | zero => exact fun _ _ _ _ _ => .none
  | succ depth ih =>
    intro r p q world h
    obtain ⟨q', hq', h'⟩ := hgate h
    unfold serve serveThrough
    rw [hq']
    exact ih.serveWith hR r p q' world h'

theorem agree_meet (depth : Nat) : Agree R (v.meet depth) (v.meetThrough gate depth) := by
  intro d p q world h
  cases d with
  | serve r => exact agree_serve hR hgate depth r p q world h
  | reject e r =>
    obtain ⟨q', hq', h'⟩ := hgate h
    simp only [meet, meetThrough, hq']
    exact .some (agree_reject hR e r world h')

end agree

theorem Agree.meetAll {R : Pool → Pool → Prop}
    {f g : Demand → Pool → World ε → Option (Answer × Pool × World ε)} (hfg : Agree R f g) :
    Agree R (meetAll f) (meetAll g) := by
  intro ds
  induction ds with
  | nil => exact fun p q world h => .some ⟨rfl, h, rfl⟩
  | cons d ds ih =>
    intro p q world h
    unfold Service.meetAll
    refine rel_bind (hfg d p q world h) ?_
    rintro ⟨a, p', w'⟩ ⟨_, q', _⟩ ⟨rfl, h', rfl⟩
    refine rel_bind (ih p' q' w' h') ?_
    rintro ⟨as, p'', w''⟩ ⟨_, q'', _⟩ ⟨rfl, h'', rfl⟩
    exact .some ⟨rfl, h'', rfl⟩

theorem emptied_gate {p q : Pool} (h : AnyBlank p q) :
    ∃ q', emptied q = some q' ∧ AnyBlank p q' :=
  ⟨[], rfl, h.1, nil_blank⟩

theorem inspected_gate {p q : Pool} (h : SameBlank p q) :
    ∃ q', inspected q = some q' ∧ SameBlank p q' :=
  ⟨q, if_pos (h.2 ▸ h.1), h⟩

theorem serveThrough_some (v : Service ε) (depth : Nat) :
    v.serveThrough some depth = v.serve depth := by
  induction depth with
  | zero => rfl
  | succ depth ih =>
    unfold serveThrough serve
    rw [ih]
    rfl

theorem meetThrough_some (v : Service ε) (depth : Nat) :
    v.meetThrough some depth = v.meet depth := by
  funext d pool world
  cases d with
  | serve r => exact congrFun (congrFun (congrFun (serveThrough_some v depth) r) pool) world
  | reject e r => rfl

theorem agree_anew (v : Service ε) (depth : Nat) :
    Agree AnyBlank (v.meet depth) fun d _ => v.meet depth d [] := by
  intro d p q world h
  have hopen {p q : Pool} (h : AnyBlank p q) : ∃ q', some q = some q' ∧ AnyBlank p q' := ⟨q, rfl, h⟩
  have hsame := agree_meet (swap_any v) hopen depth
  rw [meetThrough_some] at hsame
  exact hsame d p [] world ⟨h.1, nil_blank⟩

section rel

variable {α : Type} {R : Pool → Pool → Prop} {x y : Option (α × Pool × World ε)}

theorem answers_of_rel
    (h : Option.Rel (fun a b => a.1 = b.1 ∧ R a.2.1 b.2.1 ∧ a.2.2 = b.2.2) x y) :
    x.map (fun r => (r.1, r.2.2)) = y.map fun r => (r.1, r.2.2) := by
  cases h with
  | none => rfl
  | some h =>
    obtain ⟨ha, _, hw⟩ := h
    simp only [Option.map_some, ha, hw]

theorem eq_of_rel
    (h : Option.Rel
      (fun a b => a.1 = b.1 ∧ SameBlank a.2.1 b.2.1 ∧ a.2.2 = b.2.2) x y) :
    x = y ∧ ∀ r ∈ x, Pool.Blank r.2.1 := by
  cases h with
  | none => exact ⟨rfl, fun r hr => absurd hr (Option.not_mem_none r)⟩
  | some h =>
    obtain ⟨ha, ⟨hblank, hpool⟩, hw⟩ := h
    refine ⟨congrArg some (Prod.ext ha (Prod.ext hpool hw)), fun r hr => ?_⟩
    rw [Option.mem_some] at hr
    exact hr ▸ hblank

end rel

/-- Whatever a service was asked before, each answer is the one that it gives when its pool is empty;
it makes no difference either when the pool is emptied whenever a context is to be taken out of it, for
requests of handlers too. And each time that a context is taken out, and in the end, all that lies in
the pool is blank. -/
theorem pool_leaves_no_trace (v : Service ε) (depth : Nat) (ds : List Demand) (world : World ε) :
    (meetAll (v.meet depth) ds [] world).map (fun r => (r.1, r.2.2)) =
        (meetAll (fun d _ => v.meet depth d []) ds [] world).map (fun r => (r.1, r.2.2)) ∧
      (meetAll (v.meet depth) ds [] world).map (fun r => (r.1, r.2.2)) =
        (meetAll (v.meetThrough emptied depth) ds [] world).map (fun r => (r.1, r.2.2)) ∧
      meetAll (v.meet depth) ds [] world = meetAll (v.meetThrough inspected depth) ds [] world ∧
      ∀ r ∈ meetAll (v.meet depth) ds [] world, Pool.Blank r.2.1 := by
  have hanew := (agree_anew v depth).meetAll ds [] [] world ⟨nil_blank, nil_blank⟩
  have hemptied := (agree_meet (swap_any v) emptied_gate depth).meetAll ds [] [] world
    ⟨nil_blank, nil_blank⟩
  have hinspected := (agree_meet (swap_same v) inspected_gate depth).meetAll ds [] [] world
    ⟨nil_blank, rfl⟩
  obtain ⟨hsame, hblank⟩ := eq_of_rel hinspected
  exact ⟨answers_of_rel hanew, answers_of_rel hemptied, hsame, hblank⟩

end Service

end Switchboard
