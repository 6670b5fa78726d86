import Mathlib.Data.Fin.Tuple.Basic
import Mathlib.Logic.Relation
import Switchboard.Proofs.Route.Relabel
import Switchboard.Proofs.Web.Layers

/-!
# Setups

An application sets a service up step by step, groups within groups. What is played for a request can be
read off the steps: a route has the layers that its group held when the route was registered, whatever
is registered later or elsewhere. It makes no difference whether a chain of handlers is composed for
the request or was composed for one before it.
-/

namespace Switchboard

open Route

/-! ## Registrations for several methods -/

namespace Route.Tree

variable {α β : Type}

def addEach (t : Tree α) (path : String) (h : α) : List Method → Tree α
  | [] => t
  | m :: ms =>
    match t.add m path h with
    | (t, none) => t.addEach path h ms
    | (t, some _) => t

theorem addEach_relabel (f : α → β) (t : Tree α) (path : String) (h : α) (ms : List Method) :
    (t.relabel fun _ => f).addEach path (f h) ms = (t.addEach path h ms).relabel fun _ => f := by
  induction ms generalizing t with
  | nil => rfl
  | cons m ms ih =>
    have hadd := add_relabel (fun _ => f) t m path h
    rw [addEach, addEach, hadd, relabelled]
    rcases t.add m path h with ⟨t', _ | _⟩
    · exact ih t'
    · rfl

theorem modify_id (t : Tree α) (i : Nat) : t.modify i id = t := by
  have hnodes : t.nodes.modify i id = t.nodes := by
    apply Array.ext_getElem?
    intro k
    rw [Array.getElem?_modify]
    split
    · exact Option.map_id_apply
    · rfl
  rw [modify, hnodes]

theorem relabel_empty (g : Method → α → β) : (empty : Tree α).relabel g = empty := by
  simp [empty, relabel, Node.relabel_new]

end Route.Tree

theorem Service.addMany_eq {ε : Type} (v : Service ε) (ms : List Method) (path : String)
    (h : Handler ε) (mws : List (Middleware ε)) : (v.addMany ms path h mws).1 =
      { v with routes := v.routes.addEach path (h.within mws) ms } := by
  induction ms generalizing v with
  | nil => rfl
  | cons m ms ih =>
    simp only [addMany, add, Tree.addEach]
    rcases v.routes.add m path (h.within mws) with ⟨t, _ | _⟩
    · exact ih { v with routes := t }
    · rfl

/-! ## Steps -/

/-- The steps of an application, when `n` groups have been opened. Routes and groups are registered
through a group, or with the service itself; a route for any method is one for all standard ones. -/
inductive Setup (ε μ : Type) : Nat → Type where
  | start (base : Service ε) : Setup ε μ 0
  | pre {n : Nat} (past : Setup ε μ n) (l : Layer ε μ) : Setup ε μ n
  | use {n : Nat} (past : Setup ε μ n) (l : Layer ε μ) : Setup ε μ n
  | add {n : Nat} (past : Setup ε μ n) (g : Option (Fin n)) (m : Method) (path : String)
    (h : Handler ε) (own : List (Layer ε μ)) : Setup ε μ n
  | addMany {n : Nat} (past : Setup ε μ n) (g : Option (Fin n)) (ms : List Method) (path : String)
    (h : Handler ε) : Setup ε μ n
  | group {n : Nat} (past : Setup ε μ n) (parent : Option (Fin n)) (path : String)
    (ls : List (Layer ε μ)) : Setup ε μ (n + 1)
  | useIn {n : Nat} (past : Setup ε μ n) (g : Fin n) (l : Layer ε μ) : Setup ε μ n

namespace Setup

variable {ε μ : Type} {n : Nat}

/-! ## What the steps make -/

def groups {n : Nat} : Setup ε μ n → Fin n → Group ε
  | .start _ => nofun
  | .pre past _ | .use past _ | .add past .. | .addMany past .. => past.groups
  | .group past none path ls => Fin.snoc past.groups (Group.new path (ls.map Layer.around))
  | .group past (some p) path ls =>
    Fin.snoc past.groups ((past.groups p).group path (ls.map Layer.around))
  | .useIn past g l => Function.update past.groups g ((past.groups g).use l.around)

def service {n : Nat} : Setup ε μ n → Service ε
  | .start base => { base with routes := .empty, before := [], around := [] }
  | .pre past l => past.service.pre l.around
  | .use past l => past.service.use l.around
  | .add past none m path h own => (past.service.add m path h (own.map Layer.around)).1
  | .add past (some g) m path h own =>
    (past.service.addIn (past.groups g) m path h (own.map Layer.around)).1
  | .addMany past none ms path h => (past.service.addMany ms path h []).1
  | .addMany past (some g) ms path h => (past.service.addManyIn (past.groups g) ms path h).1
  | .group past .. | .useIn past .. => past.service

/-! ## What is to be read off the steps -/

def base {n : Nat} : Setup ε μ n → Service ε
  | .start base => base
  | .pre past _ | .use past _ | .add past .. | .addMany past .. | .group past ..
  | .useIn past .. => past.base

def pres {n : Nat} : Setup ε μ n → List (Layer ε μ)
  | .start _ => []
  | .pre past l => past.pres ++ [l]
  | .use past _ | .add past .. | .addMany past .. | .group past .. | .useIn past .. => past.pres

def uses {n : Nat} : Setup ε μ n → List (Layer ε μ)
  | .start _ => []
  | .use past l => past.uses ++ [l]
  | .pre past _ | .add past .. | .addMany past .. | .group past .. | .useIn past .. => past.uses

/-- The layers that a group holds, outermost first: those that its parent held when it was opened, those
it was opened with, and those given to it since. -/
def held {n : Nat} : Setup ε μ n → Fin n → List (Layer ε μ)
  | .start _ => nofun
  | .pre past _ | .use past _ | .add past .. | .addMany past .. => past.held
  | .group past parent _ ls => Fin.snoc past.held (parent.elim [] past.held ++ ls)
  | .useIn past g l => Function.update past.held g (past.held g ++ [l])

def stem {n : Nat} : Setup ε μ n → Fin n → String
  | .start _ => nofun
  | .pre past _ | .use past _ | .add past .. | .addMany past .. | .useIn past .. => past.stem
  | .group past parent path _ => Fin.snoc past.stem (trimSlashes (parent.elim "" past.stem ++ path))

/-- A route at its registration: the steps before it, the group that it was registered through, its own
layers, and its handler. -/
structure Entry (ε μ : Type) where
  {opened : Nat}
  past : Setup ε μ opened
  group : Option (Fin opened)
  own : List (Layer ε μ)
  handler : Handler ε

namespace Entry

/-- The layers around the handler: those that its group held at the registration, and its own. -/
def layers (e : Entry ε μ) : List (Layer ε μ) := e.group.elim [] e.past.held ++ e.own

def work (e : Entry ε μ) : Handler ε := e.handler.within (e.layers.map Layer.around)

end Entry

/-- The routes, with their registrations in the place of their handlers. -/
def tree {n : Nat} : Setup ε μ n → Route.Tree (Entry ε μ)
  | .start _ => .empty
  | .add past g m path h own => (past.tree.add m (g.elim "" past.stem ++ path) ⟨past, g, own, h⟩).1
  | .addMany past g ms path h =>
    past.tree.addEach (g.elim "" past.stem ++ path) ⟨past, g, [], h⟩ ms
  | .pre past _ | .use past _ | .group past .. | .useIn past .. => past.tree

theorem groups_eq (s : Setup ε μ n) (g : Fin n) :
    s.groups g = ⟨s.stem g, (s.held g).map Layer.around⟩ := by
  induction s with
  | start => exact g.elim0
  | pre _ _ ih | use _ _ ih | add _ _ _ _ _ _ ih | addMany _ _ _ _ _ ih => exact ih g
  | group past parent path ls ih =>
    cases g using Fin.lastCases with
    | last =>
      cases parent with
      | none => simp [groups, stem, held, Group.new]
      | some p => simp [groups, stem, held, Group.group, Group.new, ih p]
    | cast g => cases parent <;> simpa [groups, stem, held] using ih g
  | useIn past g' l ih =>
    by_cases hg : g = g'
    · subst hg
      simp [groups, stem, held, Group.use, ih g]
    · simp [groups, stem, held, hg, ih g]

section registrations

variable (past : Setup ε μ n) (g : Option (Fin n)) (path : String) (h : Handler ε)

theorem service_add (m : Method) (own : List (Layer ε μ)) :
    (past.add g m path h own).service =
      { past.service with
        routes := (past.service.routes.add m (g.elim "" past.stem ++ path)
          (Entry.work ⟨past, g, own, h⟩)).1 } := by
  cases g with
  | none => simp [service, Service.add, Entry.work, Entry.layers]
  | some g => simp [service, Service.addIn, Service.add, groups_eq, Entry.work, Entry.layers]

theorem service_addMany (ms : List Method) :
    (past.addMany g ms path h).service =
      { past.service with
        routes := past.service.routes.addEach (g.elim "" past.stem ++ path)
          (Entry.work ⟨past, g, [], h⟩) ms } := by
  cases g with
  | none => simp [service, Service.addMany_eq, Entry.work, Entry.layers]
  | some g =>
    simp [service, Service.addManyIn, Service.addMany_eq, groups_eq, Entry.work, Entry.layers]

end registrations

theorem service_eq (s : Setup ε μ n) : s.service = { s.base with
    routes := s.tree.relabel fun _ => Entry.work
    before := s.pres.map Layer.around
    around := s.uses.map Layer.around } := by
  induction s with
  | start => simp [service, base, tree, pres, uses, Tree.relabel_empty]
  | pre past l ih => simp [service, Service.pre, ih, base, tree, pres, uses]
  | use past l ih => simp [service, Service.use, ih, base, tree, pres, uses]
  | group past parent path ls ih | useIn past g l ih => exact ih
  | add past g m path h own ih =>
    simp [service_add, ih, Tree.add_relabel (fun _ => Entry.work), Tree.relabelled, base, tree, pres,
      uses]
  | addMany past g ms path h ih =>
    simp [service_addMany, ih, Tree.addEach_relabel, base, tree, pres, uses]

/-! ## What is played for a request -/

def route (s : Setup ε μ n) (c : Context) : Lookup (Entry ε μ) × Context :=
  match Method.ofName? c.request.method with
  | none => (.methodNotAllowed, { c with routed := true })
  | some m =>
    let found := s.tree.find m c.request.uri.path c.slots
    (found.outcome, { c with
      routed := true
      template := found.template
      names := found.names
      slots := found.slots })

end Setup

/-- The layers around what is chosen: a route has some, a refusal none. -/
def chosenLayers {ε μ : Type} : Lookup (Setup.Entry ε μ) → List (Layer ε μ)
  | .matched e => e.layers
  | .methodNotAllowed | .notFound => []

def chosenHandler {ε μ : Type} : Lookup (Setup.Entry ε μ) → Handler ε
  | .matched e => e.handler
  | .methodNotAllowed => Service.missing HttpError.methodNotAllowed
  | .notFound => Service.missing HttpError.notFound

namespace Setup

variable {ε μ : Type} {n : Nat}

/-- All that is played for a request: the layers before routing are entered, then routing chooses, the
layers around every handler are entered and those of the choice, and its handler is run. The layers are
left in reverse. -/
def sequence (s : Setup ε μ n) (chosen : Lookup (Entry ε μ)) :
    List (Part ε μ (Lookup (Entry ε μ))) :=
  let inside := s.uses ++ chosenLayers chosen
  enters _ 0 s.pres ++ [.route chosen] ++ enters _ s.pres.length inside ++
    [.handle (chosenHandler chosen)] ++
    leaves _ s.pres.length inside ++ leaves _ 0 s.pres

theorem choose_service (s : Setup ε μ n) (c : Context) :
    s.service.choose c = ((chosenHandler (s.route c).1).within
      ((chosenLayers (s.route c).1).map Layer.around), (s.route c).2) := by
  unfold Service.choose route
  cases Method.ofName? c.request.method with
  | none => rfl
  | some m =>
    have hroutes : s.service.routes = s.tree.relabel fun _ => Entry.work := by rw [service_eq]
    simp only [hroutes, Tree.find_relabel, Found.map]
    cases (s.tree.find m c.request.uri.path c.slots).outcome <;> rfl

/-- Behind the layers before routing, the router chooses, and the layers of all handlers stand around
those of the choice. -/
theorem dispatch_service (s : Setup ε μ n) : s.service.dispatch = fun d state =>
    ((chosenHandler (s.route state.context).1).within
        ((s.uses ++ chosenLayers (s.route state.context).1).map Layer.around)) d
      (state.withContext (s.route state.context).2) := by
  have haround : s.service.around = s.uses.map Layer.around := by rw [service_eq]
  funext d state
  simp only [Service.dispatch, choose_service, haround, List.map_append, Handler.within,
    List.foldr_append]

theorem does_chain (s : Setup ε μ n)
    (nested : Request → Pool → World ε → Option (Answer × Pool × World ε)) (d : Desk ε) :
    Does nested s.route d 0 s.service.chain s.sequence := by
  have hbody : ∀ chosen, Does nested s.route d (0 + s.pres.length)
      ((chosenHandler chosen).within ((s.uses ++ chosenLayers chosen).map Layer.around)) fun _ =>
        enters _ (0 + s.pres.length) (s.uses ++ chosenLayers chosen) ++
          [.handle (chosenHandler chosen)] ++
          leaves _ (0 + s.pres.length) (s.uses ++ chosenLayers chosen) := fun chosen =>
    (Does.handle .notFound _).layers
  have hinside := Does.route hbody
  rw [← dispatch_service] at hinside
  have hbefore : s.service.before = s.pres.map Layer.around := by rw [service_eq]
  rw [Service.chain, hbefore]
  show Does nested s.route d 0 _ fun chosen => s.sequence chosen
  simpa only [sequence, Nat.zero_add, List.append_assoc, List.cons_append, List.nil_append] using
    hinside.layers

/-! ## Where the layers of a route come from -/

def entries {n : Nat} : Setup ε μ n → List (Entry ε μ)
  | .start _ => []
  | .add past g _ _ h own => past.entries ++ [⟨past, g, own, h⟩]
  | .addMany past g _ _ h => past.entries ++ [⟨past, g, [], h⟩]
  | .pre past _ | .use past _ | .group past .. | .useIn past .. => past.entries

/-- The layers that groups have been given, with the numbers of the groups. -/
def given {n : Nat} : Setup ε μ n → List (Nat × Layer ε μ)
  | .start _ => []
  | .pre past _ | .use past _ | .add past .. | .addMany past .. => past.given
  | @group _ _ n past _ _ ls => past.given ++ ls.map (n, ·)
  | .useIn past g l => past.given ++ [(g.val, l)]

/-- Which groups have been opened within others, the inner one first. -/
def nestings {n : Nat} : Setup ε μ n → List (Nat × Nat)
  | .start _ => []
  | .pre past _ | .use past _ | .add past .. | .addMany past .. | .useIn past .. => past.nestings
  | @group _ _ n past parent _ _ => past.nestings ++ (parent.map fun p => (n, p.val)).toList

/-- Whether `a` is the group `b`, or one that `b` has been opened within. -/
def Encloses (s : Setup ε μ n) : Nat → Nat → Prop :=
  Relation.ReflTransGen fun a b => (b, a) ∈ s.nestings

theorem held_given (s : Setup ε μ n) {g : Fin n} {l : Layer ε μ} (h : l ∈ s.held g) :
    ∃ g', s.Encloses g' g ∧ (g', l) ∈ s.given := by
  induction s with
  | start => exact g.elim0
  | pre _ _ ih | use _ _ ih | add _ _ _ _ _ _ ih | addMany _ _ _ _ _ ih => exact ih h
  | group past parent path ls ih =>
    have hmore : ∀ {a b}, past.Encloses a b → (past.group parent path ls).Encloses a b := fun h =>
      Relation.ReflTransGen.mono (fun _ _ => List.mem_append_left _) _ _ h
    cases g using Fin.lastCases with
    | last =>
      rw [held, Fin.snoc_last, List.mem_append] at h
      rcases h with h | h
      · cases parent with
        | none => cases h
        | some p =>
          obtain ⟨g', habove, hgiven⟩ := ih h
          refine ⟨g', (hmore habove).tail ?_, List.mem_append_left _ hgiven⟩
          exact List.mem_append_right _ (List.mem_singleton.mpr rfl)
      · exact ⟨_, .refl, List.mem_append_right _ (List.mem_map_of_mem h)⟩
    | cast g =>
      rw [held, Fin.snoc_castSucc] at h
      obtain ⟨g', habove, hgiven⟩ := ih h
      exact ⟨g', hmore habove, List.mem_append_left _ hgiven⟩
  | useIn past g' l' ih =>
    have hmore : l ∈ past.held g → ∃ g'', (past.useIn g' l').Encloses g'' g ∧
        (g'', l) ∈ (past.useIn g' l').given := fun h => by
      obtain ⟨g'', habove, hgiven⟩ := ih h
      exact ⟨g'', habove, List.mem_append_left _ hgiven⟩
    by_cases hg : g = g'
    · subst hg
      rw [held, Function.update_self, List.mem_append, List.mem_singleton] at h
      rcases h with h | rfl
      · exact hmore h
      · exact ⟨g, .refl, List.mem_append_right _ (List.mem_singleton.mpr rfl)⟩
    · rw [held, Function.update_of_ne hg] at h
      exact hmore h

theorem exists_wider {es es' : List (Entry ε μ)} (hes : es ⊆ es') {t₀ : Route.Tree (Entry ε μ)}
    (h : ∃ t : Route.Tree { e // e ∈ es }, t.relabel (fun _ => Subtype.val) = t₀) :
    ∃ t : Route.Tree { e // e ∈ es' }, t.relabel (fun _ => Subtype.val) = t₀ := by
  obtain ⟨t, rfl⟩ := h
  refine ⟨t.relabel fun _ e => ⟨e.1, hes e.2⟩, ?_⟩
  rw [Tree.relabel_relabel]

/-- What is registered has been registered in the tree of the entries too. -/
theorem exists_entryTree (s : Setup ε μ n) : ∃ t : Route.Tree { e : Entry ε μ // e ∈ s.entries },
    t.relabel (fun _ => Subtype.val) = s.tree := by
  induction s with
  | start => exact ⟨.empty, Tree.relabel_empty _⟩
  | pre _ _ ih | use _ _ ih | group _ _ _ _ ih | useIn _ _ _ ih => exact ih
  | add past g m path h own ih =>
    have hnew : ⟨past, g, own, h⟩ ∈ (past.add g m path h own).entries :=
      List.mem_append_right _ (List.mem_singleton.mpr rfl)
    obtain ⟨t, ht⟩ := exists_wider (List.subset_append_left _ [⟨past, g, own, h⟩]) ih
    have hadd := congrArg Prod.fst (Tree.add_relabel (fun _ => Subtype.val) t m
      (g.elim "" past.stem ++ path) ⟨_, hnew⟩)
    rw [ht] at hadd
    exact ⟨_, hadd.symm⟩
  | addMany past g ms path h ih =>
    have hnew : ⟨past, g, [], h⟩ ∈ (past.addMany g ms path h).entries :=
      List.mem_append_right _ (List.mem_singleton.mpr rfl)
    obtain ⟨t, ht⟩ := exists_wider (List.subset_append_left _ [⟨past, g, [], h⟩]) ih
    have hadd := Tree.addEach_relabel Subtype.val t (g.elim "" past.stem ++ path) ⟨_, hnew⟩ ms
    rw [ht] at hadd
    exact ⟨_, hadd.symm⟩

theorem mem_entries (s : Setup ε μ n) {c : Context} {e : Entry ε μ}
    (h : (s.route c).1 = .matched e) : e ∈ s.entries := by
  obtain ⟨t, ht⟩ := s.exists_entryTree
  unfold route at h
  cases hm : Method.ofName? c.request.method with
  | none =>
    rw [hm] at h
    cases h
  | some m =>
    rw [hm] at h
    simp only [← ht, Tree.find_relabel, Found.map] at h
    cases hx : (t.find m c.request.uri.path c.slots).outcome with
    | matched x =>
      rw [hx] at h
      cases h
      exact x.2
    | methodNotAllowed | notFound =>
      rw [hx] at h
      cases h

end Setup

end Switchboard
