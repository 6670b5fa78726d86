import Mathlib.Data.List.Induction
import Switchboard.Proofs.Web.Reading
import Switchboard.Web.Pipeline

/-!
# Remembered queries and forms

A handler may put another request into its context. What has been read of the one before stays: query and
form are those of the request that was there when they were first read, so they follow the request as
long as no change touches what has been read.
-/

namespace Switchboard

namespace Context

/-! ## Actions -/

inductive Action : Type 1 where
  | read {α : Type} (r : Reading α)
  /-- The request is changed, or another one takes its place. -/
  | edit (f : Request → Request)
  | respond (f : Response → Response)
  | setTemplate (template : String)
  | setNames (names : List String)
  | setValues (values : List String)
  | store (key : String) (value : Stored)
  | route {ε : Type} (v : Service ε)

namespace Action

def step : Action → Context → Context
  | read r, c => (r.run c).2
  | edit f, c => { c with request := f c.request }
  | respond f, c => { c with response := f c.response }
  | setTemplate template, c => { c with template }
  | setNames names, c => c.setParamNames names
  | setValues values, c => c.setParamValues values
  | store key value, c => c.setValue key value
  | route v, c => (v.choose c).2

def runAll (as : List Action) (c : Context) : Context := as.foldl (fun c a => a.step c) c

/-- The request that something is read from: the one that is there when it is first remembered, else the
one that is there in the end. -/
def origin (remembers : Context → Bool) : List Action → Context → Request
  | [], c => c.request
  | a :: as, c => if remembers (a.step c) then c.request else origin remembers as (a.step c)

theorem runAll_append (as bs : List Action) (c : Context) :
    runAll (as ++ bs) c = runAll bs (runAll as c) := List.foldl_append

/-- Routing changes neither the request nor what is remembered. -/
theorem choose_keeps {ε : Type} (v : Service ε) (c : Context) :
    (v.choose c).2.request = c.request ∧ (v.choose c).2.query = c.query ∧
      (v.choose c).2.form = c.form := by
  unfold Service.choose
  split <;> exact ⟨rfl, rfl, rfl⟩

/-- All actions but edits leave the request; they learn at most. -/
theorem step_cases (a : Action) (c : Context) :
    (∃ f, a = edit f) ∨ (a.step c).request = c.request ∧
      ((a.step c).query = c.query ∨ (a.step c).query = some c.queryParams.1) ∧
      ((a.step c).form = c.form ∨ ∃ f, c.readForm.1 = .ok f ∧ (a.step c).form = some f) := by
  cases a with
  | edit f => exact .inl ⟨f, rfl⟩
  | read r =>
    have hlearns := r.steady_run.learns c
    exact .inr ⟨request_of_forget hlearns.rest, hlearns.query, hlearns.form⟩
  | route v =>
    obtain ⟨hrequest, hquery, hform⟩ := choose_keeps v c
    exact .inr ⟨hrequest, .inl hquery, .inl hform⟩
  | respond f => exact .inr ⟨rfl, .inl rfl, .inl rfl⟩
  | setTemplate t => exact .inr ⟨rfl, .inl rfl, .inl rfl⟩
  | setNames names => exact .inr ⟨rfl, .inl rfl, .inl rfl⟩
  | setValues values => exact .inr ⟨rfl, .inl rfl, .inl rfl⟩
  | store key value => exact .inr ⟨rfl, .inl rfl, .inl rfl⟩

end Action

/-! ## What stays remembered -/

/-- Something of the request that is parsed when it is first read, and held from then on. -/
structure Cell (β : Type) where
  held : Context → Option β
  parse : Request → Except Error β

namespace Cell

variable {β : Type}

def read (s : Cell β) (c : Context) : Except Error β :=
  match s.held c with
  | some v => .ok v
  | none => s.parse c.request

theorem read_of_held {s : Cell β} {c : Context} {v : β} (h : s.held c = some v) :
    s.read c = .ok v := by
  unfold read
  rw [h]

theorem read_of_not_held {s : Cell β} {c : Context} (h : s.held c = none) :
    s.read c = s.parse c.request := by
  unfold read
  rw [h]

def query : Cell (Multimap String) := ⟨Context.query, fun r => .ok r.queryPairs⟩

def form : Cell Form := ⟨Context.form, Form.ofRequest⟩

theorem read_query (c : Context) : query.read c = .ok c.queryParams.1 := by
  rw [queryParams_fst]
  cases hq : c.query with
  | some q => exact read_of_held hq
  | none => exact read_of_not_held hq

theorem read_form (c : Context) : form.read c = c.readForm.1 := by
  rw [readForm_fst]
  cases hf : c.form with
  | some f => exact read_of_held hf
  | none => exact read_of_not_held hf

structure Kept (s : Cell β) : Prop where
  edit : ∀ f c, s.held ((Action.edit f).step c) = s.held c
  step : ∀ a c, s.held (Action.step a c) = s.held c ∨
    ∃ v, s.read c = .ok v ∧ s.held (Action.step a c) = some v

theorem kept_query : Kept query := by
  constructor
  · exact fun _ _ => rfl
  · intro a c
    rcases a.step_cases c with ⟨f, rfl⟩ | ⟨-, hquery, -⟩
    · exact .inl rfl
    · exact hquery.imp_right fun h => ⟨_, read_query c, h⟩

theorem kept_form : Kept form := by
  constructor
  · exact fun _ _ => rfl
  · intro a c
    rcases a.step_cases c with ⟨f, rfl⟩ | ⟨-, -, hform⟩
    · exact .inl rfl
    · rw [read_form]
      exact hform

namespace Kept

variable {s : Cell β} (hs : Kept s)

include hs

theorem held_runAll (as : List Action) {c : Context} {v : β} (h : s.held c = some v) :
    s.held (Action.runAll as c) = some v := by
  induction as generalizing c with
  | nil => exact h
  | cons a as ih =>
    apply ih
    rcases hs.step a c with hstep | ⟨v', hread, hstep⟩
    · rw [hstep, h]
    · rw [read_of_held h] at hread
      rw [hstep, Except.ok.inj hread]

theorem read_runAll (as : List Action) {c : Context} (h : s.held c = none) :
    s.read (Action.runAll as c) = s.parse (Action.origin (fun c => (s.held c).isSome) as c) := by
  induction as generalizing c with
  | nil => exact read_of_not_held h
  | cons a as ih =>
    show s.read (Action.runAll as (a.step c)) = _
    unfold Action.origin
    cases hheld : s.held (a.step c) with
    | none =>
      rw [if_neg (by simp)]
      exact ih hheld
    | some v =>
      rw [if_pos (by simp), read_of_held (hs.held_runAll as hheld)]
      -- this step has filled the cell, so from the request that it found
      rcases hs.step a c with hstep | ⟨v', hread, hstep⟩
      · rw [hstep, h] at hheld
        cases hheld
      · rw [hstep] at hheld
        obtain rfl := Option.some.inj hheld
        rw [← hread, read_of_not_held h]

end Kept

def Fresh (s : Cell β) (c : Context) : Prop := ∀ v, s.held c = some v → s.parse c.request = .ok v

theorem Fresh.read {s : Cell β} {c : Context} (h : Fresh s c) : s.read c = s.parse c.request := by
  cases hheld : s.held c with
  | none => exact read_of_not_held hheld
  | some v => rw [read_of_held hheld, h v hheld]

theorem Fresh.step {s : Cell β} (hs : Kept s) {c : Context} (h : Fresh s c) {a : Action}
    (hspares : ∀ f, a = .edit f → (s.held c).isSome → s.parse (f c.request) = s.parse c.request) :
    Fresh s (a.step c) := by
  intro v hv
  rcases a.step_cases c with ⟨f, rfl⟩ | ⟨hrequest, -, -⟩
  · rw [hs.edit] at hv
    exact (hspares f rfl (Option.isSome_of_eq_some hv)).trans (h v hv)
  · rw [hrequest]
    rcases hs.step a c with hstep | ⟨v', hread, hstep⟩
    · exact h v (hstep.symm.trans hv)
    · rw [hstep] at hv
      obtain rfl := Option.some.inj hv
      exact h.read.symm.trans hread

theorem Fresh.spared {s : Cell β} (hs : Kept s) {c : Context} (h : Fresh s c) {f : Request → Request}
    (hafter : Fresh s ((Action.edit f).step c)) (hheld : (s.held c).isSome) :
    s.parse (f c.request) = s.parse c.request := by
  obtain ⟨v, hv⟩ := Option.isSome_iff_exists.mp hheld
  rw [h v hv]
  exact hafter v ((hs.edit f c).trans hv)

end Cell

/-- A context that has read its query from one request and its form from another. -/
def recalling (c : Context) (queried posted : Request) : Context :=
  { c with query := some queried.queryPairs, form := (Form.ofRequest posted).toOption }

theorem alike_recalling {c : Context} {queried posted : Request}
    (hquery : c.queryParams.1 = queried.queryPairs) (hform : c.readForm.1 = Form.ofRequest posted) :
    Alike (c.recalling queried posted) c := by
  refine ⟨rfl, hquery, ?_⟩
  rw [readForm_fst (c.recalling queried posted), hform]
  unfold recalling
  cases hposted : Form.ofRequest posted with
  | ok f => rfl
  | error e =>
    -- A form that could not be read is not remembered: it has just been tried on the request as it is.
    rw [hposted, readForm_fst] at hform
    cases hf : c.form with
    | some f =>
      rw [hf] at hform
      cases hform
    | none =>
      rw [hf] at hform
      exact hform.symm

/-! ## Following the request -/

/-- Every way to read the query and the form gives what it would give if nothing had been read yet. -/
def Follows (c : Context) : Prop := ∀ (α : Type) (r : Reading α), (r.run c).1 = (r.run c.forget).1

/-- A change of the request that does not touch what is remembered of it. -/
structure Spares (f : Request → Request) (c : Context) : Prop where
  query : c.query.isSome → (f c.request).queryPairs = c.request.queryPairs
  form : c.form.isSome → Form.ofRequest (f c.request) = Form.ofRequest c.request

theorem follows_iff_fresh (c : Context) : Follows c ↔ Cell.query.Fresh c ∧ Cell.form.Fresh c := by
  constructor
  · intro h
    constructor
    · intro q hq
      have hread := h _ .queryParams
      have hheld := Except.ok.inj ((Cell.read_query c).symm.trans (Cell.read_of_held hq))
      exact congrArg Except.ok (hread.symm.trans hheld)
    · intro f hf
      have hread := h _ .form
      have hheld := (Cell.read_form c).symm.trans (Cell.read_of_held hf)
      exact (readForm_fst c.forget).symm.trans (hread.symm.trans hheld)
  · rintro ⟨hquery, hform⟩ α r
    apply r.steady_run.same
    refine ⟨rfl, ?_, ?_⟩
    · exact Except.ok.inj ((Cell.read_query c).symm.trans hquery.read)
    · exact (Cell.read_form c).symm.trans (hform.read.trans (readForm_fst c.forget).symm)

theorem follows_forget (c : Context) : Follows c.forget := fun _ _ => rfl

theorem Follows.step {c : Context} (h : Follows c) {a : Action}
    (hspares : ∀ f, a = .edit f → Spares f c) : Follows (a.step c) := by
  rw [follows_iff_fresh] at h ⊢
  constructor
  · apply h.1.step Cell.kept_query
    intro f hf hheld
    exact congrArg Except.ok ((hspares f hf).query hheld)
  · apply h.2.step Cell.kept_form
    intro f hf hheld
    exact (hspares f hf).form hheld

theorem Follows.spares {c : Context} (h : Follows c) {f : Request → Request}
    (hafter : Follows ((Action.edit f).step c)) : Spares f c := by
  rw [follows_iff_fresh] at h hafter
  constructor
  · intro hheld
    exact Except.ok.inj (h.1.spared Cell.kept_query hafter.1 hheld)
  · intro hheld
    exact h.2.spared Cell.kept_form hafter.2 hheld

/-- Whatever has been done with a context, all that is read and bound takes its query and its form from
the requests that were there when these were first read. So from first to last it follows the request
exactly if no change of the request touches the query or the form once it has been read. -/
theorem reads_follow_iff (c : Context) (as : List Action) :
    let queried := Action.origin (·.query.isSome) as c.forget
    let posted := Action.origin (·.form.isSome) as c.forget
    let last := Action.runAll as c.forget
    last.queryParams.1 = queried.queryPairs ∧ last.readForm.1 = Form.ofRequest posted ∧
      (∀ (α : Type) (r : Reading α), (r.run last).1 = (r.run (last.recalling queried posted)).1) ∧
      ((∀ before, before <+: as → Follows (Action.runAll before c.forget)) ↔
        ∀ before f, before ++ [.edit f] <+: as → Spares f (Action.runAll before c.forget)) := by
  intro queried posted last
  have hquery : last.queryParams.1 = queried.queryPairs :=
    Except.ok.inj ((Cell.read_query last).symm.trans (Cell.kept_query.read_runAll as rfl))
  have hform : last.readForm.1 = Form.ofRequest posted :=
    (Cell.read_form last).symm.trans (Cell.kept_form.read_runAll as rfl)
  refine ⟨hquery, hform, fun α r => r.steady_run.same (alike_recalling hquery hform), ?_, ?_⟩
  · intro h before f hprefix
    have hafter := h _ hprefix
    rw [Action.runAll_append] at hafter
    exact (h before ((List.prefix_append before _).trans hprefix)).spares hafter
  · intro h before hprefix
    induction before using List.reverseRecOn with
    | nil => exact follows_forget c
    | append_singleton before a ih =>
      rw [Action.runAll_append]
      apply (ih ((List.prefix_append before _).trans hprefix)).step
      intro f ha
      subst ha
      exact h before f hprefix

theorem not_follows {c : Context} (h : c.queryParams.1 ≠ c.request.queryPairs) : ¬ Follows c :=
  fun hfollows => h (hfollows _ .queryParams)

/-- A request whose query is read before another one takes its place. -/
def rewriting : List Action := [.read .queryParams, .edit fun _ => Request.new "GET" "/?a=2"]

def rewritten : Context :=
  Action.runAll rewriting (forget { request := Request.new "GET" "/?a=1" })

theorem rewriting_reads_stale :
    let last := Action.runAll rewriting (forget { request := Request.new "GET" "/?a=1" })
    last.queryParams.1 = [("a", "1")] ∧ last.request.queryPairs = [("a", "2")] ∧ ¬ Follows last := by
  have hread : rewritten.queryParams.1 = [("a", "1")] := by decide +kernel
  have hrequest : rewritten.request.queryPairs = [("a", "2")] := by decide +kernel
  refine ⟨hread, hrequest, not_follows ?_⟩
  show rewritten.queryParams.1 ≠ rewritten.request.queryPairs
  rw [hread, hrequest]
  decide

end Context

end Switchboard
