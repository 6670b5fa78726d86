import Switchboard.Web.Binding

/-!
# Reading a context

Query and form are read once and remembered. What has been remembered shows in no later answer while
the request stays as it is, so reading and binding leave the rest of a context alone and can be
repeated.
-/

namespace Switchboard

variable {α β : Type}

/-- The pairs of the query; a request without a query has none. -/
def Request.queryPairs (r : Request) : Multimap String :=
  Pairs.ofBytes (Utf8.ofText (r.uri.query.getD ""))

namespace Context

theorem queryParams_fst (c : Context) : c.queryParams.1 = c.query.getD c.request.queryPairs := by
  unfold queryParams
  cases c.query with
  | some q => rfl
  | none => rfl

theorem queryParams_snd (c : Context) : c.queryParams.2 = { c with query := some c.queryParams.1 } := by
  unfold queryParams
  cases hq : c.query with
  | some q =>
    simp only
    rw [← hq]
  | none => rfl

theorem readForm_fst (c : Context) :
    c.readForm.1 = match c.form with
      | some f => .ok f
      | none => Form.ofRequest c.request := by
  unfold readForm
  cases c.form with
  | some f => rfl
  | none => cases Form.ofRequest c.request <;> rfl

theorem readForm_snd (c : Context) : c.readForm.2 = { c with form := c.readForm.1.toOption } := by
  unfold readForm
  cases hf : c.form with
  | some f =>
    show c = { c with form := some f }
    rw [← hf]
  | none =>
    cases Form.ofRequest c.request with
    | ok f => rfl
    | error e =>
      show c = { c with form := none }
      rw [← hf]

/-! ## Contexts that read the same -/

def forget (c : Context) : Context := { c with query := none, form := none }

/-- `c'` may remember what the query and the form of `c` read as, and is `c` otherwise. -/
structure Learns (c c' : Context) : Prop where
  rest : c'.forget = c.forget
  query : c'.query = c.query ∨ c'.query = some c.queryParams.1
  form : c'.form = c.form ∨ ∃ f, c.readForm.1 = .ok f ∧ c'.form = some f

/-- The contexts differ in what they remember at most, and their query and form read the same. -/
structure Alike (c c' : Context) : Prop where
  rest : c'.forget = c.forget
  query : c'.queryParams.1 = c.queryParams.1
  form : c'.readForm.1 = c.readForm.1

theorem request_of_forget {c c' : Context} (h : c'.forget = c.forget) : c'.request = c.request :=
  show c'.forget.request = c.forget.request from congrArg Context.request h

namespace Alike

variable {c c' c'' : Context}

theorem refl (c : Context) : Alike c c := ⟨rfl, rfl, rfl⟩

theorem symm (h : Alike c c') : Alike c' c := ⟨h.rest.symm, h.query.symm, h.form.symm⟩

theorem trans (h : Alike c c') (h' : Alike c' c'') : Alike c c'' :=
  ⟨h'.rest.trans h.rest, h'.query.trans h.query, h'.form.trans h.form⟩

theorem frame (h : Alike c c') : { c' with query := c.query, form := c.form } = c :=
  congrArg (fun d : Context => { d with query := c.query, form := c.form }) h.rest

end Alike

namespace Learns

variable {c c' c'' : Context}

theorem refl (c : Context) : Learns c c := ⟨rfl, .inl rfl, .inl rfl⟩

theorem alike (h : Learns c c') : Alike c c' := by
  have hrequest := request_of_forget h.rest
  refine ⟨h.rest, ?_, ?_⟩
  · rcases h.query with hq | hq
    · rw [queryParams_fst, queryParams_fst, hq, hrequest]
    · rw [queryParams_fst, hq]
      rfl
  · rcases h.form with hf | ⟨f, hread, hf⟩
    · rw [readForm_fst, readForm_fst, hf, hrequest]
    · rw [readForm_fst, hf, hread]

theorem trans (h : Learns c c') (h' : Learns c' c'') : Learns c c'' := by
  refine ⟨h'.rest.trans h.rest, ?_, ?_⟩
  · rcases h'.query with hq | hq
    · rw [hq]
      exact h.query
    · exact .inr (hq.trans (congrArg some h.alike.query))
  · rcases h'.form with hf | ⟨f, hread, hf⟩
    · rw [hf]
      exact h.form
    · exact .inr ⟨f, h.alike.form.symm.trans hread, hf⟩

end Learns

theorem learns_queryParams (c : Context) : Learns c c.queryParams.2 := by
  rw [queryParams_snd]
  exact ⟨rfl, .inr rfl, .inl rfl⟩

theorem learns_readForm (c : Context) : Learns c c.readForm.2 := by
  rw [readForm_snd]
  refine ⟨rfl, .inl rfl, ?_⟩
  cases hr : c.readForm.1 with
  | ok f => exact .inr ⟨f, rfl, rfl⟩
  | error e =>
    -- Only a form that is not remembered can fail to be read.
    rw [readForm_fst] at hr
    cases hf : c.form with
    | some f =>
      rw [hf] at hr
      cases hr
    | none => exact .inl rfl

/-! ## Steady functions -/

/-- A function that only makes a context learn, and gives the same on contexts that are alike. -/
structure Steady (f : Context → α × Context) : Prop where
  learns : ∀ c, Learns c (f c).2
  same : ∀ {c c'}, Alike c c' → (f c').1 = (f c).1

theorem steady_queryParams : Steady queryParams := ⟨learns_queryParams, fun h => h.query⟩

theorem steady_readForm : Steady readForm := ⟨learns_readForm, fun h => h.form⟩

def orFail (g : α → Context → Except Error β × Context) :
    Except Error α → Context → Except Error β × Context
  | .ok a, c => g a c
  | .error e, c => (.error e, c)

namespace Steady

variable {f : Context → α × Context}

theorem alike (hf : Steady f) (c : Context) : Alike c (f c).2 := (hf.learns c).alike

theorem alike_of_alike (hf : Steady f) {c c' : Context} (h : Alike c c') :
    Alike (f c).2 (f c').2 := (hf.alike c).symm.trans (h.trans (hf.alike c'))

theorem of_forget {g : Context → α} (hg : ∀ c, g c.forget = g c) : Steady fun c => (g c, c) := by
  constructor
  · exact Learns.refl
  · intro c c' h
    show g c' = g c
    rw [← hg c', h.rest, hg c]

theorem andThen {g : α → Context → β × Context} (hf : Steady f) (hg : ∀ a, Steady (g a)) :
    Steady fun c => g (f c).1 (f c).2 := by
  constructor
  · intro c
    exact (hf.learns c).trans ((hg _).learns _)
  · intro c c' h
    show (g (f c').1 (f c').2).1 = (g (f c).1 (f c).2).1
    rw [hf.same h]
    exact (hg _).same (hf.alike_of_alike h)

theorem map (g : α → β) (hf : Steady f) : Steady fun c => (g (f c).1, (f c).2) :=
  hf.andThen (g := fun a c => (g a, c)) fun _ => of_forget fun _ => rfl

theorem orFail {g : α → Context → Except Error β × Context} (hg : ∀ a, Steady (g a))
    (r : Except Error α) : Steady (orFail g r) := by
  cases r with
  | ok a => exact hg a
  | error e => exact of_forget fun _ => rfl

end Steady

end Context

namespace Binding

open Context (Steady orFail)
open Json (Members)

/-! ## Sources -/

theorem announcedForm_eq (c : Context) :
    announcedForm c =
      if c.isForm then (c.readForm.1.map some, c.readForm.2) else (.ok none, c) := by
  unfold announcedForm
  split
  · rcases c.readForm with ⟨_ | _, _⟩ <;> rfl
  · rfl

theorem steady_announcedForm : Steady announcedForm := by
  let g (b : Bool) (c : Context) : Except Error (Option Form) × Context :=
    if b then (c.readForm.1.map some, c.readForm.2) else (.ok none, c)
  have hg : ∀ b, Steady (g b) := by
    intro b
    cases b with
    | true => exact Context.steady_readForm.map (Except.map some)
    | false => exact Steady.of_forget fun _ => rfl
  rw [funext announcedForm_eq]
  exact Steady.andThen (f := fun c => (c.isForm, c)) (Steady.of_forget fun _ => rfl) hg

theorem steady_fromSource (name : String) (kind : FieldKind) (s : FieldSource) :
    Steady fun c => fromSource c name kind s := by
  cases s with
  | value | header | param | cookie => exact Steady.of_forget fun _ => rfl
  | query =>
    exact Context.steady_queryParams.map fun q =>
      Except.ok ((q.values? name).map (textsToJson kind))
  | form => exact steady_announcedForm.map _
  | file => exact steady_announcedForm.map _

def counted (r : Except Error (Option Json)) : Except Error (Option Json) :=
  r.map (·.filter (!isEmpty ·))

theorem lookUp_cons (c : Context) (name : String) (kind : FieldKind) (steps : List TextStep)
    (s : FieldSource) (ss : List FieldSource) :
    lookUp c name kind steps (s :: ss) =
      orFail (fun r c => r.elim (lookUp c name kind steps ss) fun raw =>
        ((convert kind steps raw).map some, c))
        (counted (fromSource c name kind s).1) (fromSource c name kind s).2 := by
  rw [lookUp]
  rcases fromSource c name kind s with ⟨_ | _ | raw, _⟩
  · rfl
  · rfl
  · by_cases hraw : isEmpty raw = true <;>
      simp [hraw, counted, Except.map, orFail, Option.filter]

theorem steady_lookUp (name : String) (kind : FieldKind) (steps : List TextStep)
    (sources : List FieldSource) : Steady fun c => lookUp c name kind steps sources := by
  induction sources with
  | nil => exact Steady.of_forget fun _ => rfl
  | cons s ss ih =>
    simp only [lookUp_cons]
    refine ((steady_fromSource name kind s).map counted).andThen (Steady.orFail fun r => ?_)
    cases r with
    | none => exact ih
    | some raw => exact Steady.of_forget fun _ => rfl

/-! ## Objects -/

/-- The object that a field with fields of its own starts from. -/
def innerOf (ms : Members) (name : String) : Members :=
  match ms.find? name with
  | some (.obj inner) => inner
  | _ => []

/-- What has been gathered in an object goes to its place; an empty object has none. -/
def putBack (ms : Members) (name : String) : Members → Members
  | [] => ms.erase name
  | inner => (ms.erase name).insert name (.obj inner)

def place (ms : Members) (name : String) : Option Json → Members
  | none => ms
  | some v => ms.insert name v

theorem bindField_plain (c : Context) (ms : Members) (name : String) (sources : List FieldSource)
    (kind : FieldKind) (steps : List TextStep) :
    bindField c ms (.plain name sources kind steps) =
      ((lookUp c name kind steps sources).1.map (place ms name),
        (lookUp c name kind steps sources).2) := by
  rw [bindField]
  rcases lookUp c name kind steps sources with ⟨_ | _ | _, _⟩ <;> rfl

theorem bindField_object (c : Context) (ms : Members) (name : String) (fields : List Field) :
    bindField c ms (.object name fields) =
      ((bindFields c (innerOf ms name) fields).1.map (putBack ms name),
        (bindFields c (innerOf ms name) fields).2) := by
  rw [bindField]
  unfold innerOf
  rcases bindFields c _ fields with ⟨_ | _ | _, _⟩ <;> rfl

theorem bindFields_cons (c : Context) (ms : Members) (f : Field) (fs : List Field) :
    bindFields c ms (f :: fs) =
      orFail (fun ms c => bindFields c ms fs) (bindField c ms f).1 (bindField c ms f).2 := by
  rw [bindFields]
  rcases bindField c ms f with ⟨_ | _, _⟩ <;> rfl

mutual
theorem steady_bindField (ms : Members) : ∀ f : Field, Steady fun c => bindField c ms f
  | .plain name sources kind steps => by
    simp only [bindField_plain]
    exact (steady_lookUp name kind steps sources).map (Except.map (place ms name))
  | .object name fields => by
    simp only [bindField_object]
    exact (steady_bindFields (innerOf ms name) fields).map (Except.map (putBack ms name))
theorem steady_bindFields (ms : Members) : ∀ fs : List Field, Steady fun c => bindFields c ms fs
  | [] => Steady.of_forget fun _ => rfl
  | f :: fs => by
    simp only [bindFields_cons]
    exact (steady_bindField ms f).andThen (Steady.orFail fun ms => steady_bindFields ms fs)
end

end Binding

namespace Context

open Binding (bodyObject bindFields)

theorem bindObject_eq (c : Context) (fields : List Field) :
    c.bindObject fields = orFail (fun ms c => bindFields c ms fields) (bodyObject c) c := by
  unfold bindObject
  cases bodyObject c <;> rfl

theorem steady_bindObject (fields : List Field) : Steady fun c => c.bindObject fields := by
  simp only [bindObject_eq]
  exact Steady.andThen (f := fun c => (bodyObject c, c)) (Steady.of_forget fun _ => rfl)
    (Steady.orFail fun ms => Binding.steady_bindFields ms fields)

def readAs (read? : Json → Option α) (ms : Json.Members) : Except Error α :=
  match read? (.obj ms) with
  | some a => .ok a
  | none => .error Binding.unreadable

theorem bind_eq (c : Context) (fields : List Field) (read? : Json → Option α) :
    c.bind fields read? =
      ((c.bindObject fields).1.bind (readAs read?), (c.bindObject fields).2) := by
  unfold bind
  rcases c.bindObject fields with ⟨_ | ms, _⟩
  · rfl
  · unfold readAs
    cases h : read? (.obj ms) <;> simp [h, Except.bind]

theorem steady_bind (fields : List Field) (read? : Json → Option α) :
    Steady fun c => c.bind fields read? := by
  simp only [bind_eq]
  exact (steady_bindObject fields).map fun r => r.bind (readAs read?)

/-! ## Runs of reads -/

/-- The ways to read the query and the form of a request, by what they give. -/
inductive Reading : Type → Type 1 where
  | queryParams : Reading (Multimap String)
  | queryParam (name : String) : Reading (Option String)
  | form : Reading (Except Error Form)
  | formParams : Reading (Except Error (Multimap String))
  | formValue (name : String) : Reading (Except Error (Option String))
  | formFile (name : String) : Reading (Except Error (Option FormFile))
  | bind {α : Type} (fields : List Field) (read? : Json → Option α) : Reading (Except Error α)

namespace Reading

def run : {α : Type} → Reading α → Context → α × Context
  | _, queryParams, c => c.queryParams
  | _, queryParam name, c => c.queryParam? name
  | _, form, c => c.readForm
  | _, formParams, c => (c.readForm.1.map (·.values), c.readForm.2)
  | _, formValue name, c => (c.readForm.1.map (·.value? name), c.readForm.2)
  | _, formFile name, c => (c.readForm.1.map (·.file? name), c.readForm.2)
  | _, bind fields read?, c => c.bind fields read?

theorem steady_run (r : Reading α) : Steady r.run := by
  cases r with
  | queryParams => exact steady_queryParams
  | queryParam name => exact steady_queryParams.map (·.first? name)
  | form => exact steady_readForm
  | formParams => exact steady_readForm.map (Except.map (·.values))
  | formValue name => exact steady_readForm.map (Except.map (·.value? name))
  | formFile name => exact steady_readForm.map (Except.map (·.file? name))
  | bind fields read? => exact steady_bind fields read?

def runAll (rs : List (Σ α, Reading α)) (c : Context) : Context :=
  rs.foldl (fun c r => (r.2.run c).2) c

theorem alike_runAll (rs : List (Σ α, Reading α)) (c : Context) : Alike c (runAll rs c) := by
  induction rs generalizing c with
  | nil => exact .refl c
  | cons r rs ih => exact (r.2.steady_run.alike c).trans (ih _)

end Reading

/-- Binding changes nothing of a context but what it remembers of its query and form. Whatever has been
read or bound before and after, binding the same fields gives the same again. -/
theorem bind_repeats (c : Context) (earlier between : List (Σ α, Reading α)) (fields : List Field)
    (read? : Json → Option α) :
    let c₁ := Reading.runAll earlier c
    let c₂ := (c₁.bind fields read?).2
    { c₂ with query := c₁.query, form := c₁.form } = c₁ ∧
      (c₁.bind fields read?).1 = (c.bind fields read?).1 ∧
      ((Reading.runAll between c₂).bind fields read?).1 = (c₁.bind fields read?).1 := by
  intro c₁ c₂
  have hbound : Alike c₁ c₂ := (steady_bind fields read?).alike c₁
  refine ⟨hbound.frame, ?_, ?_⟩
  · exact (steady_bind fields read?).same (Reading.alike_runAll earlier c)
  · apply (steady_bind fields read?).same
    exact hbound.trans (Reading.alike_runAll between c₂)

end Context

end Switchboard
