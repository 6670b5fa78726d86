import Switchboard.Proofs.Web.Finality
import Switchboard.Proofs.Web.Gathering

/-!
# Bad requests

Binding gives a value or a bad request. What fails in it, at any depth, is one of its own refusals, with
a cause that is no HTTP error and so does not take their place when they are rendered. And the one step
that can panic, taking the first out of several texts, always finds one.
-/

namespace Switchboard

variable {α β ε : Type}

/-- A bad request that is shown as such: an HTTP error below it would be shown in its place. -/
def Error.IsBadRequest (e : Error) : Prop :=
  ∃ cause, e = .http (HttpError.badRequest.withInternal cause) ∧ cause.http? = none

def OrBadRequest (r : Except Error α) : Prop := ∀ e, r = .error e → e.IsBadRequest

namespace OrBadRequest

theorem ok (a : α) : OrBadRequest (.ok a) := by
  intro e h
  cases h

theorem error {e : Error} (he : e.IsBadRequest) : OrBadRequest (.error e : Except Error α) := by
  intro e' h
  cases h
  exact he

theorem bind {r : Except Error α} {f : α → Except Error β} (hr : OrBadRequest r)
    (hf : ∀ a, OrBadRequest (f a)) : OrBadRequest (r.bind f) := by
  cases r with
  | ok a => exact hf a
  | error e => exact error (hr e rfl)

theorem map {r : Except Error α} (hr : OrBadRequest r) (f : α → β) : OrBadRequest (r.map f) := by
  cases r with
  | ok a => exact ok (f a)
  | error e => exact error (hr e rfl)

theorem mapM {f : α → Except Error β} (hf : ∀ a, OrBadRequest (f a)) (as : List α) :
    OrBadRequest (as.mapM f) := by
  induction as with
  | nil => exact ok []
  | cons a as ih =>
    rw [List.mapM_cons]
    exact (hf a).bind fun b => ih.bind fun bs => ok (b :: bs)

end OrBadRequest

/-! ## Results of binding -/

namespace Binding

open Json (Members)

theorem isBadRequest_badRequest (reason : String) : (badRequest reason).IsBadRequest :=
  ⟨.other reason, rfl, rfl⟩

theorem isBadRequest_unreadable : unreadable.IsBadRequest := ⟨.json "malformed", rfl, rfl⟩

theorem convertItems_orBadRequest {f : List Char → Except Error Json}
    (hf : ∀ s, OrBadRequest (f s)) (items : List Json) : OrBadRequest (convertItems f items) := by
  refine (OrBadRequest.mapM (fun item => ?_) items).map _
  cases item with
  | str s => exact hf s.toList
  | _ => exact .ok _

theorem convertText_orBadRequest (steps : List TextStep) (kind : FieldKind) (s : List Char) :
    OrBadRequest (convertText steps kind s) := by
  induction kind generalizing s with
  | text => exact .ok _
  | int | uint | float | bool =>
    unfold convertText
    split
    · exact .ok _
    · exact .error (isBadRequest_badRequest _)
  | json =>
    unfold convertText
    split
    · exact .ok _
    · exact .error isBadRequest_unreadable
  | file => exact .error (isBadRequest_badRequest _)
  | list item ih =>
    unfold convertText
    simp only
    split
    · split
      · exact convertItems_orBadRequest ih _
      · exact .error isBadRequest_unreadable
    · exact (OrBadRequest.mapM ih _).map _

theorem convert_orBadRequest (kind : FieldKind) (steps : List TextStep) (raw : Json) :
    OrBadRequest (convert kind steps raw) := by
  fun_cases convert kind steps raw with
  | case1 s => exact convertText_orBadRequest steps kind _
  | case2 items item => exact convertItems_orBadRequest (convertText_orBadRequest steps item) items
  | case3 | case6 => exact .error (isBadRequest_badRequest _)
  | _ => exact .ok _

theorem ofRequest_orBadRequest (r : Request) : OrBadRequest (Form.ofRequest r) := by
  have hmalformed (detail : String) : (Form.malformed detail).IsBadRequest :=
    ⟨.multipart detail, rfl, rfl⟩
  unfold Form.ofRequest
  split
  · exact .ok _
  · split
    · split
      · exact .error (hmalformed _)
      · split
        · exact .error (hmalformed _)
        · exact .ok _
    · exact .ok _

theorem announcedForm_orBadRequest (c : Context) : OrBadRequest (announcedForm c).1 := by
  rw [announcedForm_eq]
  split
  · refine OrBadRequest.map ?_ _
    rw [Context.readForm_fst]
    split
    · exact .ok _
    · exact ofRequest_orBadRequest c.request
  · exact .ok _

theorem fromSource_orBadRequest (c : Context) (name : String) (kind : FieldKind) (s : FieldSource) :
    OrBadRequest (fromSource c name kind s).1 := by
  cases s with
  | form | file => exact (announcedForm_orBadRequest c).map _
  | _ => exact .ok _

theorem lookUp_orBadRequest (c : Context) (name : String) (kind : FieldKind)
    (steps : List TextStep) (sources : List FieldSource) :
    OrBadRequest (lookUp c name kind steps sources).1 := by
  induction sources with
  | nil => exact .ok none
  | cons s ss ih =>
    rw [lookUp_fst_cons]
    refine ((fromSource_orBadRequest c name kind s).map _).bind fun r => ?_
    cases r with
    | none => exact ih
    | some raw => exact (convert_orBadRequest kind steps raw).map some

mutual
theorem gatherField_orBadRequest {find : Leaf → Except Error (Option Json)}
    (hfind : ∀ l, OrBadRequest (find l)) (ms : Members) :
    ∀ f : Field, OrBadRequest (gatherField find ms f)
  | .plain name sources kind steps => (hfind ⟨name, sources, kind, steps⟩).map _
  | .object name fields => (gather_orBadRequest hfind (innerOf ms name) fields).map _
theorem gather_orBadRequest {find : Leaf → Except Error (Option Json)}
    (hfind : ∀ l, OrBadRequest (find l)) (ms : Members) :
    ∀ fs : List Field, OrBadRequest (gather find ms fs)
  | [] => .ok ms
  | f :: fs => (gatherField_orBadRequest hfind ms f).bind fun ms => gather_orBadRequest hfind ms fs
end

theorem bodyObject_orBadRequest (c : Context) : OrBadRequest (bodyObject c) := by
  unfold bodyObject
  split
  · split
    · exact .ok _
    · exact .error (isBadRequest_badRequest _)
    · exact .error isBadRequest_unreadable
  · exact .ok []

end Binding

theorem Context.bind_orBadRequest (c : Context) (fields : List Field) (read? : Json → Option α) :
    OrBadRequest (c.bind fields read?).1 := by
  rw [bind_fst, bindObject_fst]
  refine ((Binding.bodyObject_orBadRequest c).bind fun ms => ?_).bind fun ms => ?_
  · exact Binding.gather_orBadRequest (fun l => Binding.lookUp_orBadRequest c _ _ _ _) ms fields
  · unfold readAs
    split
    · exact .ok _
    · exact .error Binding.isBadRequest_unreadable

/-! ## Binding in steps -/

def FieldKind.isList : FieldKind → Bool
  | .list _ => true
  | _ => false

namespace Multimap

theorem values?_ne_nil (m : Multimap α) (name : String) : m.values? name ≠ some [] := by
  unfold values?
  split
  · simp
  · rename_i hps
    simpa using hps

end Multimap

namespace Exchange

open Binding
open Context (orFail)
open Json (Members)

def ofResult : Except Error α → Exchange ε α
  | .ok a => pure a
  | .error e => fail e

/-- Takes the first of some texts out of them, which panics where there is none. -/
def takeFirst : List String → Exchange ε String
  | v :: _ => pure v
  | [] => panic (some "swap_remove index (is 0) should be < len (is 0)")

/-- The first text counts when there is one only or the field is no list. -/
def takeTexts (kind : FieldKind) (values : List String) : Exchange ε Json :=
  if values.length = 1 ∨ kind.isList = false then do return .str (← takeFirst values)
  else return .arr (values.map .str)

def takeValues (kind : FieldKind) : Option (List String) → Exchange ε (Option Json)
  | none => return none
  | some values => do return some (← takeTexts kind values)

def supply (name : String) (kind : FieldKind) : FieldSource → Exchange ε (Option Json)
  | .query => do takeValues kind ((← onContext Context.queryParams).values? name)
  | .form => do takeValues kind ((← tryContext announcedForm).bind (·.values.values? name))
  | source => tryContext (fromSource · name kind source)

def search (name : String) (kind : FieldKind) (steps : List TextStep) :
    List FieldSource → Exchange ε (Option Json)
  | [] => return none
  | source :: sources => do
    match ← supply name kind source with
    | none => search name kind steps sources
    | some raw =>
      if isEmpty raw then search name kind steps sources
      else return some (← ofResult (convert kind steps raw))

mutual
def fillField (ms : Members) : Field → Exchange ε Members
  | .plain name sources kind steps => do return place ms name (← search name kind steps sources)
  | .object name fields => do return putBack ms name (← fillFields (innerOf ms name) fields)
def fillFields (ms : Members) : List Field → Exchange ε Members
  | [] => return ms
  | f :: fs => do fillFields (← fillField ms f) fs
end

/-- Binds a request as the handler does that asks for it, one step after the other. -/
def bindInSteps (fields : List Field) (read? : Json → Option α) : Exchange ε α := do
  let ms ← tryContext fun c => (bodyObject c, c)
  let ms ← fillFields ms fields
  ofResult (Context.readAs read? ms)

/-! ### Steps on the context -/

theorem pure_eq (a : α) : (pure a : Exchange ε α) = tryContext fun c => (.ok a, c) := rfl

theorem ofResult_eq (r : Except Error α) : (ofResult r : Exchange ε α) = tryContext fun c => (r, c) := by
  cases r <;> rfl

theorem onContext_eq (f : Context → α × Context) :
    (onContext f : Exchange ε α) = tryContext fun c => (.ok (f c).1, (f c).2) := rfl

theorem tryContext_bind (f : Context → Except Error α × Context)
    (g : α → Context → Except Error β × Context) :
    (tryContext f >>= fun a => tryContext (g a) : Exchange ε β) =
      tryContext fun c => orFail g (f c).1 (f c).2 := by
  funext d s
  show Work.bind (fun a s => tryContext (g a) d s) (tryContext f d s) = _
  unfold tryContext liftResult
  rcases hf : f s.context with ⟨e | a, c⟩
  · simp [hf, orFail, Work.bind, Work.andThen]
  · simp [hf, orFail, Work.bind, Work.andThen, State.withContext]

theorem tryContext_map (f : Context → Except Error α × Context) (g : α → β) :
    (do return g (← tryContext f) : Exchange ε β) = tryContext fun c => ((f c).1.map g, (f c).2) := by
  simp only [pure_eq, tryContext_bind]
  congr 1
  funext c
  rcases f c with ⟨_ | _, _⟩ <;> rfl

theorem takeTexts_eq (kind : FieldKind) {values : List String} (hvalues : values ≠ []) :
    (takeTexts kind values : Exchange ε Json) = pure (textsToJson kind values) := by
  match values with
  | [v] => rfl
  | v :: w :: vs => cases kind <;> rfl

example : (takeTexts .int [] : Exchange ε Json) =
    panic (some "swap_remove index (is 0) should be < len (is 0)") := rfl

/-- There is a text to take wherever texts are found under a name. -/
theorem takeValues_eq (kind : FieldKind) {found : Option (List String)} (hfound : found ≠ some []) :
    (takeValues kind found : Exchange ε (Option Json)) = pure (found.map (textsToJson kind)) := by
  cases found with
  | none => rfl
  | some values =>
    rw [takeValues, takeTexts_eq kind (by simpa using hfound)]
    rfl

theorem supply_eq (name : String) (kind : FieldKind) (s : FieldSource) :
    (supply name kind s : Exchange ε (Option Json)) = tryContext (fromSource · name kind s) := by
  cases s with
  | query =>
    simp only [supply, takeValues_eq kind (Multimap.values?_ne_nil _ name), pure_eq, onContext_eq,
      tryContext_bind]
    rfl
  | form =>
    have hfound (f : Option Form) : f.bind (·.values.values? name) ≠ some [] := by
      cases f with
      | none => simp
      | some f => exact f.values.values?_ne_nil name
    simp only [supply, takeValues_eq kind (hfound _), pure_eq, tryContext_bind]
    congr 1
    funext c
    unfold fromSource
    rcases announcedForm c with ⟨_ | _, _⟩ <;> rfl
  | _ => rfl

theorem search_eq (name : String) (kind : FieldKind) (steps : List TextStep)
    (sources : List FieldSource) :
    (search name kind steps sources : Exchange ε (Option Json)) =
      tryContext (lookUp · name kind steps sources) := by
  induction sources with
  | nil => rfl
  | cons s ss ih =>
    have hnext (r : Option Json) : (match r with
        | none => search name kind steps ss
        | some raw =>
          if isEmpty raw then search name kind steps ss
          else do return some (← ofResult (convert kind steps raw)) : Exchange ε (Option Json)) =
        tryContext fun c => match r with
          | none => lookUp c name kind steps ss
          | some raw =>
            if isEmpty raw then lookUp c name kind steps ss
            else ((convert kind steps raw).map some, c) := by
      cases r with
      | none => exact ih
      | some raw =>
        by_cases hraw : isEmpty raw = true
        · simp only [hraw, if_true]
          exact ih
        · simp only [hraw, ofResult_eq, tryContext_map]
          rfl
    rw [search, supply_eq]
    simp only [hnext, tryContext_bind]
    congr 1
    funext c
    rw [lookUp]
    rcases fromSource c name kind s with ⟨_ | _ | _, _⟩ <;> rfl

mutual
theorem fillField_eq (ms : Members) :
    ∀ f : Field, (fillField ms f : Exchange ε Members) = tryContext (bindField · ms f)
  | .plain name sources kind steps => by
    rw [fillField, search_eq, tryContext_map]
    simp only [bindField_plain]
  | .object name fields => by
    rw [fillField, fillFields_eq _ fields, tryContext_map]
    simp only [bindField_object]
theorem fillFields_eq (ms : Members) :
    ∀ fs : List Field, (fillFields ms fs : Exchange ε Members) = tryContext (bindFields · ms fs)
  | [] => rfl
  | f :: fs => by
    rw [fillFields, fillField_eq ms f]
    simp only [fillFields_eq _ fs, tryContext_bind, bindFields_cons]
end

theorem bindInSteps_eq (fields : List Field) (read? : Json → Option α) :
    (bindInSteps fields read? : Exchange ε α) = tryContext (·.bind fields read?) := by
  unfold bindInSteps
  simp only [ofResult_eq, fillFields_eq, tryContext_bind, Context.bind_eq, Context.bindObject_eq]
  congr 1
  funext c
  cases bodyObject c with
  | error e => rfl
  | ok ms =>
    simp only [orFail]
    cases (bindFields c ms fields).1 <;> rfl

end Exchange

/-! ## Rendering -/

namespace State

theorem response_writeHeader {s : State ε} (hcommitted : s.response.committed = false)
    (hbefore : s.response.before = []) (code : Nat) :
    (s.writeHeader code).response.committed = true ∧ (s.writeHeader code).response.status = code := by
  rw [writeHeader, response_step]
  simp [Response.step, Response.run, Response.turn, hcommitted, hbefore, Response.commit]

/-- An error that nothing stands in the way of is answered with the status of its visible part. -/
theorem renderError_status {s : State ε} (hcommitted : s.response.committed = false)
    (hbefore : s.response.before = []) (debug : Bool) (e : Error) :
    (s.renderError debug e).response.committed = true ∧
      (s.renderError debug e).response.status = (visiblePart e).1.code := by
  unfold renderError
  simp only [hcommitted]
  split
  · contradiction
  · split
    · exact response_writeHeader hcommitted hbefore _
    · have hset := response_setHeader s "content-type" ContentType.json.value
      obtain ⟨hwritten, hstatus⟩ := response_writeHeader
        (s := s.setContentType ContentType.json.value)
        (by rw [setContentType, hset]; exact hcommitted)
        (by rw [setContentType, hset]; exact hbefore) (visiblePart e).1.code
      obtain ⟨-, hkept, hsame⟩ := Response.step_of_committed hwritten (.write _)
      exact ⟨hkept, hsame.trans hstatus⟩

theorem visiblePart_code {e : Error} (he : e.IsBadRequest) : (visiblePart e).1.code = 400 := by
  obtain ⟨cause, rfl, hcause⟩ := he
  cases cause with
  | http inner => cases hcause
  | _ => rfl

theorem renderError_badRequest {s : State ε} (hcommitted : s.response.committed = false)
    (hbefore : s.response.before = []) {e : Error} (he : e.IsBadRequest) (debug : Bool) :
    (s.renderError debug e).response.committed = true ∧
      (s.renderError debug e).response.toAnswer.status = 400 := by
  obtain ⟨hdone, hstatus⟩ := renderError_status hcommitted hbefore debug e
  rw [visiblePart_code he] at hstatus
  refine ⟨hdone, ?_⟩
  rw [Response.toAnswer, hstatus]
  rfl

end State

namespace Exchange

/-- Whatever is asked for and however the request looks, binding does not panic. It gives a value, or an
error with code 400 that the default rendering answers with status 400. -/
theorem bind_value_or_badRequest (fields : List Field) (read? : Json → Option α) (d : Desk ε)
    (s : State ε) :
    bindInSteps fields read? d s = tryContext (·.bind fields read?) d s ∧
      ((∃ a s', bindInSteps fields read? d s = .done (.ok a) s') ∨
        ∃ h s', bindInSteps fields read? d s = .done (.error (.http h)) s' ∧ h.code = 400 ∧
          ∀ (debug : Bool) (t : State ε), t.response.committed = false → t.response.before = [] →
            ((Desk.standard debug).onError (.http h) t).response.committed = true ∧
              ((Desk.standard debug).onError (.http h) t).response.toAnswer.status = 400) := by
  have hsteps := bindInSteps_eq (ε := ε) fields read?
  refine ⟨by rw [hsteps], ?_⟩
  rw [hsteps]
  unfold tryContext liftResult
  have hbound := s.context.bind_orBadRequest fields read?
  rcases hresult : s.context.bind fields read? with ⟨e | a, c⟩ <;> simp only [hresult] at hbound ⊢
  · right
    have he : e.IsBadRequest := hbound e rfl
    obtain ⟨cause, rfl, -⟩ := id he
    refine ⟨_, _, rfl, rfl, fun debug t hcommitted hbefore => ?_⟩
    exact State.renderError_badRequest hcommitted hbefore he debug
  · exact .inl ⟨a, _, rfl⟩

end Exchange

end Switchboard
