import Switchboard.Proofs.Http.Fields
import Switchboard.Proofs.Web.Recovery
import Switchboard.Web.Tracing

/-!
# Ids of requests

The middleware that gives responses the ids of their requests writes a header field before all that it
is put around. When nothing else touches that field, the answer carries it, however the chain is left but
by a panic: a panic is rendered into an empty writer, and the field is gone with all the rest.
-/

namespace Switchboard

variable {ε : Type}

/-! ## What touches a field -/

open Header (name?)

mutual
def WriterStep.Touches (field : String) : WriterStep → Prop
  | .setHeader n _ | .appendHeader n _ | .removeHeader n => name? n = name? field
  | .before hook => WriterStep.SomeTouches field hook
  | _ => False
def WriterStep.SomeTouches (field : String) : List WriterStep → Prop
  | [] => False
  | s :: hook => s.Touches field ∨ WriterStep.SomeTouches field hook
end

namespace Response

open WriterStep (SomeTouches)

/-- The values that stand under a field, and no hook waits that touches it. -/
structure Shows (field : String) (values : List String) (r : Response) : Prop where
  header : r.header.values field = values
  hooks : ∀ hook ∈ r.before, ¬ SomeTouches field hook

def Work.Touches (field : String) : Work → Prop
  | .step s => s.Touches field
  | _ => False

variable {field : String} {values : List String} {r : Response}

theorem someTouches_iff {hook : List WriterStep} :
    SomeTouches field hook ↔ ∃ s ∈ hook, s.Touches field := by
  induction hook with
  | nil => simp [SomeTouches]
  | cons s hook ih => simp [SomeTouches, ih]

theorem hookWork_touches {hook : List WriterStep} (h : ¬ SomeTouches field hook) :
    ∀ w ∈ hookWork hook, ¬ w.Touches field := by
  rw [someTouches_iff] at h
  intro w hw htouches
  simp only [hookWork, List.mem_cons, List.mem_flatMap, List.not_mem_nil, or_false] at hw
  rcases hw with rfl | ⟨s, hs, rfl | rfl⟩
  · cases htouches
  · exact h ⟨s, hs, htouches⟩
  · cases htouches

/-- One turn that does not touch the field leaves it as it is, and work that does not touch it. -/
theorem turn_shows (hr : r.Shows field values) {w : Work} (hw : ¬ w.Touches field) :
    (turn r w).2.Shows field values ∧ ∀ u ∈ (turn r w).1, ¬ u.Touches field := by
  obtain ⟨hheader, hhooks⟩ := hr
  fun_cases turn r w with
  | case1 n v => exact ⟨⟨(Header.values_set _ hw v).trans hheader, hhooks⟩, by simp⟩
  | case2 n v => exact ⟨⟨(Header.values_add _ hw v).trans hheader, hhooks⟩, by simp⟩
  | case3 n => exact ⟨⟨(Header.values_erase _ hw).trans hheader, hhooks⟩, by simp⟩
  | case4 hook =>
    refine ⟨⟨hheader, fun hook' hmem => ?_⟩, by simp⟩
    rcases List.mem_append.mp hmem with hmem | hmem
    · exact hhooks hook' hmem
    · obtain rfl := List.mem_singleton.mp hmem
      exact hw
  | case8 code hc =>
    refine ⟨⟨hheader, by simp⟩, fun u hu => ?_⟩
    rcases List.mem_append.mp hu with hu | hu
    · obtain ⟨hook, hhook, hu⟩ := List.mem_flatMap.mp hu
      exact hookWork_touches (hhooks hook hhook) u hu
    · obtain rfl := List.mem_singleton.mp hu
      exact id
  | _ => exact ⟨⟨hheader, hhooks⟩, by simp [Work.Touches, WriterStep.Touches]⟩

theorem run_shows (hr : r.Shows field values) {ws : List Work}
    (hws : ∀ w ∈ ws, ¬ w.Touches field) : (r.run ws).Shows field values := by
  fun_induction run r ws with
  | case1 r => exact hr
  | case2 r w ws ih =>
    obtain ⟨hw, hws⟩ := List.forall_mem_cons.mp hws
    obtain ⟨hturn, hleft⟩ := turn_shows hr hw
    exact ih hturn (List.forall_mem_append.mpr ⟨hleft, hws⟩)

theorem step_shows (hr : r.Shows field values) {s : WriterStep} (hs : ¬ s.Touches field) :
    (r.step s).Shows field values :=
  run_shows hr (by simpa [Work.Touches] using hs)

end Response

namespace State

variable {field : String} {values : List String} {s : State ε}

theorem step_shows (hs : s.response.Shows field values) {w : WriterStep} (hw : ¬ w.Touches field) :
    (s.step w).response.Shows field values :=
  ⟨(Response.step_shows hs hw).header, (Response.step_shows hs hw).hooks⟩

theorem blob_shows (hs : s.response.Shows field values)
    (hfield : name? "content-type" ≠ name? field) (code : Nat) (contentType : String) (body : Bytes) :
    (s.blob code contentType body).response.Shows field values := by
  have htype := step_shows (w := .setHeader "content-type" contentType) hs hfield
  exact step_shows (step_shows (w := .writeHeader code) htype id) id

theorem renderError_shows (hs : s.response.Shows field values)
    (hfield : name? "content-type" ≠ name? field) (debug : Bool) (e : Error) :
    (s.renderError debug e).response.Shows field values := by
  unfold renderError
  dsimp only
  split
  · exact hs
  · split
    · exact step_shows (w := .writeHeader _) hs id
    · exact blob_shows hs hfield _ _ _

end State

/-! ## The id -/

namespace Middleware

def idOf (r : Request) (world : World ε) : String :=
  ((r.text? requestIdField).filter fun s => !s.isEmpty).getD world.freshId.1

theorem identify_fst (s : State ε) : (identify s).1 = idOf s.request s.world := by
  have hheader : s.context.header? requestIdField = s.request.text? requestIdField := rfl
  unfold identify idOf
  rw [hheader]
  split
  · rename_i hid
    rw [hid]
    rfl
  · rename_i hid
    rw [hid]
    rfl

theorem isValue_of_isVisible {v : String} (h : Header.isVisible v = true) :
    Header.isValue v = true := by
  unfold Header.isVisible at h
  unfold Header.isValue
  simp only [List.all_eq_true, Bool.or_eq_true, Bool.and_eq_true, decide_eq_true_eq, beq_iff_eq,
    bne_iff_ne] at h ⊢
  intro c hc
  exact (h c hc).imp_right fun ⟨hlow, hhigh⟩ => ⟨hlow, by omega⟩

theorem isValue_idText (n : Nat) : Header.isValue (World.idText n) = true := by
  have hdigit : ∀ d < 16, Header.isVisible (String.ofList [Json.hexDigit d]) = true := by decide
  have hdigits (k n : Nat) : Header.isVisible (String.ofList (World.hexDigits k n)) = true := by
    induction k generalizing n with
    | zero => rfl
    | succ k ih =>
      have hlast := hdigit (n % 16) (Nat.mod_lt n (by omega))
      have hinit := ih (n / 16)
      unfold Header.isVisible at *
      rw [String.toList_ofList] at *
      rw [World.hexDigits, List.all_append, hinit, hlast]
      rfl
  apply isValue_of_isVisible
  have hend := hdigits 12 n
  unfold World.idText Header.isVisible at *
  rw [String.toList_append, List.all_append, hend]
  decide

theorem isValue_idOf (r : Request) (world : World ε) : Header.isValue (idOf r world) = true := by
  unfold idOf
  cases h : (r.text? requestIdField).filter fun s => !s.isEmpty with
  | none => exact isValue_idText world.nextId
  | some id =>
    obtain ⟨htext, -⟩ := Option.filter_eq_some_iff.mp h
    obtain ⟨-, hvisible⟩ := Option.filter_eq_some_iff.mp htext
    exact isValue_of_isVisible hvisible

theorem shows_identified {s : State ε} (hs : s.response = {}) :
    (((identify s).2.setHeader requestIdField (identify s).1).mapContext
      (·.setValue "request_id" (.text (identify s).1))).response.Shows requestIdField
        [idOf s.request s.world] := by
  have hresponse : (identify s).2.response = {} :=
    (congrArg Context.response (context_identify s)).trans hs
  rw [← identify_fst]
  have hid : Header.isValue (identify s).1 = true := identify_fst s ▸ isValue_idOf s.request s.world
  show ((identify s).2.setHeader requestIdField (identify s).1).response.Shows _ _
  rw [State.response_setHeader, hresponse]
  exact ⟨Header.values_set_self [] (by decide) hid, fun _ h => absurd h List.not_mem_nil⟩

end Middleware

/-! ## Services -/

namespace Service

open Middleware (requestIdField idOf)

def Spares (field : String) (v : Service ε) : Prop :=
  ∀ values, v.Keeps fun s => s.response.Shows field values

variable {v : Service ε} {rest : List (Middleware ε)}
  {nested : Request → Pool → World ε → Option (Answer × Pool × World ε)} {r : Request}
  {pool pool' : Pool} {world : World ε} {o : Outcome Unit} {s : State ε}

def leftOf (values : List String) : Outcome Unit → List String
  | .panic _ => []
  | _ => values

theorem Spares.settle {field : String} (hv : v.Spares field) {values : List String}
    (hs : s.response.Shows field values) :
    (v.settle o s).response.Shows field (leftOf values o) := by
  cases o with
  | ok => exact hs
  | error e => exact (hv values).onError e s hs
  | panic text =>
    refine (hv []).onError _ _ ⟨?_, fun _ h => absurd h List.not_mem_nil⟩
    show Header.values [] field = []
    unfold Header.values
    split <;> rfl

/-- The part of the chain behind the middleware that gives the id. -/
theorem chain_requestId (hbefore : v.before = Middleware.requestId :: rest) :
    v.chain = Middleware.requestId ({ v with before := rest } : Service ε).chain := by
  unfold chain
  rw [hbefore]
  rfl

/-- Behind the middleware that gives the id, the field stays as that middleware has set it. -/
theorem chain_shows (hbefore : v.before = Middleware.requestId :: rest)
    (hspares : ({ v with before := rest } : Service ε).Spares requestIdField)
    (hs : s.response = {}) :
    (v.chain v.desk s).Ends fun s' =>
      s'.response.Shows requestIdField [idOf s.request s.world] := by
  have hinner := (hspares [idOf s.request s.world]).chain fun s' hs' => by
    have hkept := (choose_kept ({ v with before := rest } : Service ε) s'.context).2
    show Response.Shows _ _ (choose _ s'.context).2.response
    rw [hkept]
    exact hs'
  rw [chain_requestId hbefore]
  exact hinner _ (Middleware.shows_identified hs)

section answered

variable (hbefore : v.before = Middleware.requestId :: rest)
  (hspares : ({ v with before := rest } : Service ε).Spares requestIdField)
  (hrun : v.runChain nested r pool world = some (o, s, pool'))
include hbefore hspares hrun

theorem serveWith_shows : ∃ a left, v.serveWith nested r pool world = some (a, left) ∧
    a.header.values requestIdField = leftOf [idOf r world] o := by
  obtain ⟨left, hserve⟩ := serveWith_of_runChain hrun
  have hchain := (chain_shows hbefore hspares
    (s := ⟨v.prepare (v.acquire pool).1 r, world⟩) rfl).run hrun
  have hshows : (v.settle o s).response.Shows requestIdField (leftOf [idOf r world] o) :=
    Spares.settle hspares hchain
  exact ⟨_, left, hserve, hshows.header⟩

/-- When nothing else touches the field, the answer carries the id of the request exactly if no panic has
left the chain. After a panic the field is not there at all. -/
theorem id_survives_iff : ∃ a left, v.serveWith nested r pool world = some (a, left) ∧
    (a.header.values requestIdField = [idOf r world] ↔ ∀ text, o ≠ .panic text) ∧
    (∀ text, o = .panic text → a.header.values requestIdField = []) := by
  obtain ⟨a, left, hserve, hvalues⟩ := serveWith_shows hbefore hspares hrun
  refine ⟨a, left, hserve, ?_, ?_⟩
  · rw [hvalues]
    cases o <;> simp [leftOf]
  · rintro text rfl
    exact hvalues

end answered

/-- A service that gives ids and has one handler. -/
def identifying (h : Handler ε) : Service ε :=
  (({ before := [Middleware.requestId] } : Service ε).add .get "/" h []).1

theorem identifying_spares {h : Handler ε}
    (hh : ∀ values, Exchange.Keeps (fun s => s.response.Shows requestIdField values)
      (identifying h).desk h) :
    ({ identifying h with before := [] } : Service ε).Spares requestIdField := by
  intro values
  refine ⟨(registers_of_empty rfl).add .get "/" (hh values), by simp [identifying, add], ?_⟩
  intro e s hs
  rw [desk_onError (by rfl)]
  exact State.renderError_shows hs (by decide) _ e

def identified : Request := { Request.new "GET" "/" with header := [("x-request-id", "abc")] }

/-- Leaves a hook and fails. -/
def refusing : Exchange Unit Unit := do
  Exchange.modify (·.step (.before [.setHeader "x-b" "2"]))
  Exchange.fail (.http HttpError.forbidden)

theorem refusing_keeps_id : ∃ a left, (identifying refusing).serve 1 identified [] {} = some (a, left) ∧
    a.header.values requestIdField = ["abc"] := by
  have hkeeps (values : List String) : Exchange.Keeps
      (fun s => s.response.Shows requestIdField values) (identifying refusing).desk refusing := by
    refine Exchange.keeps_bind (Exchange.keeps_modify fun s hs => ?_) fun _ => Exchange.keeps_fail _
    refine State.step_shows hs ?_
    rw [WriterStep.Touches, Response.someTouches_iff]
    rintro ⟨step, hstep, htouches⟩
    obtain rfl := List.mem_singleton.mp hstep
    exact absurd htouches (by decide : ¬ name? "x-b" = name? requestIdField)
  have hend : ((identifying refusing).runChain ((identifying refusing).serve 0) identified [] {}).map
      (·.1.panicText?) = some none := by decide +kernel
  obtain ⟨⟨o, s, pool'⟩, hrun, hcalm⟩ := Option.map_eq_some_iff.mp hend
  obtain ⟨a, left, hserve, hid, -⟩ := id_survives_iff rfl (identifying_spares hkeeps) hrun
  refine ⟨a, left, hserve, hid.mpr fun text hpanic => ?_⟩
  cases hcalm.symm.trans (Outcome.panicText?_eq_some_iff.mpr hpanic)

def exploding : Handler Unit := Exchange.panic (some "boom")

theorem exploding_loses_id :
    ({ identifying exploding with before := [] } : Service Unit).Spares requestIdField ∧
      ∃ a left, (identifying exploding).serve 1 identified [] {} = some (a, left) ∧
        a.header.values requestIdField = [] := by
  have hspares := identifying_spares (h := exploding) fun _ => Exchange.keeps_panic _
  have hend : ((identifying exploding).runChain ((identifying exploding).serve 0) identified [] {}).map
      (·.1.panicText?) = some (some (some "boom")) := by decide +kernel
  obtain ⟨⟨o, s, pool'⟩, hrun, hpanic⟩ := Option.map_eq_some_iff.mp hend
  obtain rfl := Outcome.panicText?_eq_some_iff.mp hpanic
  exact ⟨hspares, serveWith_shows rfl hspares hrun⟩

end Service

end Switchboard
