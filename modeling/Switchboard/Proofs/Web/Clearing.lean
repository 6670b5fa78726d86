import Switchboard.Proofs.Web.Layers
import Switchboard.Web.Controller

/-!
# Request objects are cleared

What a controller does for a request is a short list of calls: the object is verified, the method uses it,
its result is answered, and the object is cleared. However far this gets, the list ends with the one call
that clears; without an object there are no calls.
-/

namespace Switchboard

variable {ε ρ α β : Type}

inductive Outcome.Passes : Outcome α → Outcome β → Prop
  | error (e : Error) : Passes (.error e) (.error e)
  | panic (text : Option String) : Passes (.panic text) (.panic text)

theorem Outcome.passes_unit_iff {o o' : Outcome Unit} : o.Passes o' ↔ o = o' ∧ o' ≠ .ok () := by
  constructor
  · intro h
    cases h <;> exact ⟨rfl, by simp⟩
  · rintro ⟨rfl, h⟩
    cases o with
    | ok u => exact absurd rfl h
    | error e => exact .error e
    | panic text => exact .panic text

theorem Work.run_bind_iff {nested : Request → Pool → World ε → Option (Answer × Pool × World ε)}
    {x : Work ε α} {f : α → State ε → Work ε β} {pool : Pool} {o : Outcome β} {p : State ε × Pool} :
    (x.bind f).run nested pool = some (o, p) ↔
      (∃ o₁ : Outcome α, x.run nested pool = some (o₁, p) ∧ o₁.Passes o) ∨
      ∃ a s₁ pool₁, x.run nested pool = some (.ok a, s₁, pool₁) ∧
        (f a s₁).run nested pool₁ = some (o, p) := by
  rw [Work.bind, run_andThen_iff]
  constructor
  · rintro ⟨o₁, s₁, pool₁, hx, hrest⟩
    cases o₁ with
    | ok a => exact .inr ⟨a, s₁, pool₁, hx, hrest⟩
    | error e =>
      cases hrest
      exact .inl ⟨_, hx, .error e⟩
    | panic text =>
      cases hrest
      exact .inl ⟨_, hx, .panic text⟩
  · rintro (⟨o₁, hx, hpass⟩ | ⟨a, s₁, pool₁, hx, hrest⟩)
    · cases hpass with
      | error e => exact ⟨.error e, p.1, p.2, hx, rfl⟩
      | panic text => exact ⟨.panic text, p.1, p.2, hx, rfl⟩
    · exact ⟨.ok a, s₁, pool₁, hx, hrest⟩

theorem Exchange.bind_done (fields : Except String (List Field)) (read? : Json → Option α) (d : Desk ε)
    (s : State ε) : ∃ o s', bind fields read? d s = .done o s' := by
  unfold bind
  split
  · exact ⟨_, _, rfl⟩
  · exact ⟨_, _, rfl⟩
  · split <;> exact ⟨_, _, rfl⟩

/-! ## Calls -/

inductive Task (ε ρ : Type) where
  | method (run : ρ → Exchange ε Json)
  | action (run : ρ → Exchange ε Unit)

namespace Task

def work : Task ε ρ → ρ → Exchange ε Unit
  | method run, r => do Exchange.ok (← run r)
  | action run, r => run r

def handler (k : Contract ε ρ) : Task ε ρ → Handler ε
  | method run => k.method run
  | action run => k.action run

theorem handler_eq (k : Contract ε ρ) (t : Task ε ρ) : t.handler k = k.within t.work := by
  cases t <;> rfl

end Task

/-- A call of something that the application has supplied, with how it has ended. -/
inductive Call (ρ : Type) where
  | verify (r : ρ) (o : Outcome Unit)
  | method (r : ρ) (o : Outcome Json)
  | action (r : ρ) (o : Outcome Unit)
  | answer (data : Json) (o : Outcome Unit)
  | clear (r : ρ)

section calls

variable (nested : Request → Pool → World ε → Option (Answer × Pool × World ε)) (k : Contract ε ρ)
  (t : Task ε ρ) (d : Desk ε)

def Call.Leads (p q : State ε × Pool) : Call ρ → Prop
  | verify r o => (k.verify r d p.1).run nested p.2 = some (o, q)
  | method r o => ∃ run, t = .method run ∧ (run r d p.1).run nested p.2 = some (o, q)
  | action r o => ∃ run, t = .action run ∧ (run r d p.1).run nested p.2 = some (o, q)
  | answer data o => d.onOk data p.1 = (o, q.1) ∧ q.2 = p.2
  | clear r => q = (k.clear r p.1, p.2)

/-- The calls lead from one state and pool to the other, one after the other. -/
def Call.Lead (p q : State ε × Pool) : List (Call ρ) → Prop
  | [] => q = p
  | call :: calls => ∃ p', call.Leads nested k t d p p' ∧ Lead p' q calls

end calls

/-- The calls for an object, and how the whole ends: the method is called after the object has been
verified, a result is answered, and in the end the object is cleared. -/
inductive Course (r : ρ) : Task ε ρ → List (Call ρ) → Outcome Unit → Prop
  | refused {t o} : o ≠ .ok () → Course r t [.verify r o, .clear r] o
  | broken {run o o'} : Outcome.Passes o o' →
    Course r (.method run) [.verify r (.ok ()), .method r o, .clear r] o'
  | answered {run data o} :
    Course r (.method run) [.verify r (.ok ()), .method r (.ok data), .answer data o, .clear r] o
  | acted {run o} : Course r (.action run) [.verify r (.ok ()), .action r o, .clear r] o

namespace Course

variable {r : ρ} {t : Task ε ρ} {calls : List (Call ρ)} {o : Outcome Unit}

theorem ends_clear (h : Course r t calls o) :
    ∃ front, calls = front ++ [.clear r] ∧ ∀ r', Call.clear r' ∉ front := by
  cases h with
  | refused _ => exact ⟨[.verify r o], rfl, by simp⟩
  | @broken _ o' => exact ⟨[.verify r (.ok ()), .method r o'], rfl, by simp⟩
  | @answered _ data => exact ⟨[.verify r (.ok ()), .method r (.ok data), .answer data o], rfl, by simp⟩
  | acted => exact ⟨[.verify r (.ok ()), .action r o], rfl, by simp⟩

/-- Only the result of a method that has succeeded is answered. -/
theorem of_answer {data : Json} {o' : Outcome Unit} (h : Course r t calls o)
    (hcall : .answer data o' ∈ calls) : (∃ run, t = .method run) ∧ .method r (.ok data) ∈ calls := by
  cases h with
  | answered =>
    obtain ⟨rfl, -⟩ : data = _ ∧ o' = o := by simpa using hcall
    exact ⟨⟨_, rfl⟩, by simp⟩
  | _ => simp at hcall

/-- What is refused by the verification ends with that, without the method. -/
theorem of_refusal {o' : Outcome Unit} (h : Course r t calls o) (hcall : .verify r o' ∈ calls)
    (ho : o' ≠ .ok ()) : o = o' ∧ calls = [.verify r o', .clear r] := by
  cases h with
  | refused _ =>
    obtain rfl : o' = o := by simpa using hcall
    exact ⟨rfl, rfl⟩
  | _ => exact absurd (by simpa using hcall) ho

end Course

/-! ## Runs -/

section runs

variable {nested : Request → Pool → World ε → Option (Answer × Pool × World ε)} {k : Contract ε ρ}
  {t : Task ε ρ} {d : Desk ε} {pool : Pool} {o : Outcome Unit} {p q : State ε × Pool} {r : ρ}

theorem Contract.run_verified_iff {work : Exchange ε Unit} :
    ((do k.verify r; work : Exchange ε Unit) d p.1).run nested p.2 = some (o, q) ↔
      ((k.verify r d p.1).run nested p.2 = some (o, q) ∧ o ≠ .ok ()) ∨
      ∃ p', (k.verify r d p.1).run nested p.2 = some (.ok (), p') ∧
        (work d p'.1).run nested p'.2 = some (o, q) := by
  refine Work.run_bind_iff.trans (or_congr ?_ ?_)
  · simp only [Outcome.passes_unit_iff]
    constructor
    · rintro ⟨o₁, hrun, rfl, ho⟩
      exact ⟨hrun, ho⟩
    · rintro ⟨hrun, ho⟩
      exact ⟨o, hrun, rfl, ho⟩
  · constructor
    · rintro ⟨⟨⟩, s, pool, hverify, hwork⟩
      exact ⟨(s, pool), hverify, hwork⟩
    · rintro ⟨p', hverify, hwork⟩
      exact ⟨(), p'.1, p'.2, hverify, hwork⟩

theorem Task.run_method_iff {run : ρ → Exchange ε Json} :
    ((Task.method run).work r d p.1).run nested p.2 = some (o, q) ↔
      (∃ o₁, (run r d p.1).run nested p.2 = some (o₁, q) ∧ o₁.Passes o) ∨
      ∃ data p', (run r d p.1).run nested p.2 = some (.ok data, p') ∧
        d.onOk data p'.1 = (o, q.1) ∧ q.2 = p'.2 := by
  refine Work.run_bind_iff.trans (or_congr_right ?_)
  constructor
  · rintro ⟨data, s, pool, hrun, hanswer⟩
    refine ⟨data, (s, pool), hrun, ?_⟩
    cases hanswer
    exact ⟨rfl, rfl⟩
  · rintro ⟨data, p', hrun, hanswer, hpool⟩
    refine ⟨data, p'.1, p'.2, hrun, ?_⟩
    show (Work.done (d.onOk data p'.1).1 (d.onOk data p'.1).2).run nested p'.2 = some (o, q)
    rw [hanswer, ← hpool]
    rfl

/-- The verification and the work, cleared after, are the calls of a course. -/
theorem Task.run_course_iff :
    (∃ p', ((do k.verify r; t.work r : Exchange ε Unit) d p.1).run nested p.2 = some (o, p') ∧
        q = (k.clear r p'.1, p'.2)) ↔
      ∃ calls, Course r t calls o ∧ Call.Lead nested k t d p q calls := by
  constructor
  · rintro ⟨p', hrun, rfl⟩
    rcases Contract.run_verified_iff.mp hrun with ⟨hverify, ho⟩ | ⟨p₁, hverify, hwork⟩
    · exact ⟨_, .refused ho, p', hverify, _, rfl, rfl⟩
    · cases t with
      | method run =>
        rcases run_method_iff.mp hwork with ⟨o₁, hrun, hpass⟩ | ⟨data, p₂, hrun, hanswer⟩
        · exact ⟨_, .broken hpass, p₁, hverify, p', ⟨run, rfl, hrun⟩, _, rfl, rfl⟩
        · exact ⟨_, .answered, p₁, hverify, p₂, ⟨run, rfl, hrun⟩, p', hanswer, _, rfl, rfl⟩
      | action run => exact ⟨_, .acted, p₁, hverify, p', ⟨run, rfl, hwork⟩, _, rfl, rfl⟩
  · rintro ⟨calls, hcourse, hlead⟩
    cases hcourse with
    | refused ho =>
      obtain ⟨p', hverify, _, rfl, rfl⟩ := hlead
      exact ⟨p', Contract.run_verified_iff.mpr (.inl ⟨hverify, ho⟩), rfl⟩
    | broken hpass =>
      obtain ⟨p₁, hverify, p', ⟨_, heq, hrun⟩, _, rfl, rfl⟩ := hlead
      cases heq
      have hwork := run_method_iff.mpr (.inl ⟨_, hrun, hpass⟩)
      exact ⟨p', Contract.run_verified_iff.mpr (.inr ⟨p₁, hverify, hwork⟩), rfl⟩
    | answered =>
      obtain ⟨p₁, hverify, p₂, ⟨_, heq, hrun⟩, p', hanswer, _, rfl, rfl⟩ := hlead
      cases heq
      have hwork := run_method_iff.mpr (.inr ⟨_, p₂, hrun, hanswer⟩)
      exact ⟨p', Contract.run_verified_iff.mpr (.inr ⟨p₁, hverify, hwork⟩), rfl⟩
    | acted =>
      obtain ⟨p₁, hverify, p', ⟨_, heq, hrun⟩, _, rfl, rfl⟩ := hlead
      cases heq
      exact ⟨p', Contract.run_verified_iff.mpr (.inr ⟨p₁, hverify, hrun⟩), rfl⟩

/-- Without an object the work ends as binding does; with one it is cleared after the work. -/
theorem Contract.run_within_iff {work : ρ → Exchange ε Unit} {s : State ε} :
    (k.within work d s).run nested pool = some (o, q) ↔
      (∃ o₁ s₁, Exchange.bind k.fields k.read? d s = .done o₁ s₁ ∧ o₁.Passes o ∧ q = (s₁, pool)) ∨
      ∃ r s₁ p, Exchange.bind k.fields k.read? d s = .done (.ok r) s₁ ∧
        ((do k.verify r; work r : Exchange ε Unit) d s₁).run nested pool = some (o, p) ∧
        q = (k.clear r p.1, p.2) := by
  obtain ⟨o₁, s₁, hbind⟩ := Exchange.bind_done k.fields k.read? d s
  have hwithin : k.within work d s = (Exchange.bind k.fields k.read? d s).bind fun r s =>
      ((do k.verify r; work r : Exchange ε Unit).finally_ (k.clear r)) d s := rfl
  rw [hwithin, Work.run_bind_iff, hbind]
  refine or_congr ⟨?_, ?_⟩ ⟨?_, ?_⟩
  · rintro ⟨o₂, hdone, hpass⟩
    cases hdone
    exact ⟨o₁, s₁, rfl, hpass, rfl⟩
  · rintro ⟨o₂, s₂, hdone, hpass, rfl⟩
    cases hdone
    exact ⟨o₁, rfl, hpass⟩
  · rintro ⟨r, s₂, pool₂, hdone, hfinally⟩
    cases hdone
    obtain ⟨o₂, s₂, pool₂, hwork, hclear⟩ := Work.run_andThen_iff.mp hfinally
    cases hclear
    exact ⟨r, s₁, (s₂, pool₂), rfl, hwork, rfl⟩
  · rintro ⟨r, s₂, p, hdone, hwork, rfl⟩
    cases hdone
    exact ⟨r, s₁, pool, rfl, Work.run_andThen_iff.mpr ⟨o, p.1, p.2, hwork, rfl⟩⟩

/-- A controller leaves a method either without an object, as binding has ended, or by a course: the calls
for the object that was bound, one after the other. A course ends with the one call that clears the object;
it answers only the result of a method that has succeeded; and what the verification refuses is what the
method is left with. -/
theorem Controller.run_courses {c : Controller ε} {name : String} (hc : c.find? name = some (t.handler k))
    (s : State ε) :
    ((c.run name d s).run nested pool = some (o, q) ↔
      (∃ o₁ s₁, Exchange.bind k.fields k.read? d s = .done o₁ s₁ ∧ o₁.Passes o ∧ q = (s₁, pool)) ∨
      ∃ r s₁ calls, Exchange.bind k.fields k.read? d s = .done (.ok r) s₁ ∧ Course r t calls o ∧
        Call.Lead nested k t d (s₁, pool) q calls) ∧
    ∀ r calls, Course r t calls o →
      (∃ front, calls = front ++ [.clear r] ∧ ∀ r', Call.clear r' ∉ front) ∧
      (∀ data o', .answer data o' ∈ calls → (∃ run, t = .method run) ∧ .method r (.ok data) ∈ calls) ∧
      ∀ o', .verify r o' ∈ calls → o' ≠ .ok () → o = o' ∧ calls = [.verify r o', .clear r] := by
  constructor
  · have hrun : c.run name = k.within t.work := by
      rw [Controller.run, hc, Task.handler_eq]
    rw [hrun, Contract.run_within_iff]
    refine or_congr_right ⟨?_, ?_⟩
    · rintro ⟨r, s₁, p, hbind, hwork, hclear⟩
      obtain ⟨calls, hcourse, hlead⟩ := Task.run_course_iff (p := (s₁, pool)).mp ⟨p, hwork, hclear⟩
      exact ⟨r, s₁, calls, hbind, hcourse, hlead⟩
    · rintro ⟨r, s₁, calls, hbind, hcourse, hlead⟩
      obtain ⟨p, hwork, hclear⟩ := Task.run_course_iff.mpr ⟨calls, hcourse, hlead⟩
      exact ⟨r, s₁, p, hbind, hwork, hclear⟩
  · intro r calls h
    exact ⟨h.ends_clear, fun _ _ => h.of_answer, fun _ => h.of_refusal⟩

end runs

def guestContract : Contract String String where
  fields := .ok []
  read? _ := some "guest"
  verify _ := Exchange.report (.app "verified")
  clear _ s := s.report (.app "cleared")

def panickingLogin : Task String String := .method fun _ => Exchange.panic (some "no store")

def guestController : Controller String := ⟨[("login", panickingLogin.handler guestContract)]⟩

theorem run_courses_guest :
    guestController.find? "login" = some (panickingLogin.handler guestContract) ∧
      ∃ q, (guestController.run "login" (Desk.standard false) { context := {} }).run
          (fun _ _ _ => none) [] = some (.panic (some "no store"), q) ∧
        q.1.world.journal = [.app "verified", .app "cleared"] := by
  have hfind : guestController.find? "login" = some (panickingLogin.handler guestContract) := rfl
  have hbody : Binding.bodyObject {} = .ok [] := rfl
  have hbind : Exchange.bind guestContract.fields guestContract.read? (Desk.standard false)
      ({ context := {} } : State String) = .done (.ok "guest") { context := {} } := by
    simp [Exchange.bind, Context.bind, Context.bindObject, hbody, guestContract, Binding.bindFields,
      State.withContext]
  let met : State String := { context := {}, world := { journal := [.app "verified"] } }
  have hverify : (guestContract.verify "guest" (Desk.standard false) { context := {} }).run
      (fun _ _ _ => none) [] = some (.ok (), met, []) := rfl
  have hmethod : Call.Leads (fun _ _ _ => none) guestContract panickingLogin (Desk.standard false)
      (met, []) (met, []) (.method "guest" (.panic (some "no store"))) :=
    ⟨fun _ => Exchange.panic (some "no store"), rfl, rfl⟩
  have hlead : Call.Lead (fun _ _ _ => none) guestContract panickingLogin (Desk.standard false)
      ({ context := {} }, []) (guestContract.clear "guest" met, [])
      [.verify "guest" (.ok ()), .method "guest" (.panic (some "no store")), .clear "guest"] :=
    ⟨(met, []), hverify, (met, []), hmethod, (guestContract.clear "guest" met, []), rfl, rfl⟩
  have hrun := (Controller.run_courses hfind { context := {} }).1.mpr
    (.inr ⟨"guest", { context := {} }, _, hbind, .broken (.panic (some "no store")), hlead⟩)
  exact ⟨hfind, _, hrun, rfl⟩

end Switchboard
