import Mathlib.Data.List.Perm.Basic
import Switchboard.Proofs.Web.Commit

/-!
# The accounts of a writer

Whatever hooks do before a commit, the body of a writer is what has been appended to it, one payload
after the other, and the size is the length of the body. A write appends its payload once, behind what
the hooks that it sets off have written. An observer sees every payload that is appended after its
registration once, together with what is before it.
-/

namespace Switchboard

def WriterStep.payloads : WriterStep → List Bytes
  | .write body => [body]
  | _ => []

namespace WriterNote

def isSight : WriterNote → Bool
  | observed .. => true
  | _ => false

def isSightOf (o : String) : WriterNote → Bool
  | observed o' .. => o' == o
  | _ => false

end WriterNote

namespace Response

namespace Work

def appended : Work → List Bytes
  | .append body => [body]
  | _ => []

def observers : Work → List String
  | .step (.after o) => [o]
  | _ => []

/-- The payloads that the work is still to append itself: hooks that wait for it are apart. -/
def due : Work → List Bytes
  | .step s => s.payloads
  | .append body => [body]
  | .hookStepped _ | .hookStarted _ | .commit _ => []

end Work

/-! ## Accounts of what has been done -/

def payloads (past : List (Response × Work)) : List Bytes := past.flatMap (·.2.appended)

def observers (past : List (Response × Work)) : List String := past.flatMap (·.2.observers)

/-- What is seen of a piece of work. When a payload is appended, each observer that has been registered
sees the writer with all payloads up to this one. -/
def sighted (past : List (Response × Work)) (x : Response × Work) : List WriterNote :=
  x.2.appended.flatMap fun body => (observers past).map fun o =>
    let length := ((payloads past).flatten ++ body).length
    .observed o x.1.status length length

/-- What is seen of work that follows on some that has been done. -/
def sightings (past : List (Response × Work)) : List (Response × Work) → List WriterNote
  | [] => []
  | x :: xs => sighted past x ++ sightings (past ++ [x]) xs

/-- The writer is what the work that has been done makes of an empty one. -/
structure Keeps (r : Response) (past : List (Response × Work)) : Prop where
  body : r.body = (payloads past).flatten
  size : r.size = r.body.length
  after : r.after = observers past
  seen : r.journal.filter WriterNote.isSight = sightings [] past

theorem sightings_append (past xs ys : List (Response × Work)) :
    sightings past (xs ++ ys) = sightings past xs ++ sightings (past ++ xs) ys := by
  induction xs generalizing past with
  | nil => simp [sightings]
  | cons x xs ih => simp [sightings, ih]

theorem sightings_concat (past : List (Response × Work)) (x : Response × Work) :
    sightings [] (past ++ [x]) = sightings [] past ++ sighted past x := by
  simp [sightings_append, sightings]

theorem filter_isSight_observed (status : Nat) (n m : Nat) (os : List String) :
    (os.map fun o => WriterNote.observed o status n m).filter WriterNote.isSight =
      os.map fun o => .observed o status n m := by
  simp [List.filter_eq_self, WriterNote.isSight]

theorem Keeps.turn {r : Response} {past : List (Response × Work)} (h : r.Keeps past) (w : Work) :
    (turn r w).2.Keeps (past ++ [(r, w)]) := by
  have hidle {r' : Response} (hbody : r'.body = r.body) (hsize : r'.size = r.size)
      (hafter : r'.after = r.after ++ w.observers)
      (hseen : r'.journal.filter WriterNote.isSight = r.journal.filter WriterNote.isSight)
      (hw : w.appended = []) : r'.Keeps (past ++ [(r, w)]) := by
    refine ⟨?_, ?_, ?_, ?_⟩
    · simp [payloads, hw, hbody, h.body]
    · rw [hsize, hbody, h.size]
    · simp [observers, hafter, h.after]
    · simp [sightings_concat, sighted, hw, hseen, h.seen]
  cases w with
  | append body =>
    refine ⟨?_, ?_, ?_, ?_⟩
    · simp [Response.turn, append, payloads, Work.appended, h.body]
    · simp [Response.turn, append, h.size]
    · simp [Response.turn, append, observers, Work.observers, h.after]
    · simp only [Response.turn, append, sightings_concat, List.filter_append, h.seen,
        filter_isSight_observed, sighted, Work.appended, List.flatMap_cons, List.flatMap_nil,
        List.append_nil, h.after, h.size, h.body, List.length_append]
  | step s =>
    cases s with
    | after o => exact hidle rfl rfl rfl rfl rfl
    | writeHeader code =>
      simp only [Response.turn]
      split
      · exact hidle rfl rfl (by simp [note, Work.observers]) (by simp [note, WriterNote.isSight]) rfl
      · exact hidle rfl rfl (by simp [Work.observers]) rfl rfl
    | write body =>
      simp only [Response.turn]
      split <;> exact hidle rfl rfl (by simp [Work.observers]) rfl rfl
    | _ => exact hidle rfl rfl (by simp [Response.turn, Work.observers, setHeader, appendHeader,
        removeHeader, addBefore]) rfl rfl
  | hookStarted hook | hookStepped s =>
    exact hidle rfl rfl (by simp [Response.turn, note, Work.observers])
      (by simp [Response.turn, note, WriterNote.isSight]) rfl
  | commit code => exact hidle rfl rfl (by simp [Response.turn, commit, Work.observers]) rfl rfl

/-- The accounts are right at each piece of work of a run, and in the end. -/
theorem Keeps.run {r : Response} {past : List (Response × Work)} (h : r.Keeps past)
    (ws : List Work) :
    (∀ earlier x later, r.visits ws = earlier ++ x :: later → x.1.Keeps (past ++ earlier)) ∧
      (r.run ws).Keeps (past ++ r.visits ws) := by
  fun_induction visits r ws generalizing past with
  | case1 r =>
    rw [Response.run, List.append_nil]
    exact ⟨fun earlier x later hsplit => by simp at hsplit, h⟩
  | case2 r w ws ih =>
    obtain ⟨hvisits, hrun⟩ := ih (h.turn w)
    rw [Response.run]
    constructor
    · intro earlier x later hsplit
      cases earlier with
      | nil =>
        obtain ⟨rfl, -⟩ := List.cons.inj hsplit
        rwa [List.append_nil]
      | cons y earlier =>
        obtain ⟨rfl, hrest⟩ := List.cons.inj hsplit
        have := hvisits earlier x later hrest
        rwa [List.append_assoc] at this
    · rwa [List.append_assoc] at hrun

/-! ## Every observer sees once what is appended after its registration -/

/-- The sights that an observer is to have: one for each registration and each payload after it. -/
def awaited (o : String) : List (Response × Work) → Nat
  | [] => 0
  | x :: xs => x.2.observers.count o * (payloads xs).length + awaited o xs

theorem countP_sighted (o : String) (past : List (Response × Work)) (x : Response × Work) :
    (sighted past x).countP (·.isSightOf o) = (observers past).count o * x.2.appended.length := by
  cases hx : x.2.appended with
  | nil => simp [sighted, hx]
  | cons body rest =>
    have hrest : rest = [] := by
      unfold Work.appended at hx
      split at hx <;> simp_all
    simp [sighted, hx, hrest, List.countP_map, List.count, WriterNote.isSightOf, Function.comp_def]

theorem countP_sightings (o : String) (past xs : List (Response × Work)) :
    (sightings past xs).countP (·.isSightOf o) =
      (observers past).count o * (payloads xs).length + awaited o xs := by
  induction xs generalizing past with
  | nil => simp [sightings, payloads, awaited]
  | cons x xs ih =>
    have hobservers : (observers (past ++ [x])).count o =
        (observers past).count o + x.2.observers.count o := by simp [observers]
    have hpayloads : (payloads (x :: xs)).length = x.2.appended.length + (payloads xs).length := by
      simp [payloads]
    rw [sightings, List.countP_append, countP_sighted, ih, hobservers, hpayloads, awaited,
      Nat.mul_add, Nat.add_mul]
    omega

theorem Keeps.countP_isSightOf {r : Response} {past : List (Response × Work)} (h : r.Keeps past)
    (o : String) : r.journal.countP (·.isSightOf o) = awaited o past := by
  have hsight : ∀ n : WriterNote, (n.isSight && n.isSightOf o) = n.isSightOf o := by
    intro n
    cases n <;> rfl
  have hcount := countP_sightings o [] past
  rw [← h.seen, List.countP_filter] at hcount
  simpa [observers, Bool.and_comm, hsight] using hcount

/-! ## Every write appends once -/

theorem due_hookWork (hook : List WriterStep) :
    (hookWork hook).flatMap Work.due = hook.flatMap WriterStep.payloads := by
  have hsteps : (hook.flatMap fun s => [Work.step s, .hookStepped s]).flatMap Work.due =
      hook.flatMap WriterStep.payloads := by
    induction hook with
    | nil => rfl
    | cons s hook ih => simp [Work.due, ih]
  simp [hookWork, Work.due, hsteps]

theorem due_hooks (hooks : List (List WriterStep)) :
    (hooks.flatMap hookWork).flatMap Work.due = hooks.flatten.flatMap WriterStep.payloads := by
  induction hooks with
  | nil => rfl
  | cons hook hooks ih => simp [due_hookWork, ih]

theorem turn_due (r : Response) (w : Work) :
    w.appended ++ (turn r w).1.flatMap Work.due =
      w.due ++ ((turn r w).1.flatMap Work.started).flatten.flatMap WriterStep.payloads := by
  fun_cases turn r w <;>
    simp [Work.appended, Work.due, Work.started, WriterStep.payloads, due_hooks, started_hooks]

/-- Of the work that is given, and of the hooks that it sets off, each write appends its payload once. -/
theorem visits_payloads (r : Response) (ws : List Work) :
    (payloads (r.visits ws) ++
        (ws.flatMap Work.started).flatten.flatMap WriterStep.payloads).Perm
      (ws.flatMap Work.due ++
        ((r.visits ws).flatMap (·.2.started)).flatten.flatMap WriterStep.payloads) := by
  fun_induction visits r ws with
  | case1 r => simp [payloads]
  | case2 r w ws ih =>
    have hturn := turn_due r w
    rw [List.perm_iff_count] at ih ⊢
    intro body
    have hbody := ih body
    have hcount := congrArg (List.count body) hturn
    simp only [payloads, List.flatMap_cons, List.flatMap_append, List.flatten_append,
      List.count_append] at hbody hcount ⊢
    omega

/-- In a run from an empty writer all that is visible of the writes is in order: before each piece of
work and in the end, the body is made of the payloads that have been appended, its length is the size, and
the observers that have been registered have seen each payload once, with the body as it was then. The
payloads are those of the calls and of the hooks that have run. -/
theorem writer_accounts (calls : List WriterStep) :
    (∀ earlier r w later, visits {} (calls.map .step) = earlier ++ (r, w) :: later →
      r.Keeps earlier) ∧
    (calls.foldl step {}).Keeps (visits {} (calls.map .step)) ∧
    (∀ o, (calls.foldl step {}).journal.countP (·.isSightOf o) =
      awaited o (visits {} (calls.map .step))) ∧
    (payloads (visits {} (calls.map .step))).Perm
      (calls.flatMap WriterStep.payloads ++
        ((visits {} (calls.map .step)).flatMap (·.2.started)).flatten.flatMap
          WriterStep.payloads) := by
  have hstart : ({} : Response).Keeps [] := ⟨rfl, rfl, rfl, rfl⟩
  obtain ⟨hvisits, hrun⟩ := hstart.run (calls.map .step)
  rw [run_calls] at hrun
  refine ⟨fun earlier r w later hsplit => hvisits earlier (r, w) later hsplit, hrun,
    hrun.countP_isSightOf, ?_⟩
  have hpayloads := visits_payloads {} (calls.map .step)
  have hstarted : (calls.map Work.step).flatMap Work.started = [] := by simp [Work.started]
  have hdue : (calls.map Work.step).flatMap Work.due = calls.flatMap WriterStep.payloads := by
    simp [List.flatMap_map, Work.due]
  rw [hstarted, hdue] at hpayloads
  simpa using hpayloads

example :
    let calls : List WriterStep := [.after "a", .before [.write [0x32], .after "b"], .write [0x31]]
    (calls.foldl step {}).body = [0x32, 0x31] ∧
      (calls.foldl step {}).journal.filter (·.isSight) =
        [.observed "a" 200 1 1, .observed "a" 200 2 2, .observed "b" 200 2 2] := by
  constructor <;> cbv

end Response

end Switchboard
