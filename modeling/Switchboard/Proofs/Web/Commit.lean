import Mathlib.Data.List.Basic
import Switchboard.Web.Response

/-!
# Committing once

A writer that is committed refuses to be committed again, but it looks only once: the hooks that run
before a commit can commit themselves, and the outer commit then goes on as if they had not. So a commit
is the only one, and every hook finds the writer uncommitted, exactly when no hook commits but in the
last place and with the code of the commit that it runs for. No hook runs twice in any case.
-/

namespace Switchboard.Response

/-! ## All that is done -/

/-- Every piece of work that is done, each with the writer that it meets. -/
def visits (r : Response) : List Work → List (Response × Work)
  | [] => []
  | w :: ws => (r, w) :: visits (turn r w).2 ((turn r w).1 ++ ws)
termination_by ws => workWeight ws + hooksWeight r.before
decreasing_by
  have := turn_weight r w
  rw [workWeight_append, workWeight]
  omega

theorem run_append (r : Response) (ws us : List Work) : r.run (ws ++ us) = (r.run ws).run us := by
  fun_induction run r ws with
  | case1 r => rfl
  | case2 r w ws ih => rw [List.cons_append, run, ← List.append_assoc, ih]

theorem run_calls (r : Response) (calls : List WriterStep) :
    r.run (calls.map .step) = calls.foldl step r := by
  induction calls generalizing r with
  | nil => rw [List.map_nil, run, List.foldl_nil]
  | cons s calls ih =>
    rw [List.map_cons, ← List.singleton_append, run_append, ih, List.foldl_cons]
    rfl

/-! ## Hooks run once -/

def Work.started : Work → List (List WriterStep)
  | .hookStarted hook => [hook]
  | _ => []

def Work.registered : Work → List (List WriterStep)
  | .step (.before hook) => [hook]
  | _ => []

theorem started_hookWork (hook : List WriterStep) :
    (hookWork hook).flatMap Work.started = [hook] := by
  have hsteps : (hook.flatMap fun s => [Work.step s, .hookStepped s]).flatMap Work.started = [] := by
    induction hook with
    | nil => rfl
    | cons s hook ih => exact ih
  rw [hookWork, List.flatMap_cons, hsteps]
  rfl

theorem started_hooks (hooks : List (List WriterStep)) :
    (hooks.flatMap hookWork).flatMap Work.started = hooks := by
  induction hooks with
  | nil => rfl
  | cons hook hooks ih =>
    rw [List.flatMap_cons, List.flatMap_append, ih, started_hookWork, List.singleton_append]

theorem turn_hooks (r : Response) (w : Work) :
    (turn r w).2.before ++ (turn r w).1.flatMap Work.started = r.before ++ w.registered := by
  fun_cases turn r w <;>
    simp [Work.started, Work.registered, started_hooks, setHeader, appendHeader, removeHeader,
      addBefore, addAfter, note, commit, append]

/-- What has started and what still waits, taken together, is what has been registered. -/
theorem visits_hooks (r : Response) (ws : List Work) :
    ((r.visits ws).flatMap (·.2.started) ++ (r.run ws).before).Perm
      ((r.visits ws).flatMap (·.2.registered) ++ (r.before ++ ws.flatMap Work.started)) := by
  fun_induction visits r ws with
  | case1 r => simp [run]
  | case2 r w ws ih =>
    rw [run, List.flatMap_cons, List.flatMap_cons, List.flatMap_cons]
    rw [List.flatMap_append, ← List.append_assoc _ _ (ws.flatMap _), turn_hooks] at ih
    classical
    rw [List.perm_iff_count] at ih ⊢
    intro hook
    have := ih hook
    simp only [List.count_append] at this ⊢
    omega

/-! ## One commit -/

/-- From the first commit on the writer is committed with the code of that commit, and no hook starts
any more. -/
structure CommitsOnce (calls : List WriterStep) : Prop where
  settled : ∀ {earlier later : List (Response × Work)} {r : Response} {code : Nat},
    visits {} (calls.map .step) = earlier ++ (r, .commit code) :: later → r.committed = false →
      (∀ x ∈ later, x.1.committed = true ∧ x.1.status = code) ∧
        (calls.foldl step {}).committed = true ∧ (calls.foldl step {}).status = code
  early : ∀ {r : Response} {hook : List WriterStep},
    (r, .hookStarted hook) ∈ visits {} (calls.map .step) → r.committed = false

/-- Work that may be done on a writer that is committed with a status. -/
def Harmless (status : Nat) (w : Work) : Prop :=
  (∀ hook, w ≠ .hookStarted hook) ∧ ∀ code, w = .commit code → code = status

def Lawful (r : Response) (ws : List Work) : Prop :=
  ∀ x ∈ r.visits ws, x.1.committed = true → Harmless x.1.status x.2

theorem lawful_nil (r : Response) : Lawful r [] := by simp [Lawful, visits]

theorem lawful_cons (r : Response) (w : Work) (ws : List Work) :
    Lawful r (w :: ws) ↔
      (r.committed = true → Harmless r.status w) ∧ Lawful (turn r w).2 ((turn r w).1 ++ ws) := by
  unfold Lawful
  rw [visits, List.forall_mem_cons]

theorem turn_committed {r : Response} (h : r.committed = true) (w : Work) :
    (turn r w).2.committed = true ∧ (Harmless r.status w → (turn r w).2.status = r.status) ∧
      ∀ status, ∀ u ∈ (turn r w).1, Harmless status u := by
  fun_cases turn r w <;>
    simp_all [Harmless, setHeader, appendHeader, removeHeader, addBefore, addAfter, note, commit,
      append]

theorem lawful_committed {r : Response} (h : r.committed = true) (ws : List Work) :
    Lawful r ws ↔ ∀ w ∈ ws, Harmless r.status w := by
  fun_induction visits r ws with
  | case1 r => simp [lawful_nil]
  | case2 r w ws ih =>
    obtain ⟨hcommitted, hstatus, hleft⟩ := turn_committed h w
    rw [lawful_cons, ih hcommitted, List.forall_mem_cons, forall_prop_of_true h]
    refine and_congr_right fun hw => ?_
    rw [hstatus hw, List.forall_mem_append]
    exact and_iff_right (hleft r.status)

theorem visits_split {r r' : Response} {w : Work} {ws : List Work}
    {earlier later : List (Response × Work)} (h : r.visits ws = earlier ++ (r', w) :: later) :
    ∃ us, later = (turn r' w).2.visits us ∧ r.run ws = (turn r' w).2.run us := by
  induction earlier generalizing r ws with
  | nil =>
    cases ws with
    | nil => simp [visits] at h
    | cons u us =>
      rw [visits, List.nil_append, List.cons.injEq, Prod.mk.injEq] at h
      obtain ⟨⟨rfl, rfl⟩, rfl⟩ := h
      exact ⟨(turn r u).1 ++ us, rfl, by rw [run]⟩
  | cons x earlier ih =>
    cases ws with
    | nil => simp [visits] at h
    | cons u us =>
      rw [visits, List.cons_append, List.cons.injEq] at h
      rw [run]
      exact ih h.2

theorem Lawful.kept {r : Response} {ws : List Work} (hl : Lawful r ws) (h : r.committed = true) :
    (∀ x ∈ r.visits ws, x.1.committed = true ∧ x.1.status = r.status) ∧
      (r.run ws).committed = true ∧ (r.run ws).status = r.status := by
  fun_induction visits r ws with
  | case1 r => simp [run, h]
  | case2 r w ws ih =>
    obtain ⟨hcommitted, hstatus, _⟩ := turn_committed h w
    obtain ⟨hw, hrest⟩ := (lawful_cons r w ws).mp hl
    have := ih hrest hcommitted
    rw [hstatus (hw h)] at this
    rw [run, List.forall_mem_cons]
    exact ⟨⟨⟨h, rfl⟩, this.1⟩, this.2⟩

theorem turn_uncommitted {r : Response} (h : r.committed = false) {w : Work}
    (hw : ∀ code, w ≠ .commit code) : (turn r w).2.committed = false := by
  fun_cases turn r w <;>
    simp_all [setHeader, appendHeader, removeHeader, addBefore, addAfter, note, append]

theorem exists_first_commit {r : Response} {ws : List Work} (h : r.committed = false)
    {x : Response × Work} (hx : x ∈ r.visits ws) (hxc : x.1.committed = true) :
    ∃ earlier r' code later, r.visits ws = earlier ++ (r', .commit code) :: later ∧
      r'.committed = false ∧ x ∈ later := by
  fun_induction visits r ws with
  | case1 r => exact absurd hx List.not_mem_nil
  | case2 r w ws ih =>
    have hx : x ∈ (turn r w).2.visits ((turn r w).1 ++ ws) := by
      refine (List.mem_cons.mp hx).resolve_left ?_
      rintro rfl
      exact absurd hxc (by simp [h])
    by_cases hw : ∃ code, w = .commit code
    · obtain ⟨code, rfl⟩ := hw
      exact ⟨[], r, code, _, rfl, h, hx⟩
    · obtain ⟨earlier, r', code, later, hsplit, hr', hlater⟩ :=
        ih (turn_uncommitted h (not_exists.mp hw)) hx
      exact ⟨(r, w) :: earlier, r', code, later, by rw [hsplit, List.cons_append], hr', hlater⟩

/-- The writer at the start is one that is visited, or the one in the end. -/
theorem start_of_visits (P : Response → Prop) {r : Response} (ws : List Work)
    (hvisits : ∀ x ∈ r.visits ws, P x.1) (hrun : P (r.run ws)) : P r := by
  cases ws with
  | nil => rwa [run] at hrun
  | cons w ws =>
    rw [visits] at hvisits
    exact hvisits _ List.mem_cons_self

theorem commitsOnce_iff_lawful (calls : List WriterStep) :
    CommitsOnce calls ↔ Lawful {} (calls.map .step) := by
  constructor
  · rintro h ⟨r, w⟩ hx hr
    obtain ⟨earlier, r', code, later, hsplit, hr', hlater⟩ := exists_first_commit rfl hx hr
    obtain ⟨hkept, _, hfinal⟩ := h.settled hsplit hr'
    refine ⟨fun hook hw => ?_, fun code' hw => ?_⟩
    · subst hw
      rw [h.early hx] at hr
      cases hr
    · subst hw
      obtain ⟨mid, last, rfl⟩ := List.append_of_mem hlater
      obtain ⟨us, rfl, hrun⟩ := visits_split (hsplit.trans (List.append_assoc _ (_ :: mid) _).symm)
      have hnext : (r.commit code').status = code := by
        refine start_of_visits (·.status = code) us (fun x hx => (hkept x ?_).2) ?_
        · exact List.mem_append_right _ (List.mem_cons_of_mem _ hx)
        · rw [run_calls] at hrun
          exact (congrArg Response.status hrun).symm.trans hfinal
      exact hnext.trans (hkept _ hlater).2.symm
  · intro h
    refine ⟨fun {earlier later r code} hsplit hr => ?_, fun {r hook} hx => ?_⟩
    · obtain ⟨us, rfl, hrun⟩ := visits_split hsplit
      have hrest : Lawful (r.commit code) us := by
        intro x hx
        refine h x (hsplit ▸ ?_)
        exact List.mem_append_right _ (List.mem_cons_of_mem _ hx)
      rw [run_calls] at hrun
      rw [hrun]
      exact hrest.kept rfl
    · by_contra hr
      exact (h _ hx (by simpa using hr)).1 hook rfl

/-! ## Hooks that commit -/

end Switchboard.Response

namespace Switchboard

def WriterStep.code? : WriterStep → Option Nat
  | .writeHeader code => some code
  | .write _ => some 200
  | _ => none

def WriterStep.hooks : WriterStep → List (List WriterStep)
  | .before hook => [hook]
  | _ => []

namespace Response

/-- Hooks that leave a commit with `code` the only one. Either none of their steps commits, or the first
step that does belongs to the last hook, has the same code, and meets hooks of that kind: those that the
steps before it have registered. -/
inductive Orderly (code : Nat) : List (List WriterStep) → Prop
  | quiet {hooks : List (List WriterStep)} :
    (∀ s ∈ hooks.flatten, s.code? = none) → Orderly code hooks
  | last {front : List (List WriterStep)} {lead rest : List WriterStep} {s : WriterStep} :
    (∀ t ∈ front.flatten ++ lead, t.code? = none) → s.code? = some code →
    Orderly code ((front.flatten ++ lead).flatMap WriterStep.hooks) →
    Orderly code (front ++ [lead ++ s :: rest])

/-- Steps one after the other, with nothing or a report behind each. -/
def script (echo : WriterStep → List Work) (steps : List WriterStep) : List Work :=
  steps.flatMap fun s => .step s :: echo s

def Echo (echo : WriterStep → List Work) : Prop := ∀ s, ∀ w ∈ echo s, ∃ t, w = .hookStepped t

theorem turn_quiet {r : Response} (h : r.committed = false) {s : WriterStep} (hs : s.code? = none) :
    (turn r (.step s)).1 = [] ∧ (turn r (.step s)).2.committed = false ∧
      (turn r (.step s)).2.before = r.before ++ s.hooks := by
  cases s <;>
    simp_all [turn, WriterStep.code?, WriterStep.hooks, setHeader, appendHeader, removeHeader,
      addBefore, addAfter]

theorem turn_loud {r : Response} (h : r.committed = false) {s : WriterStep} {code : Nat}
    (hs : s.code? = some code) (ws : List Work) :
    ∃ us, (∀ u ∈ us, ∀ status, Harmless status u) ∧
      (Lawful r (.step s :: ws) ↔
        Lawful { r with before := [] } (r.before.flatMap hookWork ++ .commit code :: (us ++ ws))) := by
  cases s with
  | writeHeader c =>
    obtain rfl : c = code := Option.some.inj hs
    refine ⟨[], by simp, ?_⟩
    simp [lawful_cons, turn, h]
  | write body =>
    obtain rfl : 200 = code := Option.some.inj hs
    refine ⟨[.append body], by simp [Harmless], ?_⟩
    simp [lawful_cons, turn, h]
  | _ => cases hs

def Quiet (ws : List Work) (hooks : List (List WriterStep)) : Prop :=
  ∀ r : Response, r.committed = false → ∃ r' : Response, r'.committed = false ∧
    r'.before = r.before ++ hooks ∧ ∀ us, Lawful r (ws ++ us) ↔ Lawful r' us

theorem Quiet.nil : Quiet [] [] := fun r h => ⟨r, h, by simp, by simp⟩

theorem Quiet.append {ws us : List Work} {hooks more : List (List WriterStep)}
    (hws : Quiet ws hooks) (hus : Quiet us more) : Quiet (ws ++ us) (hooks ++ more) := by
  intro r h
  obtain ⟨r', h', hbefore', hlaw'⟩ := hws r h
  obtain ⟨r'', h'', hbefore'', hlaw''⟩ := hus r' h'
  refine ⟨r'', h'', by rw [hbefore'', hbefore', List.append_assoc], fun vs => ?_⟩
  rw [List.append_assoc, hlaw', hlaw'']

theorem quiet_turn {w : Work} {hooks : List (List WriterStep)}
    (hw : ∀ r : Response, r.committed = false → (turn r w).1 = [] ∧
      (turn r w).2.committed = false ∧ (turn r w).2.before = r.before ++ hooks) :
    Quiet [w] hooks := by
  intro r h
  obtain ⟨hnone, h', hbefore⟩ := hw r h
  refine ⟨_, h', hbefore, fun us => ?_⟩
  rw [List.singleton_append, lawful_cons, hnone]
  simp [h]

theorem quiet_reports {ws : List Work} (hws : ∀ w ∈ ws, ∃ t, w = .hookStepped t) : Quiet ws [] := by
  induction ws with
  | nil => exact .nil
  | cons w ws ih =>
    rw [List.forall_mem_cons] at hws
    obtain ⟨⟨t, rfl⟩, hws⟩ := hws
    have hone : Quiet [.hookStepped t] [] := quiet_turn fun _ h => ⟨rfl, h, (List.append_nil _).symm⟩
    exact hone.append (ih hws)

theorem quiet_script {echo : WriterStep → List Work} (hecho : Echo echo) {steps : List WriterStep}
    (hsteps : ∀ s ∈ steps, s.code? = none) :
    Quiet (script echo steps) (steps.flatMap WriterStep.hooks) := by
  induction steps with
  | nil => exact .nil
  | cons s steps ih =>
    rw [List.forall_mem_cons] at hsteps
    have hone := (quiet_turn fun _ h => turn_quiet h hsteps.1).append (quiet_reports (hecho s))
    rw [List.append_nil] at hone
    exact hone.append (ih hsteps.2)

def report (s : WriterStep) : List Work := [.hookStepped s]

theorem echo_report : Echo report := fun s _ hw => ⟨s, List.mem_singleton.mp hw⟩

theorem hookWork_eq (hook : List WriterStep) :
    hookWork hook = .hookStarted hook :: script report hook := rfl

theorem quiet_hookStarted (hook : List WriterStep) : Quiet [.hookStarted hook] [] :=
  quiet_turn fun _ h => ⟨rfl, h, (List.append_nil _).symm⟩

theorem quiet_hooks {hooks : List (List WriterStep)} (h : ∀ s ∈ hooks.flatten, s.code? = none) :
    Quiet (hooks.flatMap hookWork) (hooks.flatten.flatMap WriterStep.hooks) := by
  induction hooks with
  | nil => exact .nil
  | cons hook hooks ih =>
    rw [List.flatten_cons] at h ⊢
    rw [List.forall_mem_append] at h
    rw [List.flatMap_cons, List.flatMap_append, hookWork_eq]
    exact ((quiet_hookStarted hook).append (quiet_script echo_report h.1)).append (ih h.2)

theorem Quiet.lawful_loud {ws : List Work} {hooks : List (List WriterStep)} (hws : Quiet ws hooks)
    {r : Response} (h : r.committed = false) (hbefore : r.before = []) {s : WriterStep} {code : Nat}
    (hs : s.code? = some code) (us : List Work) :
    ∃ (r' : Response) (rest : List Work), r'.committed = false ∧ r'.before = [] ∧
      (∀ w ∈ rest, ∀ status, Harmless status w) ∧
      (Lawful r (ws ++ .step s :: us) ↔
        Lawful r' (hooks.flatMap hookWork ++ .commit code :: (rest ++ us))) := by
  obtain ⟨r', h', hbefore', hlaw⟩ := hws r h
  obtain ⟨rest, hrest, hloud⟩ := turn_loud h' hs us
  rw [hbefore', hbefore, List.nil_append] at hloud
  exact ⟨{ r' with before := [] }, rest, h', rfl, hrest, (hlaw _).trans hloud⟩

theorem Quiet.lawful_commit {ws : List Work} {hooks : List (List WriterStep)} (hws : Quiet ws hooks)
    {r : Response} (h : r.committed = false) (code : Nat) (us : List Work) :
    Lawful r (ws ++ .commit code :: us) ↔ ∀ u ∈ us, Harmless code u := by
  obtain ⟨r', h', _, hlaw⟩ := hws r h
  rw [hlaw, lawful_cons]
  simp only [h', Bool.false_eq_true, IsEmpty.forall_iff, true_and]
  exact lawful_committed rfl us

theorem harmless_script {echo : WriterStep → List Work} (hecho : Echo echo) (steps : List WriterStep)
    (status : Nat) : ∀ w ∈ script echo steps, Harmless status w := by
  intro w hw
  obtain ⟨s, _, hw⟩ := List.mem_flatMap.mp hw
  rcases List.mem_cons.mp hw with rfl | hw
  · simp [Harmless]
  · obtain ⟨t, rfl⟩ := hecho s w hw
    simp [Harmless]

theorem hooks_split (front behind : List (List WriterStep)) (lead rest : List WriterStep)
    (s : WriterStep) (ws : List Work) :
    (front ++ (lead ++ s :: rest) :: behind).flatMap hookWork ++ ws =
      (front.flatMap hookWork ++ .hookStarted (lead ++ s :: rest) :: script report lead) ++
        .step s :: (report s ++ script report rest ++ (behind.flatMap hookWork ++ ws)) := by
  simp [hookWork_eq, script]

theorem quiet_front {front : List (List WriterStep)} {lead : List WriterStep}
    (h : ∀ t ∈ front.flatten ++ lead, t.code? = none) (hook : List WriterStep) :
    Quiet (front.flatMap hookWork ++ .hookStarted hook :: script report lead)
      ((front.flatten ++ lead).flatMap WriterStep.hooks) := by
  rw [List.forall_mem_append] at h
  rw [List.flatMap_append]
  exact (quiet_hooks h.1).append ((quiet_hookStarted hook).append (quiet_script echo_report h.2))

theorem Orderly.lawful {code : Nat} {hooks : List (List WriterStep)} (ho : Orderly code hooks)
    {r : Response} (h : r.committed = false) (hbefore : r.before = []) {us : List Work}
    (hus : ∀ u ∈ us, Harmless code u) : Lawful r (hooks.flatMap hookWork ++ .commit code :: us) := by
  induction ho generalizing r us with
  | quiet hquiet => exact ((quiet_hooks hquiet).lawful_commit h code us).mpr hus
  | @last front lead rest s hquiet hs _ ih =>
    rw [hooks_split]
    obtain ⟨r', last, h', hbefore', hlast, hlaw⟩ :=
      (quiet_front hquiet _).lawful_loud h hbefore hs _
    refine hlaw.mpr (ih h' hbefore' ?_)
    simp only [List.flatMap_nil, List.nil_append, List.forall_mem_append, List.forall_mem_cons]
    refine ⟨fun w hw => hlast w hw code, ⟨?_, harmless_script echo_report rest code⟩, ?_, hus⟩
    · simp [report, Harmless]
    · simp [Harmless]

theorem quiet_or_split (steps : List WriterStep) :
    (∀ s ∈ steps, s.code? = none) ∨ ∃ lead s rest code, steps = lead ++ s :: rest ∧
      (∀ t ∈ lead, t.code? = none) ∧ s.code? = some code := by
  induction steps with
  | nil => simp
  | cons s steps ih =>
    cases hs : s.code? with
    | some code => exact .inr ⟨[], s, steps, code, rfl, by simp, hs⟩
    | none =>
      rcases ih with hquiet | ⟨lead, t, rest, code, rfl, hlead, ht⟩
      · exact .inl (List.forall_mem_cons.mpr ⟨hs, hquiet⟩)
      · exact .inr ⟨s :: lead, t, rest, code, rfl, List.forall_mem_cons.mpr ⟨hs, hlead⟩, ht⟩

theorem hooks_quiet_or_split (hooks : List (List WriterStep)) :
    (∀ s ∈ hooks.flatten, s.code? = none) ∨ ∃ front lead s rest behind code,
      hooks = front ++ (lead ++ s :: rest) :: behind ∧
      (∀ t ∈ front.flatten ++ lead, t.code? = none) ∧ s.code? = some code := by
  induction hooks with
  | nil => simp
  | cons hook hooks ih =>
    rw [List.flatten_cons, List.forall_mem_append]
    rcases quiet_or_split hook with hhook | ⟨lead, s, rest, code, rfl, hlead, hs⟩
    · rcases ih with hquiet | ⟨front, lead, s, rest, behind, code, rfl, hfront, hs⟩
      · exact .inl ⟨hhook, hquiet⟩
      · refine .inr ⟨hook :: front, lead, s, rest, behind, code, rfl, ?_, hs⟩
        rw [List.flatten_cons, List.append_assoc, List.forall_mem_append]
        exact ⟨hhook, hfront⟩
    · exact .inr ⟨[], lead, s, rest, hooks, code, rfl, hlead, hs⟩

theorem hooksWeight_steps (steps : List WriterStep) :
    hooksWeight (steps.flatMap WriterStep.hooks) < hookWeight steps := by
  induction steps with
  | nil => decide
  | cons s steps ih =>
    have hs : hooksWeight s.hooks ≤ stepWeight s := by
      cases s <;> simp [WriterStep.hooks, hooksWeight, stepWeight]
    rw [List.flatMap_cons, hooksWeight_append, hookWeight]
    omega

theorem hookWeight_append (lead rest : List WriterStep) :
    hookWeight lead ≤ hookWeight (lead ++ rest) := by
  induction lead with
  | nil => cases rest <;> simp only [List.nil_append, hookWeight] <;> omega
  | cons s lead ih =>
    rw [List.cons_append, hookWeight, hookWeight]
    omega

theorem hooksWeight_split (front behind : List (List WriterStep)) (lead rest : List WriterStep) :
    hooksWeight ((front.flatten ++ lead).flatMap WriterStep.hooks) <
      hooksWeight (front ++ (lead ++ rest) :: behind) := by
  have hlead := hooksWeight_steps lead
  have hrest := hookWeight_append lead rest
  rw [List.flatMap_append, hooksWeight_append, hooksWeight_append, hooksWeight]
  suffices hooksWeight (front.flatten.flatMap WriterStep.hooks) ≤ hooksWeight front by omega
  induction front with
  | nil => simp
  | cons hook front ih =>
    have := hooksWeight_steps hook
    rw [List.flatten_cons, List.flatMap_append, hooksWeight_append, hooksWeight]
    omega

theorem Orderly.of_lawful {code : Nat} {hooks : List (List WriterStep)} {r : Response}
    (h : r.committed = false) (hbefore : r.before = []) {us : List Work}
    (hlaw : Lawful r (hooks.flatMap hookWork ++ .commit code :: us)) :
    Orderly code hooks ∧ ∀ u ∈ us, Harmless code u := by
  induction hn : hooksWeight hooks using Nat.strongRecOn generalizing hooks r code us with
  | ind n ih =>
    subst hn
    rcases hooks_quiet_or_split hooks with
      hquiet | ⟨front, lead, s, rest, behind, inner, rfl, hquiet, hs⟩
    · exact ⟨.quiet hquiet, ((quiet_hooks hquiet).lawful_commit h code us).mp hlaw⟩
    · rw [hooks_split] at hlaw
      obtain ⟨r', last, h', hbefore', _, hsplit⟩ :=
        (quiet_front hquiet _).lawful_loud h hbefore hs _
      obtain ⟨hinner, hleft⟩ :=
        ih _ (hooksWeight_split front behind lead _) h' hbefore' (hsplit.mp hlaw) rfl
      simp only [List.forall_mem_append, List.forall_mem_cons] at hleft
      obtain ⟨_, _, hbehind, hcommit, hus⟩ := hleft
      obtain rfl : code = inner := hcommit.2 code rfl
      obtain rfl : behind = [] := by
        cases behind with
        | nil => rfl
        | cons hook behind =>
          exact absurd rfl ((hbehind (.hookStarted hook) (by simp [hookWork])).1 hook)
      exact ⟨.last hquiet hs hinner, hus⟩

def noEcho (_ : WriterStep) : List Work := []

theorem echo_noEcho : Echo noEcho := fun _ _ hw => absurd hw List.not_mem_nil

theorem script_noEcho (calls : List WriterStep) : script noEcho calls = calls.map .step := by
  simp [script, noEcho, List.map_eq_flatMap]

theorem lawful_quiet_calls {calls : List WriterStep} (h : ∀ s ∈ calls, s.code? = none) :
    Lawful {} (calls.map .step) := by
  obtain ⟨r, _, _, hlaw⟩ := quiet_script echo_noEcho h {} rfl
  rw [← script_noEcho, ← List.append_nil (script noEcho calls), hlaw]
  exact lawful_nil r

theorem lawful_calls {lead rest : List WriterStep} {s : WriterStep} {code : Nat}
    (hlead : ∀ t ∈ lead, t.code? = none) (hs : s.code? = some code) :
    Lawful {} ((lead ++ s :: rest).map .step) ↔ Orderly code (lead.flatMap WriterStep.hooks) := by
  have hstart : ({} : Response).committed = false := rfl
  obtain ⟨r, last, h, hbefore, hlast, hlaw⟩ :=
    (quiet_script echo_noEcho hlead).lawful_loud hstart rfl hs (rest.map .step)
  rw [List.map_append, List.map_cons, ← script_noEcho lead, hlaw]
  refine ⟨fun hl => (Orderly.of_lawful h hbefore hl).1, fun ho => ho.lawful h hbefore ?_⟩
  rw [List.forall_mem_append]
  exact ⟨fun w hw => hlast w hw code, by simp [Harmless]⟩

/-- The writer is committed once by a sequence of calls exactly when the hooks that are registered
before the first call that commits are orderly for its code. Whatever the hooks do, those that run and
those that still wait in the end are together those that were registered. -/
theorem commits_once_iff (calls : List WriterStep) :
    (CommitsOnce calls ↔ ∀ lead s rest code, calls = lead ++ s :: rest →
      (∀ t ∈ lead, t.code? = none) → s.code? = some code →
      Orderly code (lead.flatMap WriterStep.hooks)) ∧
    ((visits {} (calls.map .step)).flatMap (·.2.started) ++ (calls.foldl step {}).before).Perm
      ((visits {} (calls.map .step)).flatMap (·.2.registered)) := by
  refine ⟨(commitsOnce_iff_lawful calls).trans ⟨?_, fun h => ?_⟩, ?_⟩
  · rintro hlaw lead s rest code rfl hlead hs
    exact (lawful_calls hlead hs).mp hlaw
  · rcases quiet_or_split calls with hquiet | ⟨lead, s, rest, code, rfl, hlead, hs⟩
    · exact lawful_quiet_calls hquiet
    · exact (lawful_calls hlead hs).mpr (h lead s rest code rfl hlead hs)
  · have hhooks := visits_hooks {} (calls.map .step)
    have hcalls : (calls.map Work.step).flatMap Work.started = [] := by
      simp [Work.started]
    rw [run_calls, hcalls] at hhooks
    simpa using hhooks

/-- A hook that commits with a code of its own: the commit that it runs for overwrites the code, and the
hook after it starts too late. -/
def overruling : List WriterStep :=
  [.before [.writeHeader 201], .before [.look], .writeHeader 404]

def overruled : Response where
  status := 201
  committed := true
  journal := [.hookStarted false, .hookStepped .nothing]

theorem overruling_commits_twice :
    ¬ CommitsOnce overruling ∧ (overruling.foldl step {}).status = 404 := by
  have hlate : (overruled, .hookStarted [.look]) ∈ visits {} (overruling.map .step) := by
    simp [overruling, overruled, visits, turn, hookWork, addBefore, commit, note, resultOf]
  refine ⟨fun h => ?_, ?_⟩
  · cases h.early hlate
  · simp [overruling, step, run, turn, hookWork, addBefore, commit, note]

end Response

end Switchboard
