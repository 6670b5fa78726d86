import Mathlib.Data.List.Basic
import Switchboard.Net.Lifecycle

/-!
# Wishes to stop

Of several wishes that are uttered before a look, the last one counts, and no wish is heard before
somebody watches for it or after one has been obeyed. So a wish can get lost or be weakened, and a
run obeys them as they are meant exactly when none of this happens in it.
-/

namespace Switchboard.Lifecycle

variable {l l' : Lifecycle} {e : Event} {es : List Event}

/-! ## Steps -/

def Event.wish? : Event → Option Stop
  | .shutdown => some .graceful
  | .close => some .immediate
  | _ => none

inductive Moves (l : Lifecycle) : Event → Lifecycle → Prop
  | wish {e : Event} {how : Stop} (h : e.wish? = some how) :
    Moves l e { l with stop := how, unseen := true }
  | begin (hphase : l.phase = .invoked) :
    Moves l .begin { l with stop := .running, phase := .starting }
  | watch (hphase : l.phase = .starting) :
    Moves l .watch { l with unseen := false, phase := .accepting }
  | accept {c : Nat} (hphase : l.phase = .accepting) (hready : l.ready = true)
      (hc : c ∉ l.inFlight) :
    Moves l (.accept c) { l with ready := false, inFlight := l.inFlight ++ [c] }
  | finish {c : Nat} (hc : c ∈ l.inFlight) :
    Moves l (.finish c) { l with inFlight := l.inFlight.erase c }
  | look (hphase : l.phase = .accepting) (hunseen : l.unseen = false) :
    Moves l .observe { l with ready := true }
  | overlook (hphase : l.phase = .accepting) (hunseen : l.unseen = true)
      (hstop : l.stop = .running) : Moves l .observe { l with unseen := false, ready := false }
  | drain (hphase : l.phase = .accepting) (hunseen : l.unseen = true) (hstop : l.stop = .graceful) :
    Moves l .observe { l with unseen := false, ready := false, phase := .draining }
  | abort (hphase : l.phase = .accepting) (hunseen : l.unseen = true)
      (hstop : l.stop = .immediate) :
    Moves l .observe { l with
      unseen := false
      ready := false
      phase := .draining
      inFlight := []
      aborted := l.aborted ++ l.inFlight }
  | drained (hphase : l.phase = .draining) (hnone : l.inFlight = []) :
    Moves l .drained { l with phase := .finished }

theorem step_moves (h : l.step e = some l') : l.Moves e l' := by
  revert h
  fun_cases step l e <;> intro h <;> cases h
  · exact .wish rfl
  · exact .wish rfl
  · exact .begin ‹_›
  · exact .watch ‹_›
  · rename_i hc
    exact .accept hc.1 hc.2.1 hc.2.2
  · exact .finish ‹_›
  · exact .overlook ‹_› ‹_› ‹_›
  · exact .drain ‹_› ‹_› ‹_›
  · exact .abort ‹_› ‹_› ‹_›
  · exact .look ‹_› (by simpa using ‹¬l.unseen = true›)
  · rename_i hc
    exact .drained hc.1 hc.2

theorem run_cons (h : l.run (e :: es) = some l') : ∃ l₁, l.Moves e l₁ ∧ l₁.run es = some l' := by
  obtain ⟨l₁, hstep, hrun⟩ := Option.bind_eq_some_iff.mp h
  exact ⟨l₁, step_moves hstep, hrun⟩

theorem run_append {es es' : List Event} :
    l.run (es ++ es') = some l' ↔ ∃ l₁, l.run es = some l₁ ∧ l₁.run es' = some l' := by
  induction es generalizing l with
  | nil => simp [run]
  | cons e es ih =>
    simp only [List.cons_append, run, Option.bind_eq_some_iff, ih]
    constructor
    · rintro ⟨l₁, hstep, l₂, hes, hes'⟩
      exact ⟨l₂, ⟨l₁, hstep, hes⟩, hes'⟩
    · rintro ⟨l₂, ⟨l₁, hstep, hes⟩, hes'⟩
      exact ⟨l₁, hstep, l₂, hes, hes'⟩

/-- A connection is let in only while connections are accepted, and none is left at the end. -/
structure Sound (l : Lifecycle) : Prop where
  ready : l.ready = true → l.phase = .accepting
  finished : l.phase = .finished → l.inFlight = []
  fresh : l.phase = .invoked ∨ l.phase = .starting → l.inFlight = [] ∧ l.aborted = []

theorem sound_moves (hl : l.Sound) (h : l.Moves e l') : l'.Sound := by
  obtain ⟨hready, hfinished, hfresh⟩ := hl
  cases h with
  | wish => exact ⟨hready, hfinished, hfresh⟩
  | begin hphase => exact ⟨by simp_all, by simp, fun _ => hfresh (.inl hphase)⟩
  | finish hc =>
    exact ⟨hready, fun hphase => absurd hc (by simp [hfinished hphase]),
      fun hphase => absurd hc (by simp [hfresh hphase])⟩
  | drained hphase hnone => exact ⟨by simp_all, fun _ => hnone, by simp⟩
  | watch hphase | accept hphase | look hphase | overlook hphase | drain hphase | abort hphase =>
    exact ⟨by simp_all, by simp_all, by simp_all⟩

theorem sound_run (hl : l.Sound) (h : l.run es = some l') : l'.Sound := by
  induction es generalizing l with
  | nil =>
    cases h
    exact hl
  | cons e es ih =>
    obtain ⟨l₁, hmoves, hrun⟩ := run_cons h
    exact ih (sound_moves hl hmoves) hrun

theorem sound_initial : Sound {} := ⟨by simp, by simp, fun _ => ⟨rfl, rfl⟩⟩

/-! ## What is in flight -/

/-- Each connection that was accepted is in flight, dropped or finished. -/
theorem tally_moves (h : l.Moves e l') (c : Nat) :
    l'.inFlight.count c + l'.aborted.count c + [e].count (.finish c) =
      l.inFlight.count c + l.aborted.count c + [e].count (.accept c) := by
  cases h with
  | @wish e how hwish =>
    have hfinish : e ≠ .finish c := by
      rintro rfl
      cases hwish
    have haccept : e ≠ .accept c := by
      rintro rfl
      cases hwish
    simp [hfinish, haccept]
  | @accept c' =>
    by_cases hc : c' = c
    · simp [hc, Nat.add_right_comm]
    · simp [hc]
  | @finish c' hc' =>
    by_cases hc : c' = c
    · subst hc
      have hpos := List.count_pos_iff.mpr hc'
      have haccept : [Event.finish c'].count (.accept c') = 0 := List.count_eq_zero.mpr (by simp)
      show (l.inFlight.erase c').count c' + l.aborted.count c' + _ = _
      rw [List.count_erase_self, List.count_singleton_self, haccept]
      omega
    · simp [hc, Ne.symm hc]
  | abort => simp [Nat.add_comm]
  | _ => simp

theorem tally_run (h : l.run es = some l') (c : Nat) :
    l'.inFlight.count c + l'.aborted.count c + es.count (.finish c) =
      l.inFlight.count c + l.aborted.count c + es.count (.accept c) := by
  induction es generalizing l with
  | nil =>
    cases h
    rfl
  | cons e es ih =>
    obtain ⟨l₁, hmoves, hrun⟩ := run_cons h
    have hhead := tally_moves hmoves c
    have htail := ih hrun
    rw [List.count_singleton, List.count_singleton] at hhead
    rw [List.count_cons, List.count_cons]
    omega

/-- All connections that were accepted have finished. -/
def Idle (es : List Event) : Prop := ∀ c, es.count (.finish c) = es.count (.accept c)

theorem idle_iff (h : run {} es = some l) (hl : l.aborted = []) : Idle es ↔ l.inFlight = [] := by
  have htally (c : Nat) := tally_run h c
  simp only [hl, List.count_nil, Nat.add_zero, Nat.zero_add] at htally
  constructor
  · intro hidle
    refine List.eq_nil_iff_forall_not_mem.mpr fun c => List.count_eq_zero.mp ?_
    have hc := htally c
    rw [hidle c] at hc
    omega
  · intro hnone c
    have hc := htally c
    rw [hnone] at hc
    simpa using hc

/-! ## After a wish has been obeyed -/

def Stopped (l : Lifecycle) : Prop := l.phase = .draining ∨ l.phase = .finished

theorem stopped_moves (hl : l.Stopped) (h : l.Moves e l') :
    l'.Stopped ∧ e ≠ .observe ∧ (∀ c, e ≠ .accept c) ∧ (l.inFlight = [] → l'.inFlight = []) ∧
      l'.aborted = l.aborted := by
  have hne (p : Phase) (hp : p ≠ .draining) (hp' : p ≠ .finished) : l.phase ≠ p := by
    rintro rfl
    rcases hl with hl | hl
    · exact hp hl
    · exact hp' hl
  cases h with
  | wish h =>
    refine ⟨hl, ?_, ?_, id, rfl⟩
    · rintro rfl
      cases h
    · rintro c rfl
      cases h
  | finish hc => exact ⟨hl, by simp, by simp, fun hnone => absurd hc (by simp [hnone]), rfl⟩
  | drained hphase hnone => exact ⟨.inr rfl, by simp, by simp, id, rfl⟩
  | begin hphase | watch hphase | accept hphase | look hphase | overlook hphase | drain hphase
    | abort hphase => exact absurd hphase (hne _ (by decide) (by decide))

theorem stopped_run (hl : l.Stopped) (h : l.run es = some l') :
    l'.Stopped ∧ .observe ∉ es ∧ (∀ c, .accept c ∉ es) ∧ (l.inFlight = [] → l'.inFlight = []) ∧
      l'.aborted = l.aborted := by
  induction es generalizing l with
  | nil =>
    cases h
    exact ⟨hl, by simp, by simp, id, rfl⟩
  | cons e es ih =>
    obtain ⟨l₁, hmoves, hrun⟩ := run_cons h
    obtain ⟨hl₁, hobserve, haccept, hnone, haborted⟩ := stopped_moves hl hmoves
    obtain ⟨hl', hobserves, haccepts, hnones, haborteds⟩ := ih hl₁ hrun
    refine ⟨hl', ?_, fun c => ?_, hnones ∘ hnone, haborteds.trans haborted⟩
    · simp [hobserves, hobserve.symm]
    · simp [haccepts c, (haccept c).symm]

/-- A look has made of a wish what it asks for. -/
structure Heeds (l : Lifecycle) (how : Stop) : Prop where
  stopped : l.Stopped
  drops : how = .immediate → l.inFlight = []
  keeps : how = .graceful → l.aborted = []

theorem heeds_run {how : Stop} (hl : l.Heeds how) (h : l.run es = some l') : l'.Heeds how := by
  obtain ⟨hstopped, -, -, hnone, haborted⟩ := stopped_run hl.stopped h
  exact ⟨hstopped, hnone ∘ hl.drops, fun hhow => haborted.trans (hl.keeps hhow)⟩

/-! ## Before wishes are watched for -/

structure Early (l : Lifecycle) : Prop where
  phase : l.phase = .invoked ∨ l.phase = .starting
  ready : l.ready = false
  inFlight : l.inFlight = []

theorem early_moves (hl : l.Early) (h : l.Moves e l') (he : e ≠ .watch) :
    l'.Early ∧ e ≠ .observe ∧ ∀ c, e ≠ .accept c := by
  have hne (p : Phase) (hp : p ≠ .invoked) (hp' : p ≠ .starting) : l.phase ≠ p := by
    rintro rfl
    rcases hl.phase with hl | hl
    · exact hp hl
    · exact hp' hl
  cases h with
  | wish h =>
    refine ⟨⟨hl.phase, hl.ready, hl.inFlight⟩, ?_, ?_⟩
    · rintro rfl
      cases h
    · rintro c rfl
      cases h
  | begin hphase => exact ⟨⟨.inr rfl, hl.ready, hl.inFlight⟩, by simp, by simp⟩
  | watch => exact absurd rfl he
  | finish hc => exact absurd hc (by simp [hl.inFlight])
  | accept hphase | look hphase | overlook hphase | drain hphase | abort hphase | drained hphase =>
    exact absurd hphase (hne _ (by decide) (by decide))

theorem early_run (hl : l.Early) (h : l.run es = some l') (hes : .watch ∉ es) :
    l'.Early ∧ .observe ∉ es ∧ ∀ c, .accept c ∉ es := by
  induction es generalizing l with
  | nil =>
    cases h
    exact ⟨hl, by simp, by simp⟩
  | cons e es ih =>
    obtain ⟨l₁, hmoves, hrun⟩ := run_cons h
    obtain ⟨he, hes⟩ : .watch ≠ e ∧ .watch ∉ es := by simpa using hes
    obtain ⟨hl₁, hobserve, haccept⟩ := early_moves hl hmoves he.symm
    obtain ⟨hl', hobserves, haccepts⟩ := ih hl₁ hrun hes
    refine ⟨hl', ?_, fun c => ?_⟩
    · simp [hobserves, hobserve.symm]
    · simp [haccepts c, (haccept c).symm]

theorem early_initial : Early {} := ⟨.inl rfl, rfl, rfl⟩

/-! ## While connections are accepted -/

def pending (l : Lifecycle) : Option Stop := if l.unseen then some l.stop else none

def lastWish (es : List Event) : Option Stop := (es.filterMap Event.wish?).getLast?

theorem lastWish_cons (e : Event) (es : List Event) :
    lastWish (e :: es) = (lastWish es).or e.wish? := by
  unfold lastWish
  cases he : e.wish? with
  | none => simp [he]
  | some how => simp [he, List.getLast?_cons]

theorem wish?_ne_running (e : Event) : e.wish? ≠ some .running := by
  cases e <;> simp [Event.wish?]

theorem lastWish_ne_running (es : List Event) : lastWish es ≠ some .running := by
  intro h
  obtain ⟨e, -, he⟩ := List.mem_filterMap.mp (List.mem_of_getLast? h)
  exact wish?_ne_running e he

theorem lastWish_of_mem (he : e ∈ es) (hwish : e.wish?.isSome = true) :
    ∃ how, lastWish es = some how := by
  obtain ⟨how, hhow⟩ := Option.isSome_iff_exists.mp hwish
  have hmem : how ∈ es.filterMap Event.wish? := List.mem_filterMap.mpr ⟨e, he, hhow⟩
  exact ⟨_, List.getLast?_eq_some_getLast (List.ne_nil_of_mem hmem)⟩

/-- Connections are accepted and none has been dropped, and no wish is waiting that asks for nothing. -/
structure Accepting (l : Lifecycle) : Prop where
  phase : l.phase = .accepting
  aborted : l.aborted = []
  pending : l.pending ≠ some .running

theorem accepting_moves (hl : l.Accepting) (h : l.Moves e l') :
    l'.Accepting ∧ l'.pending = e.wish?.or l.pending ∧ (e = .observe → l.pending = none) ∨
      ∃ how, e = .observe ∧ l.pending = some how ∧ l'.Heeds how := by
  obtain ⟨hphase, haborted, hpending⟩ := hl
  cases h with
  | @wish e how hwish =>
    refine .inl ⟨⟨hphase, haborted, ?_⟩, by simp [pending, hwish], ?_⟩
    · rintro hrunning
      refine wish?_ne_running e (hwish.trans ?_)
      simpa [pending] using hrunning
    · rintro rfl
      cases hwish
  | begin h => simp [hphase] at h
  | watch h => simp [hphase] at h
  | accept => exact .inl ⟨⟨hphase, haborted, hpending⟩, rfl, by simp⟩
  | finish => exact .inl ⟨⟨hphase, haborted, hpending⟩, rfl, by simp⟩
  | look _ hunseen =>
    exact .inl ⟨⟨hphase, haborted, hpending⟩, rfl, fun _ => by simp [pending, hunseen]⟩
  | overlook _ hunseen hstop => exact absurd (by simp [pending, hunseen, hstop]) hpending
  | drain _ hunseen hstop =>
    exact .inr ⟨.graceful, rfl, by simp [pending, hunseen, hstop], .inl rfl, nofun, fun _ => haborted⟩
  | abort _ hunseen hstop =>
    exact .inr ⟨.immediate, rfl, by simp [pending, hunseen, hstop], .inl rfl, fun _ => rfl, nofun⟩
  | drained h => simp [hphase] at h

/-- Connections are accepted until a look finds a wish, and the last one before that look counts. -/
theorem accepting_run (hl : l.Accepting) (h : l.run es = some l') :
    l'.Accepting ∧ l'.pending = (lastWish es).or l.pending ∨
      ∃ (between later : List Event) (how : Stop), es = between ++ .observe :: later ∧
        (lastWish between).or l.pending = some how ∧ l'.Heeds how := by
  induction es generalizing l with
  | nil =>
    cases h
    exact .inl ⟨hl, rfl⟩
  | cons e es ih =>
    obtain ⟨l₁, hmoves, hrun⟩ := run_cons h
    rcases accepting_moves hl hmoves with ⟨hl₁, hpending, -⟩ | ⟨how, rfl, hpending, hl₁⟩
    · rcases ih hl₁ hrun with ⟨hl', hpending'⟩ | ⟨between, later, how, rfl, hhow, hl'⟩
      · refine .inl ⟨hl', ?_⟩
        rw [hpending', hpending, lastWish_cons, Option.or_assoc]
      · refine .inr ⟨e :: between, later, how, rfl, ?_, hl'⟩
        rw [lastWish_cons, Option.or_assoc, ← hpending, hhow]
    · exact .inr ⟨[], es, how, rfl, hpending, heeds_run hl₁ hrun⟩

/-! ## Whole runs -/

theorem watched_of_observe {before after : List Event}
    (h : run {} (before ++ .observe :: after) = some l) : .watch ∈ before := by
  by_contra hwatch
  obtain ⟨l₁, hbefore, hafter⟩ := run_append.mp h
  obtain ⟨hearly, -⟩ := early_run early_initial hbefore hwatch
  obtain ⟨l₂, hmoves, -⟩ := run_cons hafter
  exact (early_moves hearly hmoves (by simp)).2.1 rfl

theorem accepting_of_watch (hl : l.Sound) (h : l.Moves .watch l') :
    l'.Accepting ∧ l'.pending = none ∧ l'.inFlight = [] := by
  cases h with
  | wish h => cases h
  | watch hphase =>
    obtain ⟨hnone, haborted⟩ := hl.fresh (.inr hphase)
    exact ⟨⟨rfl, haborted, by simp [pending]⟩, rfl, hnone⟩

/-- The first look after a wish is the last one, and it obeys the last wish before it. -/
theorem turn {before between later : List Event} {how : Stop}
    (h : run {} (before ++ .watch :: between ++ .observe :: later) = some l)
    (hhow : lastWish between = some how) : l.Heeds how := by
  obtain ⟨l₁, hwatching, hlooking⟩ := run_append.mp h
  obtain ⟨l₂, hbefore, hwatch⟩ := run_append.mp hwatching
  obtain ⟨l₃, hmoves, hbetween⟩ := run_cons hwatch
  obtain ⟨l₄, hlook, hlater⟩ := run_cons hlooking
  obtain ⟨hl₃, hnone, -⟩ := accepting_of_watch (sound_run sound_initial hbefore) hmoves
  rcases accepting_run hl₃ hbetween with ⟨hl₁, hpending⟩ | ⟨_, _, _, _, _, hl₁⟩
  · rcases accepting_moves hl₁ hlook with ⟨-, -, hobserve⟩ | ⟨how', -, hhow', hl₄⟩
    · rw [hpending, hhow, Option.some_or] at hobserve
      cases hobserve rfl
    · rw [hpending, hhow, Option.some_or] at hhow'
      cases hhow'
      exact heeds_run hl₄ hlater
  · exact absurd rfl (stopped_moves hl₁.stopped hlook).2.1

theorem turn_accepts {before between later : List Event} {how : Stop}
    (h : run {} (before ++ .watch :: between ++ .observe :: later) = some l)
    (hhow : lastWish between = some how) (c : Nat) : .accept c ∉ later := by
  rw [List.append_cons] at h
  obtain ⟨l₁, hlook, hlater⟩ := run_append.mp h
  exact (stopped_run (turn hlook hhow).stopped hlater).2.2.1 c

theorem turned_of_draining (h : run {} es = some l) (hl : l.phase = .draining) :
    ∃ before between later how, es = before ++ .watch :: between ++ .observe :: later ∧
      lastWish between = some how ∧ l.Heeds how := by
  have hwatch : .watch ∈ es := by
    by_contra hwatch
    rcases (early_run early_initial h hwatch).1.phase with hphase | hphase <;> simp [hphase] at hl
  obtain ⟨before, after, rfl⟩ := List.append_of_mem hwatch
  obtain ⟨l₁, hbefore, hrun⟩ := run_append.mp h
  obtain ⟨l₂, hmoves, hafter⟩ := run_cons hrun
  obtain ⟨hl₂, hnone, -⟩ := accepting_of_watch (sound_run sound_initial hbefore) hmoves
  rcases accepting_run hl₂ hafter with ⟨hl', -⟩ | ⟨between, later, how, rfl, hhow, hl'⟩
  · simp [hl'.phase] at hl
  · rw [hnone, Option.or_none] at hhow
    exact ⟨before, between, later, how, by simp, hhow, hl'⟩

/-! ## Obeying wishes -/

/-- Wishes are obeyed as they are meant: once a close has been uttered nothing is waited for, and
from the look that follows any wish on nothing is accepted. -/
structure Obeyed (es : List Event) : Prop where
  drops : ∀ (earlier later : List Event) (l : Lifecycle), es = earlier ++ later →
    run {} earlier = some l → .close ∈ earlier → l.phase = .draining → l.inFlight = []
  refuses : ∀ (earlier between later : List Event) (e : Event),
    es = earlier ++ e :: between ++ .observe :: later → e.wish?.isSome = true →
      ∀ c, .accept c ∉ later

/-- No wish that matters is uttered too early, too late or before a weaker one. -/
structure Heard (es : List Event) : Prop where
  /-- Nothing is accepted when a wish has been uttered before anybody watched for it. -/
  watched : ∀ (before after : List Event), es = before ++ .watch :: after →
    (∃ e ∈ before, e.wish?.isSome = true) → ∀ c, .accept c ∉ after
  /-- Nothing is in flight at a look that finds a shutdown behind a close. -/
  unweakened : ∀ (before between later : List Event),
    es = before ++ .watch :: between ++ .observe :: later → lastWish between = some .graceful →
      .close ∈ between → Idle (before ++ .watch :: between)
  /-- Nothing is in flight when a close is uttered behind a look that has found a shutdown. -/
  timely : ∀ (before between middle later : List Event),
    es = before ++ .watch :: between ++ .observe :: middle ++ .close :: later →
      lastWish between = some .graceful → Idle (before ++ .watch :: between ++ .observe :: middle)

theorem look_of_accept {c : Nat} (hl : l.ready = false) (h : l.run es = some l')
    (hc : .accept c ∈ es) : ∃ before later, es = before ++ .observe :: later ∧ .accept c ∈ later := by
  induction es generalizing l with
  | nil => cases hc
  | cons e es ih =>
    obtain ⟨l₁, hmoves, hrun⟩ := run_cons h
    by_cases he : e = .observe
    · subst he
      exact ⟨[], es, rfl, by simpa using hc⟩
    · have hl₁ : l₁.ready = false := by cases hmoves <;> simp_all
      rcases List.mem_cons.mp hc with rfl | hc
      · cases hmoves with
        | wish h => cases h
        | accept _ hready => simp [hl] at hready
      · obtain ⟨before, later, rfl, hmem⟩ := ih hl₁ hrun hc
        exact ⟨e :: before, later, rfl, hmem⟩

theorem look_of_accept_of_watch {before after : List Event} {c : Nat}
    (h : run {} (before ++ .watch :: after) = some l) (hc : .accept c ∈ after) :
    ∃ between later, after = between ++ .observe :: later ∧ .accept c ∈ later := by
  obtain ⟨l₁, hbefore, hrun⟩ := run_append.mp h
  obtain ⟨l₂, hmoves, hafter⟩ := run_cons hrun
  have hready : l₂.ready = false := by
    have hsound := (sound_run sound_initial hbefore).ready
    cases hmoves with
    | wish h => cases h
    | watch hphase => simpa [hphase] using hsound
  exact look_of_accept hready hafter hc

theorem idle_concat {e : Event} (he : ∀ c, e ≠ .accept c ∧ e ≠ .finish c) :
    Idle (es ++ [e]) ↔ Idle es := by
  have hnone (c : Nat) : [e].count (.accept c) = 0 ∧ [e].count (.finish c) = 0 := by
    constructor <;> rw [List.count_eq_zero, List.mem_singleton]
    · exact (he c).1.symm
    · exact (he c).2.symm
  simp only [Idle, List.count_append, hnone, Nat.add_zero]

/-- A life that stops, or has stopped, waits for nothing once a close has been uttered. -/
theorem Obeyed.idle (hobeyed : Obeyed es) {earlier later : List Event} (hes : es = earlier ++ later)
    (hrun : run {} earlier = some l) (hclose : .close ∈ earlier) (hl : l.Heeds .graceful) :
    Idle earlier := by
  refine (idle_iff hrun (hl.keeps rfl)).mpr ?_
  rcases hl.stopped with hphase | hphase
  · exact hobeyed.drops earlier later l hes hrun hclose hphase
  · exact (sound_run sound_initial hrun).finished hphase

/-- What is not in flight once a shutdown has been obeyed is not in flight later on. -/
theorem drained_of_idle {before between middle later : List Event}
    (h : run {} (before ++ .watch :: between ++ .observe :: middle ++ later) = some l)
    (hhow : lastWish between = some .graceful)
    (hidle : Idle (before ++ .watch :: between ++ .observe :: middle)) : l.inFlight = [] := by
  obtain ⟨l₁, hrun, hlater⟩ := run_append.mp h
  have hl₁ := turn hrun hhow
  obtain ⟨-, -, -, hnone, -⟩ := stopped_run hl₁.stopped hlater
  exact hnone ((idle_iff hrun (hl₁.keeps rfl)).mp hidle)

/-- What is accepted behind the watch is all that can be in flight. -/
theorem drained_of_watch {before after : List Event}
    (h : run {} (before ++ .watch :: after) = some l) (hnone : ∀ c, .accept c ∉ after) :
    l.inFlight = [] := by
  obtain ⟨l₁, hbefore, hrun⟩ := run_append.mp h
  obtain ⟨l₂, hmoves, hafter⟩ := run_cons hrun
  obtain ⟨hl₂, -, hfree⟩ := accepting_of_watch (sound_run sound_initial hbefore) hmoves
  refine List.eq_nil_iff_forall_not_mem.mpr fun c => List.count_eq_zero.mp ?_
  have htally := tally_run hafter c
  rw [hfree, hl₂.aborted, List.count_eq_zero.mpr (hnone c)] at htally
  simp only [List.count_nil] at htally
  omega

theorem Heard.drops (hheard : Heard es) {earlier later : List Event} (hes : es = earlier ++ later)
    (hrun : run {} earlier = some l) (hclose : .close ∈ earlier) (hphase : l.phase = .draining) :
    l.inFlight = [] := by
  obtain ⟨before, between, behind, how, rfl, hhow, hl⟩ := turned_of_draining hrun hphase
  cases how with
  | running => exact absurd hhow (lastWish_ne_running between)
  | immediate => exact hl.drops rfl
  | graceful =>
    rcases List.mem_append.mp hclose with hclose | hclose
    · rcases List.mem_append.mp hclose with hclose | hclose
      · have hnone := hheard.watched before (between ++ .observe :: behind ++ later) (by simp [hes])
          ⟨.close, hclose, rfl⟩
        rw [List.append_assoc, List.cons_append] at hrun
        exact drained_of_watch hrun fun c hc => hnone c (List.mem_append_left _ hc)
      · have hbetween : .close ∈ between := by simpa using hclose
        have hidle := hheard.unweakened before between (behind ++ later) (by simp [hes]) hhow hbetween
        rw [List.append_cons _ _ behind] at hrun
        exact drained_of_idle hrun hhow ((idle_concat (by simp)).mpr hidle)
    · have hbehind : .close ∈ behind := by simpa using hclose
      obtain ⟨middle, rest, rfl⟩ := List.append_of_mem hbehind
      have hidle := hheard.timely before between middle (rest ++ later) (by simp [hes]) hhow
      have hsplit : run {} (before ++ .watch :: between ++ .observe :: middle ++ .close :: rest) =
          some l := by simpa using hrun
      exact drained_of_idle hsplit hhow hidle

/-- What a run does with wishes is what they ask for as long as each of them is heard: uttered while
wishes are watched for, and, if it is a close, neither followed by a shutdown before the next look
nor uttered behind that look while connections are waited for. -/
theorem obeyed_iff_heard (h : run {} es = some l) : Obeyed es ↔ Heard es := by
  constructor
  · intro hobeyed
    refine ⟨?_, ?_, ?_⟩
    · rintro before after rfl ⟨e, he, hwish⟩ c hc
      obtain ⟨between, later, rfl, hmem⟩ := look_of_accept_of_watch h hc
      obtain ⟨earlier, middle, rfl⟩ := List.append_of_mem he
      exact hobeyed.refuses earlier (middle ++ .watch :: between) later e (by simp) hwish c hmem
    · intro before between later hes hhow hclose
      rw [List.append_cons] at hes
      obtain ⟨l₁, hrun, -⟩ := run_append.mp (hes ▸ h)
      exact (idle_concat (by simp)).mp (hobeyed.idle hes hrun (by simp [hclose]) (turn hrun hhow))
    · intro before between middle later hes hhow
      rw [List.append_cons] at hes
      obtain ⟨l₁, hrun, -⟩ := run_append.mp (hes ▸ h)
      refine (idle_concat (by simp)).mp (hobeyed.idle hes hrun (by simp) ?_)
      rw [List.append_assoc, List.cons_append] at hrun
      exact turn hrun hhow
  · intro hheard
    refine ⟨fun earlier later l₁ hes hrun hclose hphase => hheard.drops hes hrun hclose hphase, ?_⟩
    rintro earlier between later e rfl hwish c hc
    rcases List.mem_append.mp (watched_of_observe h) with hwatch | hwatch
    · -- the wish is uttered behind the watch, so the look obeys it or a later one
      obtain ⟨before, middle, rfl⟩ := List.append_of_mem hwatch
      have hmem : e ∈ middle ++ e :: between := by simp
      obtain ⟨how, hhow⟩ := lastWish_of_mem hmem hwish
      exact turn_accepts (by simpa using h) hhow c hc
    · -- the wish is uttered before the watch
      obtain ⟨hd, middle, hsplit⟩ := List.append_of_mem hwatch
      cases hd with
      | nil =>
        obtain rfl := (List.cons.inj hsplit).1
        cases hwish
      | cons e' early =>
        obtain ⟨rfl, rfl⟩ := List.cons.inj hsplit
        refine hheard.watched (earlier ++ e :: early) (middle ++ .observe :: later) (by simp)
          ⟨e, by simp, hwish⟩ c ?_
        simp [hc]

/-- A shutdown and a close before the same look. -/
def strengthened : List Event :=
  [.begin, .watch, .observe, .accept 0, .shutdown, .close, .observe, .drained]

theorem strengthened_obeyed :
    (∃ l, run {} strengthened = some l ∧ l.aborted = [0]) ∧ Obeyed strengthened := by
  have hrun : run {} strengthened = some ⟨.immediate, false, .finished, false, [], [0]⟩ := rfl
  have hsharp : ∀ before between later, strengthened = before ++ .watch :: between ++ .observe :: later →
      lastWish between ≠ some .graceful := by
    intro before between later h
    obtain ⟨-, hbetween⟩ : before = [.begin] ∧ between ++ .observe :: later =
        [.observe, .accept 0, .shutdown, .close, .observe, .drained] := by
      simpa [strengthened, List.cons_eq_append_iff] using h
    have hwished :
        between = [] ∧ later = [.accept 0, .shutdown, .close, .observe, .drained] ∨
          between = [.observe, .accept 0, .shutdown, .close] ∧ later = [.drained] := by
      simpa [List.cons_eq_append_iff] using hbetween.symm
    rcases hwished with ⟨rfl, -⟩ | ⟨rfl, -⟩ <;> decide
  refine ⟨⟨_, hrun, rfl⟩, (obeyed_iff_heard hrun).mpr ⟨?_, ?_, ?_⟩⟩
  · rintro before after h ⟨e, he, hwish⟩
    obtain ⟨rfl, -⟩ : before = [.begin] ∧ _ := by
      simpa [strengthened, List.cons_eq_append_iff] using h
    obtain rfl := List.mem_singleton.mp he
    cases hwish
  · intro before between later h hhow
    exact absurd hhow (hsharp before between later h)
  · intro before between middle later h hhow
    exact absurd hhow (hsharp before between (middle ++ .close :: later) (by simpa using h))

/-- A shutdown takes the place of a close. -/
def weakened : List Event := [.begin, .watch, .observe, .accept 0, .close, .shutdown, .observe]

/-- A close while connections are waited for. -/
def tooLate : List Event := [.begin, .watch, .observe, .accept 0, .shutdown, .observe, .close]

/-- A wish that is taken back as an earlier one. -/
def tooEarly : List Event := [.shutdown, .begin, .watch, .observe, .accept 0]

theorem wishes_not_obeyed :
    ((∃ l, run {} weakened = some l) ∧ ¬ Obeyed weakened) ∧
      ((∃ l, run {} tooLate = some l) ∧ ¬ Obeyed tooLate) ∧
      (∃ l, run {} tooEarly = some l) ∧ ¬ Obeyed tooEarly := by
  refine ⟨⟨⟨_, rfl⟩, fun h => ?_⟩, ⟨⟨_, rfl⟩, fun h => ?_⟩, ⟨_, rfl⟩, fun h => ?_⟩
  · cases h.drops weakened [] _ rfl rfl (by decide) rfl
  · cases h.drops tooLate [] _ rfl rfl (by decide) rfl
  · exact h.refuses [] [.begin, .watch] [.accept 0] .shutdown rfl rfl 0 (by simp)

end Switchboard.Lifecycle
