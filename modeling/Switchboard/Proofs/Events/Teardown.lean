import Switchboard.Events.Serving
import Switchboard.Proofs.Events.Entries

/-!
# Teardown

Leaving a subject goes by the id, so it takes out whatever stands under the id at the time. The entry
of a connection stands as long as no connection of the same id, this one or an earlier one, is torn
down.
-/

namespace Switchboard

variable {ε : Type}

inductive Act where
  | join (k : Key) (client : Option Client)
  | disconnect (k : Key)
  /-- The serving loop of a link ends. -/
  | exit (i : Nat)
  /-- The client of a link is closed. -/
  | close (i : Nat)
  /-- The client of a link is dropped. -/
  | drop (i : Nat)
deriving DecidableEq

namespace Act

def run (u : Running ε) : Act → Running ε
  | join k client => u.withHub (u.hub.attach k.method k.path k.id client).1
  | disconnect k => u.withHub (u.hub.disconnect k.method k.path k.id).1
  | exit i =>
    match u.hub.link? i with
    | some l => if l.loop = .ended then u else u.leave i l
    | none => u
  | close i => u.close i
  | drop i => u.drop i

def runAll (u : Running ε) (as : List Act) : Running ε := as.foldl run u

/-- The key from which a step takes the entry. -/
def torn? (h : Hub) : Act → Option Key
  | join _ _ => none
  | disconnect k => some k
  | exit i => (h.link? i).bind fun l => if l.loop = .ended then none else some l.key
  | close i => (h.link? i).map Link.key
  | drop i => (h.link? i).map Link.key

def joins : Act → Bool
  | join _ _ => true
  | _ => false

end Act

/-- A loop that has been asked to stop ends at its next turn. -/
theorem Running.serveTurn_cancelled {u : Running ε} {i : Nat} {l : Link}
    (hl : u.hub.link? i = some l) (hc : l.cancelled = true) (hloop : l.loop ≠ .ended)
    (v : Service ε) (depth : Nat) :
    ∃ w, u.serveTurn v depth i = some w ∧ (w.hub.link? i).map Link.loop = some .ended := by
  have hleave : ∀ w : Running ε, (∃ l, w.hub.link? i = some l) →
      ((w.leave i l).hub.link? i).map Link.loop = some .ended := by
    intro w ⟨l', hl'⟩
    have hremove := Hub.link?_remove w.hub l.key i
    rw [hl'] at hremove
    show (((w.hub.remove l.key.method l.key.path l.key.id).modifyLink i _).link? i).map Link.loop = _
    rw [Hub.link?_modifyLink, if_pos rfl, hremove]
    split <;> rfl
  unfold serveTurn
  cases h : l.loop with
  | ready =>
    refine ⟨_, by simp only [hl, h, loopTurn, hc, true_or, if_true]; rfl, hleave _ ?_⟩
    exact ⟨_, (Hub.link?_modifyLink u.hub i i _).trans ((if_pos rfl).trans (congrArg _ hl))⟩
  | running =>
    exact ⟨_, by simp only [hl, h, loopTurn, hc, true_or, if_true], hleave u ⟨l, hl⟩⟩
  | ended => exact absurd h hloop

namespace Act

/-! ## One step -/

/-- Every step that leaves is one removal, and a change to one link that touches neither its key nor
the signal to stop. -/
theorem run_eq (u : Running ε) (a : Act) (ha : a.joins = false) :
    (a.torn? u.hub = none ∧ (∀ k, (a.run u).hub.standing? k = u.hub.standing? k) ∧
      ∀ j, (a.run u).hub.link? j = u.hub.link? j) ∨
    ∃ k i g, a.torn? u.hub = some k ∧
      (a.run u).hub = (u.hub.remove k.method k.path k.id).modifyLink i g ∧
      (∀ l : Link, (g l).key = l.key ∧ (g l).cancelled = l.cancelled) ∧
      ((∀ l : Link, (g l).loop = l.loop) ∨ a = exit i) := by
  have hid : ∀ (h : Hub) (i : Nat), h.modifyLink i id = h := fun h i => by
    simp [Hub.modifyLink, List.modify_id]
  cases a with
  | join k client => cases ha
  | disconnect k =>
    refine Or.inr ⟨k, 0, id, rfl, ?_, fun _ => ⟨rfl, rfl⟩, Or.inl fun _ => rfl⟩
    rw [hid]
    exact u.hub.disconnect_eq k
  | exit i =>
    cases hl : u.hub.link? i with
    | none => exact Or.inl ⟨by simp [torn?, hl], by simp [run, hl], by simp [run, hl]⟩
    | some l =>
      by_cases hended : l.loop = .ended
      · exact Or.inl ⟨by simp [torn?, hl, hended], by simp [run, hl, hended],
          by simp [run, hl, hended]⟩
      · refine Or.inr ⟨l.key, i, fun l => { l with loop := .ended, inbound := [] }, ?_, ?_,
          fun _ => ⟨rfl, rfl⟩, Or.inr rfl⟩
        · simp [torn?, hl, hended]
        · simp only [run, hl, if_neg hended]
          rfl
  | close i =>
    cases hl : u.hub.link? i with
    | none => exact Or.inl ⟨by simp [torn?, hl], by simp [run, Running.close, hl],
        by simp [run, Running.close, hl]⟩
    | some l =>
      refine Or.inr ⟨l.key, i, id, by simp [torn?, hl], ?_, fun _ => ⟨rfl, rfl⟩, Or.inl fun _ => rfl⟩
      rw [hid, run, Running.close, hl]
      exact u.hub.disconnect_eq l.key
  | drop i =>
    have hdrop : ((drop i).run u).hub = ((close i).run u).hub.modifyLink i fun l =>
        { l with sending := false } := rfl
    cases hl : u.hub.link? i with
    | none =>
      have hclose : ((close i).run u).hub = u.hub := by simp [run, Running.close, hl]
      refine Or.inl ⟨by simp [torn?, hl], fun k => by rw [hdrop, hclose]; rfl, fun j => ?_⟩
      rw [hdrop, hclose, Hub.link?_modifyLink]
      split
      · rename_i e
        rw [e, hl]
        rfl
      · rfl
    | some l =>
      refine Or.inr ⟨l.key, i, fun l => { l with sending := false }, by simp [torn?, hl], ?_,
        fun _ => ⟨rfl, rfl⟩, Or.inl fun _ => rfl⟩
      rw [hdrop, run, Running.close, hl]
      exact congrArg (Hub.modifyLink · i _) (u.hub.disconnect_eq l.key)

theorem run_join (u : Running ε) (a : Act) : a.joins = false ∨
    ((∀ k, (a.run u).hub.standing? k = u.hub.standing? k) ∧
      ∀ j, (a.run u).hub.link? j = u.hub.link? j) ∨
    ∃ k n l, u.hub.standing? k = none ∧ u.hub.link? n = none ∧ l.key = k ∧ l.cancelled = false ∧
      (∀ k', (a.run u).hub.standing? k' = if k' = k then some n else u.hub.standing? k') ∧
      ∀ j, (a.run u).hub.link? j = if j = n then some l else u.hub.link? j := by
  cases a with
  | join k client =>
    right
    have hhub : ((join k client).run u).hub = (u.hub.attach k.method k.path k.id client).1 := rfl
    cases hk : u.hub.standing? k with
    | some i =>
      left
      rw [hhub, Hub.attach_taken hk]
      exact ⟨u.hub.standing?_openSubject k.method k.path, u.hub.link?_openSubject k.method k.path⟩
    | none =>
      right
      obtain ⟨h', hattach, hlinks, hentries⟩ := Hub.attach_free hk client
      rw [hhub, hattach]
      exact ⟨k, u.hub.links.length, _, hk, List.getElem?_eq_none (Nat.le_refl _), rfl, rfl,
        hentries, hlinks⟩
  | _ => exact Or.inl rfl

section leaving

variable (u : Running ε) {a : Act} (ha : a.joins = false)
include ha

theorem standing?_run (k : Key) :
    (a.run u).hub.standing? k = if a.torn? u.hub = some k then none else u.hub.standing? k := by
  rcases run_eq u a ha with ⟨htorn, hentry, _⟩ | ⟨k', i, g, htorn, hhub, _, _⟩
  · rw [htorn, hentry, if_neg (by simp)]
  · rw [htorn, hhub, Hub.standing?_modifyLink, Hub.standing?_remove]
    simp only [Option.some.injEq, eq_comm]

/-- What a step leaves of a link: its key, and the signal unless its entry is taken out; the loop ends
if it is its own exit. -/
theorem link?_run (j : Nat) :
    ∃ g : Link → Link, (a.run u).hub.link? j = (u.hub.link? j).map g ∧
      ∀ l : Link, (g l).key = l.key ∧
        ((g l).cancelled = true ↔ l.cancelled = true ∨
          ∃ k, a.torn? u.hub = some k ∧ u.hub.standing? k = some j) ∧
        ((g l).loop = l.loop ∨ ∃ k, a = exit j ∧ a.torn? u.hub = some k) := by
  rcases run_eq u a ha with ⟨htorn, _, hlink⟩ | ⟨k, i, g, htorn, hhub, hg, hloop⟩
  · refine ⟨id, by rw [hlink, Option.map_id, id], fun l => ⟨rfl, ?_, Or.inl rfl⟩⟩
    rw [htorn]
    simp
  · let c : Link → Link := if u.hub.standing? k = some j then Link.cancel else id
    have hremove : (u.hub.remove k.method k.path k.id).link? j = (u.hub.link? j).map c := by
      rw [Hub.link?_remove]
      by_cases hk : u.hub.standing? k = some j
      · simp only [c, if_pos hk]
      · simp only [c, if_neg hk, Option.map_id, id]
    have hc : ∀ l : Link, (c l).key = l.key ∧ (c l).loop = l.loop ∧
        ((c l).cancelled = true ↔ l.cancelled = true ∨ u.hub.standing? k = some j) := by
      intro l
      by_cases hk : u.hub.standing? k = some j
      · simp only [c, if_pos hk]
        exact ⟨rfl, rfl, by simp [Link.cancel, hk]⟩
      · simp only [c, if_neg hk]
        exact ⟨rfl, rfl, by simp [hk]⟩
    have htorn' : (∃ k', a.torn? u.hub = some k' ∧ u.hub.standing? k' = some j) ↔
        u.hub.standing? k = some j := by
      rw [htorn]
      simp
    rw [hhub, Hub.link?_modifyLink, hremove, htorn']
    by_cases hj : j = i
    · refine ⟨g ∘ c, by rw [if_pos hj, Option.map_map], fun l => ?_⟩
      obtain ⟨hkey, hcan⟩ := hg (c l)
      refine ⟨hkey.trans (hc l).1, ?_, ?_⟩
      · rw [← (hc l).2.2, ← hcan]
        rfl
      · rcases hloop with hloop | rfl
        · exact Or.inl ((hloop (c l)).trans (hc l).2.1)
        · exact Or.inr ⟨k, by rw [hj], htorn⟩
    · exact ⟨c, if_neg hj, fun l => ⟨(hc l).1, (hc l).2.2, Or.inl (hc l).2.1⟩⟩

end leaving

/-! ## Soundness -/

end Act

/-- Every entry stands for a link of its key that has not been asked to stop, and every such link has
its entry. -/
structure Hub.Sound (h : Hub) : Prop where
  entry : ∀ k i, h.standing? k = some i → ∃ l, h.link? i = some l ∧ l.key = k ∧ l.cancelled = false
  live : ∀ i l, h.link? i = some l → l.cancelled = false → h.standing? l.key = some i

namespace Act

theorem sound_run {u : Running ε} (S : u.hub.Sound) (a : Act) : (a.run u).hub.Sound := by
  rcases run_join u a with ha | ⟨hentries, hlinks⟩ | ⟨k, n, l, hk, hn, hkey, hcan, hentries, hlinks⟩
  · refine ⟨fun k j h => ?_, fun j l h hc => ?_⟩
    · rw [standing?_run u ha] at h
      split at h
      · cases h
      · rename_i htorn
        obtain ⟨l, hl, hkey, hcan⟩ := S.entry k j h
        obtain ⟨g, hg, hprops⟩ := link?_run u ha j
        refine ⟨g l, by rw [hg, hl]; rfl, (hprops l).1.trans hkey, ?_⟩
        refine eq_false_of_ne_true fun hc => ?_
        rcases (hprops l).2.1.mp hc with hc | ⟨k', ht, hk'⟩
        · rw [hcan] at hc
          cases hc
        · obtain ⟨l', hl', hkey', _⟩ := S.entry k' j hk'
          rw [hl] at hl'
          cases hl'
          exact htorn (ht.trans (congrArg some (hkey'.symm.trans hkey)))
    · obtain ⟨g, hg, hprops⟩ := link?_run u ha j
      rw [hg] at h
      obtain ⟨l₀, hl₀, rfl⟩ := Option.map_eq_some_iff.mp h
      obtain ⟨hkey, hcan, _⟩ := hprops l₀
      have hno : ¬ (g l₀).cancelled = true := by rw [hc]; exact Bool.false_ne_true
      rw [hcan, not_or] at hno
      have hstands := S.live j l₀ hl₀ (eq_false_of_ne_true hno.1)
      rw [hkey, standing?_run u ha, if_neg fun ht => hno.2 ⟨_, ht, hstands⟩, hstands]
  · refine ⟨fun k j h => ?_, fun j l h hc => ?_⟩
    · rw [hentries] at h
      rw [hlinks]
      exact S.entry k j h
    · rw [hlinks] at h
      rw [hentries]
      exact S.live j l h hc
  · refine ⟨fun k' j h => ?_, fun j l' h hc => ?_⟩
    · rw [hentries] at h
      split at h
      · rename_i hkk
        cases h
        exact ⟨l, by rw [hlinks, if_pos rfl], hkey.trans hkk.symm, hcan⟩
      · obtain ⟨l', hl', hkey'⟩ := S.entry k' j h
        have hne : j ≠ n := fun e => by
          rw [e, hn] at hl'
          cases hl'
        exact ⟨l', by rw [hlinks, if_neg hne, hl'], hkey'⟩
    · rw [hlinks] at h
      rw [hentries]
      split at h
      · rename_i hj
        cases h
        rw [if_pos hkey, hj]
      · have hstands := S.live j l' h hc
        have hne : l'.key ≠ k := fun e => by
          rw [e, hk] at hstands
          cases hstands
        rw [if_neg hne, hstands]

theorem sound_runAll {u : Running ε} (S : u.hub.Sound) (as : List Act) : (runAll u as).hub.Sound := by
  induction as generalizing u with
  | nil => exact S
  | cons a as ih => exact ih (sound_run S a)

theorem sound_empty : ({} : Hub).Sound :=
  ⟨fun _ _ h => (by cases h), fun _ _ h => (by cases h)⟩

/-! ## How long an entry stands -/

theorem standing?_of_not_torn {u : Running ε} {k : Key} {i : Nat}
    (hk : u.hub.standing? k = some i) {a : Act} (ha : a.torn? u.hub ≠ some k) :
    (a.run u).hub.standing? k = some i := by
  rcases run_join u a with hj | ⟨hentries, _⟩ | ⟨k', n, _, hk', _, _, _, hentries, _⟩
  · rw [standing?_run u hj, if_neg ha, hk]
  · rw [hentries, hk]
  · have hne : k ≠ k' := fun e => by
      rw [e, hk'] at hk
      cases hk
    rw [hentries, if_neg hne, hk]

theorem link_kept_run {u : Running ε} {i : Nat} {l : Link} (hl : u.hub.link? i = some l) (a : Act) :
    ∃ l', (a.run u).hub.link? i = some l' ∧ l'.key = l.key ∧
      (l.cancelled = true → l'.cancelled = true) := by
  rcases run_join u a with hj | ⟨_, hlinks⟩ | ⟨_, n, _, _, hn, _, _, _, hlinks⟩
  · obtain ⟨g, hg, hprops⟩ := link?_run u hj i
    exact ⟨g l, by rw [hg, hl]; rfl, (hprops l).1, fun hc => (hprops l).2.1.mpr (Or.inl hc)⟩
  · exact ⟨l, by rw [hlinks, hl], rfl, id⟩
  · have hne : i ≠ n := fun e => by
      rw [← e, hl] at hn
      cases hn
    exact ⟨l, by rw [hlinks, if_neg hne, hl], rfl, id⟩

theorem link_kept_runAll {u : Running ε} {i : Nat} {l : Link} (hl : u.hub.link? i = some l)
    (as : List Act) :
    ∃ l', (runAll u as).hub.link? i = some l' ∧ l'.key = l.key ∧
      (l.cancelled = true → l'.cancelled = true) := by
  induction as generalizing u l with
  | nil => exact ⟨l, hl, rfl, id⟩
  | cons a as ih =>
    obtain ⟨l', hl', hkey, hc⟩ := link_kept_run hl a
    obtain ⟨l'', hl'', hkey', hc'⟩ := ih hl'
    exact ⟨l'', hl'', hkey'.trans hkey, fun h => hc' (hc h)⟩

theorem gone_of_torn {u : Running ε} (S : u.hub.Sound) {k : Key} {i : Nat}
    (hk : u.hub.standing? k = some i) {a : Act} (ha : a.torn? u.hub = some k) (as : List Act) :
    (runAll u (a :: as)).hub.standing? k ≠ some i := by
  have hj : a.joins = false := by
    cases a with
    | join => cases ha
    | _ => rfl
  obtain ⟨l, hl, _⟩ := S.entry k i hk
  obtain ⟨g, hg, hprops⟩ := link?_run u hj i
  have hl' : (a.run u).hub.link? i = some (g l) := by rw [hg, hl]; rfl
  -- the link keeps the signal, and no entry stands for a link that has it
  obtain ⟨l'', hl'', _, hkept⟩ := link_kept_runAll hl' as
  have hc := hkept ((hprops l).2.1.mpr (Or.inr ⟨k, ha, hk⟩))
  intro h
  obtain ⟨l₁, hl₁, _, hc₁⟩ := (sound_runAll S (a :: as)).entry k i h
  rw [show (runAll u (a :: as)).hub.link? i = some l'' from hl''] at hl₁
  cases hl₁
  rw [hc] at hc₁
  cases hc₁

end Act

def Hub.loopOf? (h : Hub) (k : Key) (j : Nat) : Option LoopState :=
  ((h.link? j).filter (·.key = k)).map Link.loop

theorem Hub.loopOf?_eq_some {h : Hub} {k : Key} {j : Nat} {s : LoopState} :
    h.loopOf? k j = some s ↔ ∃ l, h.link? j = some l ∧ l.key = k ∧ l.loop = s := by
  simp [loopOf?, Option.filter_eq_some_iff, and_assoc]

namespace Act

theorem torn?_eq_some (h : Hub) (k : Key) (a : Act) :
    a.torn? h = some k ↔ match a with
      | join _ _ => False
      | disconnect k' => k' = k
      | exit j => ∃ s, h.loopOf? k j = some s ∧ s ≠ .ended
      | close j | drop j => ∃ s, h.loopOf? k j = some s := by
  cases a with
  | join => simp [torn?]
  | disconnect => simp [torn?]
  | exit j =>
    simp only [torn?, Hub.loopOf?_eq_some, Option.bind_eq_some_iff]
    constructor
    · rintro ⟨l, hl, hk⟩
      split at hk
      · cases hk
      · rename_i hloop
        exact ⟨l.loop, ⟨l, hl, Option.some.inj hk, rfl⟩, hloop⟩
    · rintro ⟨_, ⟨l, hl, hk, rfl⟩, hloop⟩
      exact ⟨l, hl, by rw [if_neg hloop, hk]⟩
  | close j | drop j =>
    simp only [torn?, Hub.loopOf?_eq_some, Option.map_eq_some_iff]
    constructor
    · rintro ⟨l, hl, hk⟩
      exact ⟨l.loop, l, hl, hk, rfl⟩
    · rintro ⟨_, l, hl, hk, _⟩
      exact ⟨l, hl, hk⟩

/-- While an entry stands, its key gets no further link, and the loops of the links it has go on. -/
theorem loopOf?_run {u : Running ε} {k : Key} {i : Nat} (hk : u.hub.standing? k = some i) {a : Act}
    (ha : a.torn? u.hub ≠ some k) (j : Nat) : (a.run u).hub.loopOf? k j = u.hub.loopOf? k j := by
  unfold Hub.loopOf?
  rcases run_join u a with hj | ⟨_, hlinks⟩ | ⟨k', n, l, hk', hn, hkey, _, _, hlinks⟩
  · obtain ⟨g, hg, hprops⟩ := link?_run u hj j
    rw [hg]
    cases hl : u.hub.link? j with
    | none => rfl
    | some l =>
      obtain ⟨hkey, _, hloop⟩ := hprops l
      by_cases hlk : l.key = k
      · have hsame : (g l).loop = l.loop := by
          rcases hloop with hloop | ⟨k', rfl, ht⟩
          · exact hloop
          · have ht' := ht
            simp only [torn?, hl, Option.bind_some] at ht'
            split at ht'
            · cases ht'
            · rw [← ht', hlk] at ht
              exact absurd ht ha
        simp [Option.filter_some, hkey, hlk, hsame]
      · simp [Option.filter_some, hkey, hlk]
  · rw [hlinks]
  · have hne : l.key ≠ k := fun e => by
      rw [← hkey, e, hk] at hk'
      cases hk'
    rw [hlinks]
    by_cases hj : j = n
    · rw [if_pos hj, hj, hn]
      simp [Option.filter_some, hne]
    · rw [if_neg hj]

/-- An entry stands to the end exactly when no step takes it out, and which steps would is known as
soon as it stands. -/
theorem stands_runAll_iff {u : Running ε} (S : u.hub.Sound) {k : Key} {i : Nat}
    (hk : u.hub.standing? k = some i) (as : List Act) :
    (runAll u as).hub.standing? k = some i ↔ ∀ a ∈ as, a.torn? u.hub ≠ some k := by
  induction as generalizing u with
  | nil => simpa [runAll] using hk
  | cons a as ih =>
    by_cases ha : a.torn? u.hub = some k
    · exact iff_of_false (gone_of_torn S hk ha as) fun h => h a List.mem_cons_self ha
    · -- a step that spares the entry leaves the steps that would not as they are
      have hsame : ∀ b : Act, b.torn? (a.run u).hub = some k ↔ b.torn? u.hub = some k := by
        intro b
        simp only [torn?_eq_some, loopOf?_run hk ha]
      show (runAll (a.run u) as).hub.standing? k = some i ↔ _
      rw [ih (sound_run S a) (standing?_of_not_torn hk ha), List.forall_mem_cons]
      simp only [ne_eq, hsame, ha, not_false_eq_true, true_and]

/-! ## Earlier connections of the same id -/

def Own (k : Key) (i : Nat) (a : Act) : Prop :=
  a = disconnect k ∨ a = exit i ∨ a = close i ∨ a = drop i

instance (k : Key) (i : Nat) (a : Act) : Decidable (Own k i a) := by
  unfold Own
  infer_instance

/-- The steps tear no other link of the key down. A loop that has ended does not end again. -/
def Spare (h : Hub) (k : Key) (i : Nat) (as : List Act) : Prop :=
  ∀ j l, h.link? j = some l → l.key = k → j ≠ i →
    close j ∉ as ∧ drop j ∉ as ∧ (l.loop = .ended ∨ exit j ∉ as)

theorem spare_iff {h : Hub} {k : Key} {i : Nat} {as : List Act} (hown : ∀ a ∈ as, ¬ Own k i a) :
    Spare h k i as ↔ ∀ a ∈ as, a.torn? h ≠ some k := by
  constructor
  · intro hspare a ha
    rw [ne_eq, torn?_eq_some]
    have hno := hown a ha
    cases a with
    | join => exact id
    | disconnect k' => exact fun e => hno (Or.inl (by rw [e]))
    | exit j =>
      intro ⟨s, hs, hne⟩
      obtain ⟨l, hl, hk, rfl⟩ := Hub.loopOf?_eq_some.mp hs
      rcases (hspare j l hl hk fun e => hno (Or.inr (Or.inl (by rw [e])))).2.2 with hended | hnot
      · exact hne hended
      · exact hnot ha
    | close j =>
      intro ⟨s, hs⟩
      obtain ⟨l, hl, hk, _⟩ := Hub.loopOf?_eq_some.mp hs
      exact (hspare j l hl hk fun e => hno (Or.inr (Or.inr (Or.inl (by rw [e]))))).1 ha
    | drop j =>
      intro ⟨s, hs⟩
      obtain ⟨l, hl, hk, _⟩ := Hub.loopOf?_eq_some.mp hs
      exact (hspare j l hl hk fun e => hno (Or.inr (Or.inr (Or.inr (by rw [e]))))).2.1 ha
  · intro htorn j l hl hk _
    have hs := Hub.loopOf?_eq_some.mpr ⟨l, hl, hk, rfl⟩
    refine ⟨fun h => htorn _ h ?_, fun h => htorn _ h ?_, ?_⟩
    · exact (torn?_eq_some _ _ (close j)).mpr ⟨_, hs⟩
    · exact (torn?_eq_some _ _ (drop j)).mpr ⟨_, hs⟩
    · by_cases hended : l.loop = .ended
      · exact Or.inl hended
      · exact Or.inr fun h => htorn _ h ((torn?_eq_some _ _ (exit j)).mpr ⟨_, hs, hended⟩)

/-- A connection that is not torn down itself stands exactly as long as the earlier connections of its
id are spared. When one is torn down, its loop ends at its next turn. -/
theorem stands_iff_spared (u : Running ε) (hu : u.hub = {}) (before after : List Act) {k : Key}
    {i : Nat} (hk : (runAll u before).hub.standing? k = some i)
    (hown : ∀ a ∈ after, ¬ Own k i a) :
    ((runAll u (before ++ after)).hub.standing? k = some i ↔
        Spare (runAll u before).hub k i after) ∧
      ∃ l, (runAll u (before ++ after)).hub.link? i = some l ∧
        (l.cancelled = false ↔ Spare (runAll u before).hub k i after) ∧
        (¬ Spare (runAll u before).hub k i after → l.loop ≠ .ended → ∀ v depth,
          ∃ w, (runAll u (before ++ after)).serveTurn v depth i = some w ∧
            (w.hub.link? i).map Link.loop = some .ended) := by
  have S : (runAll u before).hub.Sound := sound_runAll (by rw [hu]; exact sound_empty) before
  have happend : runAll u (before ++ after) = runAll (runAll u before) after := List.foldl_append
  rw [happend, spare_iff hown, ← stands_runAll_iff S hk after]
  have S' := sound_runAll S after
  obtain ⟨l₀, hl₀, hkey₀, _⟩ := S.entry k i hk
  obtain ⟨l, hl, hkey, _⟩ := link_kept_runAll hl₀ after
  have hlive : l.cancelled = false ↔ (runAll (runAll u before) after).hub.standing? k = some i := by
    constructor
    · intro hc
      have hstands := S'.live i l hl hc
      rwa [hkey, hkey₀] at hstands
    · intro hstands
      obtain ⟨l', hl', _, hc⟩ := S'.entry k i hstands
      rw [hl] at hl'
      cases hl'
      exact hc
  refine ⟨Iff.rfl, l, hl, hlive, fun hgone hloop v depth => ?_⟩
  have hc : l.cancelled = true := eq_true_of_ne_false (mt hlive.mp hgone)
  exact Running.serveTurn_cancelled hl hc hloop v depth

def guest : Key := ⟨.call, "/room", "x"⟩

/-- The loop of the first connection has ended before the second joins, and it ends once. -/
theorem stands_iff_spared_guest :
    ({} : Running Unit).hub = {} ∧
      (runAll ({} : Running Unit) [join guest none, exit 0, join guest none]).hub.standing? guest =
        some 1 ∧
      (∀ a ∈ [exit 0, join guest none], ¬ Own guest 1 a) ∧
      (runAll ({} : Running Unit) ([join guest none, exit 0, join guest none] ++
        [exit 0, join guest none])).hub.standing? guest = some 1 := by
  have hk : (runAll ({} : Running Unit) [join guest none, exit 0, join guest none]).hub.standing?
      guest = some 1 := by decide +kernel
  have hown : ∀ a ∈ [exit 0, join guest none], ¬ Own guest 1 a := by decide
  refine ⟨rfl, hk, hown, (stands_iff_spared {} rfl _ _ hk hown).1.mpr ?_⟩
  rw [spare_iff hown]
  decide +kernel

/-- A connection that joins under the id of a disconnected one is torn down with it: by the end of the
old loop, and by the old client when it is closed or dropped. -/
theorem rejoined_torn_down :
    (runAll ({} : Running Unit) [join guest none, disconnect guest, join guest none]).hub.standing?
        guest = some 1 ∧
      ∀ a ∈ [exit 0, close 0, drop 0], ¬ Own guest 1 a ∧
        (runAll ({} : Running Unit)
          [join guest none, disconnect guest, join guest none, a]).hub.standing? guest = none ∧
        ((runAll ({} : Running Unit)
          [join guest none, disconnect guest, join guest none, a]).hub.link? 1).map Link.cancelled =
            some true := by
  decide +kernel

end Act

end Switchboard
