import Mathlib.Logic.Relation
import Switchboard.Events.Frames
import Switchboard.Proofs.Events.Loops
import Switchboard.Proofs.Events.Moves

/-!
# Deeds

What a running service does with its connections, in deeds: something happens to one link, in its serving
loop or beside it, a connection leaves its subject, or a new one joins. A link by itself, with the phase of
its loop, is a station, and deeds come down to acts at a station. So what goes along with each act at a
station goes along with the whole service.
-/

namespace Switchboard

variable {ε : Type}

/-! ## What happens to one link -/

namespace Client

def nextEnvelope (c : Client) (uri : String) (header : List (String × String))
    (body : Option (List Char)) : Envelope :=
  { rid := c.reserve.1, uri, header, body }

def readied (c : Client) (waits : Bool) : Client :=
  if waits then c.reserve.2.wait c.reserve.1 else c.reserve.2

def refused (c : Client) (waits : Bool) : Client :=
  if waits then (c.readied waits).withdraw c.reserve.1 else c.readied waits

end Client

namespace Link

def submitted (l : Link) (c : Client) (waits : Bool) (uri : String) (header : List (String × String))
    (body : Option (List Char)) : Link :=
  ((l.withClient (c.readied waits)).post? (c.nextEnvelope uri header body)).getD
    (l.withClient (c.refused waits))

def rest (l : Link) : LoopPhase := if l.loop = .ended then .over else .reading

/-- What happens beside the loop. Others need an entry of the link to put something into its queue. When
the connections are all of the process itself, `o` is false: no frames come in, and others only push. -/
inductive Beside (o : Prop) (entry : Bool) (p : LoopPhase) : Link → Link → Prop
  | put {l l' : Link} {e : Envelope} : entry = true → o ∨ (∃ uri value, e = .push uri value) →
    l.put? e = some l' → Beside o entry p l l'
  | hear {l : Link} (f : Frame) : o → Beside o entry p l (l.hear f)
  | submit {l : Link} {c : Client} (waits : Bool) (uri : String) (header : List (String × String))
    (body : Option (List Char)) : l.client = some c →
    Beside o entry p l (l.submitted c waits uri header body)
  | hangUp {l : Link} : Beside o entry p l { l with sending := false }
  | deliver {l : Link} {c : Client} {e : Envelope} {rest : List Envelope} : l.client = some c →
    l.receiving = true → l.queue = e :: rest → Beside o entry p l (l.handOn c e rest)
  | finish {l : Link} {c : Client} : l.client = some c → l.receiving = true → l.queue = [] →
    entry = false → p = .over → Beside o entry p l (l.finish c)

inductive Loops (v : Service ε) (stopped : Bool) : Link → LoopPhase → Link → LoopPhase → Prop
  | start {l : Link} : l.loop = .ready →
    Loops v stopped l .reading { l with loop := .running } .reading
  | read {l : Link} {e : Envelope} {rest : List Arrival} :
    l.inbound = .envelope e :: rest → e.rid ≠ 0 →
    Loops v stopped l .reading { l with inbound := rest } (.serving e)
  | skip {l : Link} {e : Envelope} {rest : List Arrival} :
    l.inbound = .envelope e :: rest → e.rid = 0 →
    Loops v stopped l .reading { l with inbound := rest } .reading
  | discard {l : Link} {rest : List Arrival} : l.inbound = .malformed :: rest →
    Loops v stopped l .reading { l with inbound := rest } .reading
  | lose {l : Link} {a : Arrival} {rest : List Arrival} : l.inbound = a :: rest →
    a = .broken ∨ a = .closing → Loops v stopped l .reading { l with inbound := rest } .leaving
  | reply {l l' : Link} {e r : Envelope} : Served v l e r → l.put? r = some l' →
    Loops v stopped l (.serving e) l' .reading
  | unheard {l : Link} {e r : Envelope} : Served v l e r → l.put? r = none →
    Loops v stopped l (.serving e) l .leaving
  | quit {l : Link} : l.cancelled = true ∨ stopped = true ∨ l.inbound = [] ∧ l.sending = false →
    Loops v stopped l .reading l .leaving
  | close {l : Link} : Loops v stopped l .leaving l.deafen .over

variable {v : Service ε} {o : Prop} {entry stopped : Bool} {p p' : LoopPhase} {l l' : Link}

theorem handOn_kept (l : Link) (c : Client) (e : Envelope) (rest : List Envelope) :
    (l.handOn c e rest).key = l.key ∧ (l.handOn c e rest).loop = l.loop ∧
      (l.handOn c e rest).inbound = l.inbound := by
  unfold handOn
  split <;> exact ⟨rfl, rfl, rfl⟩

theorem Beside.kept (h : Beside o entry p l l') : l'.key = l.key ∧ l'.loop = l.loop := by
  cases h with
  | put _ _ hput =>
    obtain ⟨_, rfl⟩ := put?_eq hput
    exact ⟨rfl, rfl⟩
  | hear f =>
    unfold Link.hear
    split <;> exact ⟨rfl, rfl⟩
  | submit waits uri header body =>
    unfold submitted
    cases hpost : (l.withClient _).post? _ with
    | none => exact ⟨rfl, rfl⟩
    | some l' =>
      obtain ⟨_, rfl⟩ := post?_eq hpost
      exact ⟨rfl, rfl⟩
  | hangUp | finish => exact ⟨rfl, rfl⟩
  | deliver =>
    obtain ⟨hkey, hloop, -⟩ := handOn_kept l _ _ _
    exact ⟨hkey, hloop⟩

theorem Loops.key (h : Loops v stopped l p l' p') : l'.key = l.key := by
  cases h with
  | reply _ hput =>
    obtain ⟨_, rfl⟩ := put?_eq hput
    rfl
  | _ => rfl

theorem Loops.ended_iff (h : Loops v stopped l p l' p') (hlive : l.loop ≠ .ended) :
    (l.loop = .ended ↔ p = .over) ∧ (l'.loop = .ended ↔ p' = .over) := by
  cases h with
  | reply _ hput =>
    obtain ⟨_, rfl⟩ := put?_eq hput
    simp [hlive]
  | close => simp [hlive, deafen]
  | _ => simp [hlive]

end Link

/-! ## Deeds -/

namespace Hub

theorem modifyLink_congr {h : Hub} {k : Nat} {l : Link} (hl : h.link? k = some l) {f g : Link → Link}
    (hfg : f l = g l) : h.modifyLink k f = h.modifyLink k g := by
  refine congrArg (Hub.mk h.subjects) (List.ext_getElem? fun j => ?_)
  rw [List.getElem?_modify, List.getElem?_modify]
  by_cases hj : k = j
  · rw [← hj, show h.links[k]? = some l from hl]
    simp [hfg]
  · simp [hj]

theorem modifyLink_self {h : Hub} {k : Nat} {l : Link} (hl : h.link? k = some l) :
    (h.modifyLink k fun _ => l) = h := by
  rw [modifyLink_congr (g := fun l => l) hl rfl]
  refine congrArg (Hub.mk h.subjects) (List.ext_getElem? fun j => ?_)
  rw [List.getElem?_modify]
  split <;> simp

theorem modifyLink_none {h : Hub} {k : Nat} (hl : h.link? k = none) (f : Link → Link) :
    h.modifyLink k f = h := by
  refine congrArg (Hub.mk h.subjects) (List.modify_eq_self ?_)
  exact List.getElem?_eq_none_iff.mp hl

inductive Stir (o : Prop) (phase : Nat → Link → LoopPhase) : Hub → Hub → Prop
  | beside {h : Hub} {k : Nat} {l l' : Link} : h.link? k = some l →
    l.Beside o (h.hasEntry k) (phase k l) l' → Stir o phase h (h.modifyLink k fun _ => l')
  | remove {h : Hub} (key : Key) : Stir o phase h (h.remove key.method key.path key.id)
  | attach {h : Hub} (key : Key) (client : Option Client) :
    Stir o phase h (h.attach key.method key.path key.id client).1

abbrev Stirs (o : Prop) (phase : Nat → Link → LoopPhase) : Hub → Hub → Prop :=
  Relation.ReflTransGen (Stir o phase)

end Hub

/-- The connections of a service, in the middle of the turn of a loop or between the turns. -/
structure Scene where
  hub : Hub
  stopped : Bool
  busy : Option (Nat × LoopPhase) := none

/-- Between the turns a loop reads, or it is over. -/
def busyAt (k : Nat) : LoopPhase → Option (Nat × LoopPhase)
  | .reading | .over => none
  | p => some (k, p)

def Scene.phase (c : Scene) (k : Nat) (l : Link) : LoopPhase :=
  match c.busy with
  | some (j, p) => if j = k then p else l.rest
  | none => l.rest

inductive Deed (v : Service ε) (o : Prop) : Scene → Scene → Prop
  | stir {c : Scene} {h : Hub} : c.hub.Stir o c.phase h → Deed v o c { c with hub := h }
  | loop {c : Scene} {k : Nat} {l l' : Link} {p p' : LoopPhase} : c.hub.link? k = some l →
    l.loop ≠ .ended → c.busy = busyAt k p → Link.Loops v c.stopped l p l' p' →
    Deed v o c { c with hub := c.hub.modifyLink k fun _ => l', busy := busyAt k p' }
  | stop {c : Scene} (stopped : Bool) : Deed v o c { c with stopped }

abbrev Deeds (v : Service ε) (o : Prop) : Scene → Scene → Prop := Relation.ReflTransGen (Deed v o)

/-! ## Stations -/

structure Station where
  link : Link
  /-- Whether a subject has an entry for the link. -/
  entry : Bool
  stopped : Bool
  phase : LoopPhase

def Scene.station? (c : Scene) (i : Nat) : Option Station :=
  (c.hub.link? i).map fun l => ⟨l, c.hub.hasEntry i, c.stopped, c.phase i l⟩

namespace Station

inductive Act (v : Service ε) (o : Prop) : Station → Station → Prop
  | beside {s : Station} {l : Link} : s.link.Beside o s.entry s.phase l →
    Act v o s { s with link := l }
  | loop {s : Station} {l : Link} {p : LoopPhase} : s.link.loop ≠ .ended →
    Link.Loops v s.stopped s.link s.phase l p → Act v o s { s with link := l, phase := p }
  | cancel {s : Station} : Act v o s { s with link := s.link.cancel }
  | expel {s : Station} : Act v o s { s with entry := false }
  | stop {s : Station} (stopped : Bool) : Act v o s { s with stopped }

abbrev Acts (v : Service ε) (o : Prop) : Station → Station → Prop := Relation.ReflTransGen (Act v o)

end Station

variable {v : Service ε} {o : Prop} {c c' : Scene} {s : Station} {i k : Nat} {l : Link}

namespace Scene

theorem station?_eq (hl : c.hub.link? i = some l) :
    c.station? i = some ⟨l, c.hub.hasEntry i, c.stopped, c.phase i l⟩ := by
  rw [station?, hl, Option.map_some]

theorem link_of_station (hs : c.station? i = some s) : c.hub.link? i = some s.link := by
  obtain ⟨l, hl, rfl⟩ := Option.map_eq_some_iff.mp hs
  exact hl

theorem phase_self {p : LoopPhase} (hc : c.busy = busyAt i p) (hp : l.loop = .ended ↔ p = .over) :
    c.phase i l = p := by
  unfold phase
  rw [hc]
  cases p <;> simp_all [busyAt, Link.rest]

theorem phase_elsewhere {p : LoopPhase} (hc : c.busy = busyAt k p) (hk : k ≠ i) :
    c.phase i l = l.rest := by
  unfold phase
  rw [hc]
  cases p <;> simp [busyAt, hk]

theorem phase_congr {l' : Link} (h : l'.loop = l.loop) : c.phase i l' = c.phase i l := by
  simp only [phase, Link.rest, h]

end Scene

namespace Hub

theorem link?_modifyLink_self {h : Hub} (hl : h.link? i = some l) (f : Link → Link) :
    (h.modifyLink i f).link? i = some (f l) := by
  rw [link?_modifyLink, if_pos rfl, hl, Option.map_some]

theorem link?_modifyLink_elsewhere {h : Hub} (hk : k ≠ i) (f : Link → Link) :
    (h.modifyLink k f).link? i = h.link? i := by
  rw [link?_modifyLink, if_neg hk.symm]

theorem Stir.kept {phase : Nat → Link → LoopPhase} {h h' : Hub} (hs : h.Stir o phase h')
    (hl : h.link? i = some l) :
    ∃ l', h'.link? i = some l' ∧ l'.key = l.key ∧ l'.loop = l.loop := by
  cases hs with
  | @beside k l₀ l' hl₀ hb =>
    by_cases hk : k = i
    · subst hk
      obtain rfl : l₀ = l := Option.some.inj (hl₀.symm.trans hl)
      exact ⟨l', link?_modifyLink_self hl _, hb.kept⟩
    · exact ⟨l, (link?_modifyLink_elsewhere hk _).trans hl, rfl, rfl⟩
  | remove key =>
    have hlink := link?_remove h key i
    rw [hl] at hlink
    split at hlink <;> exact ⟨_, hlink, rfl, rfl⟩
  | attach key client => exact ⟨l, link?_attach hl key client, rfl, rfl⟩

theorem Stirs.kept {phase : Nat → Link → LoopPhase} {h h' : Hub} (hs : h.Stirs o phase h')
    (hl : h.link? i = some l) :
    ∃ l', h'.link? i = some l' ∧ l'.key = l.key ∧ l'.loop = l.loop := by
  induction hs with
  | refl => exact ⟨l, hl, rfl, rfl⟩
  | tail _ hs ih =>
    obtain ⟨l₁, hl₁, hkey₁, hloop₁⟩ := ih
    obtain ⟨l₂, hl₂, hkey₂, hloop₂⟩ := hs.kept hl₁
    exact ⟨l₂, hl₂, hkey₂.trans hkey₁, hloop₂.trans hloop₁⟩

end Hub

theorem Deeds.stirs {h : Hub} (hs : c.hub.Stirs o c.phase h) : Deeds v o c { c with hub := h } := by
  induction hs with
  | refl => exact .refl
  | tail _ hs ih => exact ih.tail (.stir hs)

theorem Station.Acts.expelled {entry : Bool} (h : entry = true → s.entry = true) :
    Station.Acts v o s { s with entry } := by
  cases entry with
  | true => rw [← h rfl]
  | false => exact .single .expel

theorem Hub.Stir.acts {h : Hub} (hs : c.hub.Stir o c.phase h) (hl : c.hub.link? i = some l) :
    ∃ s', Station.Acts v o ⟨l, c.hub.hasEntry i, c.stopped, c.phase i l⟩ s' ∧
      Scene.station? { c with hub := h } i = some s' := by
  cases hs with
  | @beside k l₀ l' hl₀ hb =>
    by_cases hk : k = i
    · subst hk
      obtain rfl : l₀ = l := Option.some.inj (hl₀.symm.trans hl)
      refine ⟨_, .single (.beside hb), ?_⟩
      rw [Scene.station?_eq (link?_modifyLink_self hl _)]
      exact congrArg (fun p => some (Station.mk l' _ _ p)) (Scene.phase_congr (c := c) hb.kept.2)
    · exact ⟨_, .refl, Scene.station?_eq ((link?_modifyLink_elsewhere hk _).trans hl)⟩
  | remove key =>
    have hexpel : Station.Acts v o ⟨l, c.hub.hasEntry i, c.stopped, c.phase i l⟩ _ :=
      .expelled fun he => hasEntry_remove (k := key) he
    have hlink := link?_remove c.hub key i
    rw [hl] at hlink
    split at hlink
    · exact ⟨_, hexpel.tail .cancel, Scene.station?_eq hlink⟩
    · exact ⟨_, hexpel, Scene.station?_eq hlink⟩
  | attach key client =>
    have hi : i ≠ c.hub.links.length := Nat.ne_of_lt (List.getElem?_eq_some_iff.mp hl).1
    exact ⟨_, .expelled fun he => (hasEntry_attach he).resolve_right hi,
      Scene.station?_eq (link?_attach hl key client)⟩

/-- What a deed comes down to at a station. -/
theorem Deed.acts (hd : Deed v o c c') (hs : c.station? i = some s) :
    ∃ s', Station.Acts v o s s' ∧ c'.station? i = some s' := by
  obtain ⟨l₀, hl₀, rfl⟩ := Option.map_eq_some_iff.mp hs
  cases hd with
  | stir hs => exact hs.acts hl₀
  | @loop k l l' p p' hl hlive hbusy hp =>
    obtain ⟨hbefore, hafter⟩ := hp.ended_iff hlive
    by_cases hk : k = i
    · subst hk
      obtain rfl : l = l₀ := Option.some.inj (hl.symm.trans hl₀)
      have hphase : c.phase k l = p := Scene.phase_self hbusy hbefore
      refine ⟨_, .single (.loop hlive (hphase ▸ hp)), ?_⟩
      rw [Scene.station?_eq (Hub.link?_modifyLink_self hl _)]
      exact congrArg (fun p => some (Station.mk l' _ _ p)) (Scene.phase_self rfl hafter)
    · refine ⟨_, .refl, ?_⟩
      rw [Scene.station?_eq ((Hub.link?_modifyLink_elsewhere hk _).trans hl₀),
        Scene.phase_elsewhere rfl hk, Scene.phase_elsewhere hbusy hk]
      rfl
  | stop stopped => exact ⟨_, .single (.stop stopped), Scene.station?_eq hl₀⟩

/-- What goes along with each act at a station goes along with all deeds. -/
theorem Deeds.follow {X : Type} {R : Station → X → Prop} {step : X → X → Prop}
    (hact : ∀ {s s' x}, R s x → Station.Act v o s s' → ∃ y, Relation.ReflTransGen step x y ∧ R s' y)
    (hd : Deeds v o c c') (hs : c.station? i = some s) {x : X} (hx : R s x) :
    ∃ s' y, c'.station? i = some s' ∧ Relation.ReflTransGen step x y ∧ R s' y := by
  have hacts : ∀ {s s' : Station} {x : X}, Station.Acts v o s s' → R s x →
      ∃ y, Relation.ReflTransGen step x y ∧ R s' y := by
    intro s s' x ha hx
    induction ha with
    | refl => exact ⟨x, .refl, hx⟩
    | tail _ ha ih =>
      obtain ⟨y, hxy, hy⟩ := ih
      obtain ⟨z, hyz, hz⟩ := hact hy ha
      exact ⟨z, hxy.trans hyz, hz⟩
  induction hd with
  | refl => exact ⟨s, x, hs, .refl, hx⟩
  | tail _ hd ih =>
    obtain ⟨s', y, hs', hxy, hy⟩ := ih
    obtain ⟨s'', ha, hs''⟩ := hd.acts hs'
    obtain ⟨z, hyz, hz⟩ := hacts ha hy
    exact ⟨s'', z, hs'', hxy.trans hyz, hz⟩

end Switchboard
