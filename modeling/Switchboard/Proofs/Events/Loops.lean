import Switchboard.Proofs.Events.Entries
import Switchboard.Events.Serving

/-!
# Serving loops

The phases of a serving loop, the replies it makes, and what becomes of a link when something is put into
its queue or taken out of it.
-/

namespace Switchboard

variable {ε : Type}

inductive LoopPhase where
  | reading
  | serving (e : Envelope)
  | leaving
  | left
  | deaf
  | over

@[simp]
def LoopPhase.served : LoopPhase → List Envelope
  | serving e => [e]
  | _ => []

/-- The reply to a request, however the service stands when it is made. -/
def Served (v : Service ε) (l : Link) (e reply : Envelope) : Prop :=
  ∃ (u : Running ε) (depth : Nat) (u' : Running ε), u.answer v depth l e = some (reply, u')

theorem Served.cases {v : Service ε} {l : Link} {e r : Envelope} (h : Served v l e r) :
    (∃ f, e.toRequest l.method l.id = .error f ∧ r = .failure e.rid e.uri f) ∨
      ∃ q a, e.toRequest l.method l.id = .ok q ∧ r = .reply e.rid e.uri a := by
  obtain ⟨u, depth, u', h⟩ := h
  unfold Running.answer at h
  split at h
  · rename_i f hf
    cases h
    exact .inl ⟨f, hf, rfl⟩
  · rename_i q hq
    obtain ⟨⟨a, w⟩, _, h⟩ := Option.map_eq_some_iff.mp h
    cases h
    exact .inr ⟨q, a, hq, rfl⟩

theorem Served.rid {v : Service ε} {l : Link} {e r : Envelope} (h : Served v l e r) :
    r.rid = e.rid := by
  rcases h.cases with ⟨_, _, rfl⟩ | ⟨_, _, _, rfl⟩ <;> rfl

theorem answer_congr {l l' : Link} (h : l.method = l'.method ∧ l.id = l'.id) (u : Running ε)
    (v : Service ε) (depth : Nat) (e : Envelope) : u.answer v depth l e = u.answer v depth l' e := by
  unfold Running.answer
  rw [h.1, h.2]

theorem Served.congr {v : Service ε} {l l' : Link} {e r : Envelope} (h : Served v l e r)
    (hname : l.method = l'.method ∧ l.id = l'.id) : Served v l' e r := by
  obtain ⟨u, depth, u', h⟩ := h
  exact ⟨u, depth, u', (answer_congr hname u v depth e).symm.trans h⟩

/-! ## Links -/

namespace Link

theorem post?_eq {l l' : Link} {e : Envelope} (h : l.post? e = some l') :
    l.loop ≠ .ended ∧ l' = { l with inbound := l.inbound ++ [.envelope e] } := by
  unfold post? at h
  split at h
  · cases h
  · rename_i hloop
    exact ⟨hloop, (Option.some.inj h).symm⟩

theorem put?_eq {l l' : Link} {e : Envelope} (h : l.put? e = some l') :
    l.receiving = true ∧ l' = { l with queue := l.queue ++ [e] } := by
  unfold put? at h
  split at h
  · rename_i hrec
    exact ⟨hrec, (Option.some.inj h).symm⟩
  · cases h

theorem handOn_some {l : Link} {c c' : Client} {e : Envelope} {rest : List Envelope}
    (h : c.take e = some c') : l.handOn c e rest = { l with queue := rest, client := some c' } := by
  simp only [handOn, h]

theorem handOn_none {l : Link} {c : Client} {e : Envelope} {rest : List Envelope}
    (h : c.take e = none) : l.handOn c e rest = { l with queue := [], receiving := false } := by
  simp only [handOn, h]

end Link

end Switchboard
