import Switchboard.Proofs.Events.Peers

/-!
# Broadcasts

A broadcast goes over the peers of a subject one after the other. A peer whose receiver is gone is
reported, and the ones behind it get the message all the same.
-/

namespace Switchboard

def Link.queued (l : Link) (e : Envelope) : Link := { l with queue := l.queue ++ [e] }

namespace Hub

def hears (h : Hub) (i : Nat) : Bool := (h.link? i).any (·.receiving)

theorem enqueue?_eq (h : Hub) (i : Nat) (e : Envelope) :
    h.enqueue? i e = if h.hears i then some (h.modifyLink i (·.queued e)) else none := by
  unfold enqueue? hears
  cases hl : h.link? i with
  | none => rfl
  | some l =>
    rw [Option.bind_some, Link.put?, Option.any_some]
    split
    · rw [Option.map_some]
      refine congrArg some (congrArg (Hub.mk h.subjects) ?_)
      apply List.ext_getElem?
      intro j
      rw [List.getElem?_modify, List.getElem?_modify]
      by_cases hj : i = j
      · rw [hj, link?] at hl
        rw [hj, hl]
        rfl
      · simp only [if_neg hj]
    · rfl

theorem hears_queued (h : Hub) (i j : Nat) (e : Envelope) :
    (h.modifyLink i (·.queued e)).hears j = h.hears j := by
  unfold hears
  rw [link?_modifyLink]
  split
  · cases h.link? j <;> rfl
  · rfl

theorem sendAll_cons (h : Hub) (e : Envelope) (p : String × Nat) (ps : List (String × Nat)) :
    h.sendAll e (p :: ps) =
      if h.hears p.2 then (h.modifyLink p.2 (·.queued e)).sendAll e ps
      else ((h.sendAll e ps).1, p.1 :: (h.sendAll e ps).2) := by
  rw [sendAll, enqueue?_eq]
  cases h.hears p.2 <;> rfl

theorem subjects_sendAll (h : Hub) (e : Envelope) (ps : List (String × Nat)) :
    (h.sendAll e ps).1.subjects = h.subjects := by
  induction ps generalizing h with
  | nil => rfl
  | cons p ps ih =>
    rw [sendAll_cons]
    split
    · exact ih _
    · exact ih h

theorem gone_sendAll (h : Hub) (e : Envelope) (ps : List (String × Nat)) :
    (h.sendAll e ps).2 = (ps.filter fun p => !h.hears p.2).map Prod.fst := by
  induction ps generalizing h with
  | nil => rfl
  | cons p ps ih =>
    rw [sendAll_cons]
    split
    · rename_i hp
      simp only [ih, hears_queued, List.filter_cons_of_neg, hp, Bool.not_true, Bool.false_eq_true,
        not_false_iff]
    · rename_i hp
      rw [ih, List.filter_cons_of_pos (by simp [hp]), List.map_cons]

theorem link?_sendAll (h : Hub) (e : Envelope) {ps : List (String × Nat)}
    (hps : (ps.map Prod.snd).Nodup) (i : Nat) :
    (h.sendAll e ps).1.link? i =
      if i ∈ ps.map Prod.snd ∧ h.hears i = true then (h.link? i).map (·.queued e) else h.link? i := by
  induction ps generalizing h with
  | nil => rfl
  | cons p ps ih =>
    rw [List.map_cons, List.nodup_cons] at hps
    rw [sendAll_cons]
    by_cases hi : i = p.2
    · -- what comes behind the peer does not reach its link
      subst hi
      have hrest : ∀ h : Hub, (h.sendAll e ps).1.link? p.2 = h.link? p.2 := fun h =>
        (ih h hps.2).trans (if_neg fun hc => hps.1 hc.1)
      split
      · rename_i hp
        rw [hrest, link?_modifyLink, if_pos rfl, if_pos ⟨List.mem_cons_self, hp⟩]
      · rename_i hp
        rw [if_neg fun hc => hp hc.2]
        exact hrest h
    · have hmem : i ∈ p.2 :: ps.map Prod.snd ↔ i ∈ ps.map Prod.snd :=
        ⟨fun h => (List.mem_cons.mp h).resolve_left hi, List.mem_cons_of_mem _⟩
      simp only [List.map_cons, hmem]
      split
      · rw [ih _ hps.2, hears_queued, link?_modifyLink, if_neg hi]
      · exact ih h hps.2

/-- A broadcast puts the message once into the queue of each peer that has a receiver, and into no
other queue. The entries stay as they are. It fails when the receiver of a peer is gone, and names
each such peer once. -/
theorem broadcast_reaches {h : Hub} (H : h.Orderly) {m : Method} {path : String} {s : Subject}
    (hs : h.subject? m path = some s) (e : Envelope) :
    (h.broadcast m path e).1.subjects = h.subjects ∧
    (∀ i, (h.broadcast m path e).1.link? i =
      if i ∈ s.peers.map Prod.snd ∧ h.hears i = true then (h.link? i).map (·.queued e)
      else h.link? i) ∧
    ((h.broadcast m path e).2 = .ok () ↔ ∀ p ∈ s.peers, h.hears p.2 = true) ∧
    ((h.broadcast m path e).2 ≠ .ok () → ∃ gone : List String,
      (h.broadcast m path e).2 = .error (.broadcast (gone.map fun id => (id, .closed))) ∧
      gone.Nodup ∧ ∀ id, id ∈ gone ↔ ∃ i, (id, i) ∈ s.peers ∧ h.hears i = false) := by
  have hmem := List.mem_of_find?_eq_some hs
  have hgone := gone_sendAll h e s.peers
  have hids : ((s.peers.filter fun p => !h.hears p.2).map Prod.fst).Nodup :=
    (H.ids s hmem).sublist (List.filter_sublist.map Prod.fst)
  rw [← hgone] at hids
  simp only [broadcast, hs]
  refine ⟨subjects_sendAll h e s.peers, link?_sendAll h e (H.places hmem), ?_, fun hfailed => ?_⟩
  · have hempty : (h.sendAll e s.peers).2.isEmpty = true ↔ ∀ p ∈ s.peers, h.hears p.2 = true := by
      rw [hgone]
      simp
    rw [← hempty]
    split
    · rename_i hnil
      exact iff_of_true rfl hnil
    · rename_i hsome
      refine iff_of_false (fun herror => ?_) hsome
      cases herror
  · refine ⟨(h.sendAll e s.peers).2, if_neg fun hnil => hfailed (if_pos hnil), hids, fun id => ?_⟩
    rw [hgone]
    simp

end Hub

/-! Three connections of a subject, of which the second has lost its receiver. -/

def newsroom : Hub :=
  let join (h : Hub) (id : String) := (h.attach .websocket "/news" id none).1
  (join (join (join {} "a") "b") "c").modifyLink 1 fun l => { l with receiving := false }

theorem newsroom_edits : Hub.Edits {} newsroom := by
  have ha : Hub.Edits {} _ := .single (.attach ⟨.websocket, "/news", "a"⟩ none)
  have hb := ha.tail (.attach ⟨.websocket, "/news", "b"⟩ none)
  have hc := hb.tail (.attach ⟨.websocket, "/news", "c"⟩ none)
  exact hc.trans (Hub.edits_modifyLink _ 1 fun _ => rfl)

theorem broadcast_reaches_newsroom :
    let sent := newsroom.broadcast .websocket "/news" (.push "/news" .null)
    sent.1.subjects = newsroom.subjects ∧
    sent.1.links.map Link.queue = [[.push "/news" .null], [], [.push "/news" .null]] ∧
    ∃ gone : List String, sent.2 = .error (.broadcast (gone.map fun id => (id, .closed))) ∧
      gone.Nodup ∧ ∀ id, id ∈ gone ↔ ∃ i,
        (id, i) ∈ [("a", 0), ("b", 1), ("c", 2)] ∧ newsroom.hears i = false := by
  intro sent
  have hs : newsroom.subject? .websocket "/news" =
      some ⟨.websocket, "/news", [("a", 0), ("b", 1), ("c", 2)]⟩ := by decide +kernel
  obtain ⟨hsubjects, _, hok, hgone⟩ :=
    Hub.broadcast_reaches (Hub.orderly_empty.edits newsroom_edits) hs (.push "/news" .null)
  refine ⟨hsubjects, by decide +kernel, hgone fun h => ?_⟩
  have hb := hok.mp h ("b", 1) (by simp)
  revert hb
  decide +kernel

end Switchboard
