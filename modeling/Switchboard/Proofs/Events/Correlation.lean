import Mathlib.Data.List.Flatten
import Switchboard.Proofs.Events.Places

/-!
# Calls and their replies

Whatever the order of the steps, a call that comes back with a reply comes back with the one reply to
its own request, no message goes to two receivers, and what no call waits for goes to the callback. A
receiver that ends in its own time gives up the calls that wait. A callback that panics ends the receiver
before that, and the calls without a reply then wait for ever.
-/

namespace Switchboard.Line

variable {ε : Type} {v : Service ε} {l₀ : Link} {b : Callback} {x y : Line} {c : Client}

open Link (post?_eq put?_eq)

/-! ## All that holds of a line -/

structure Correct (v : Service ε) (l₀ : Link) (b : Callback) (x : Line) (c : Client) : Prop where
  client : x.link.client = some c
  numbered : x.Numbered c
  placed : x.Placed v l₀
  ordered : x.Ordered
  tied : x.Tied b c

theorem Correct.step (h : Correct v l₀ b x c) (hs : Step v l₀ x y) (hbound : y.ops.length < 2 ^ 64) :
    ∃ c', Correct v l₀ b y c' := by
  obtain ⟨c', hc', _⟩ := hs.client h.client
  exact ⟨c', hc', h.numbered.step h.client hc' hs hbound, h.placed.step h.numbered hs,
    h.ordered.step hs, h.tied.step h.numbered h.placed h.ordered h.client hc' hs⟩

theorem opened_correct (path id : String) :
    Correct v l₀ b (opened path id b) { callback := b } := by
  refine ⟨rfl, ⟨rfl, by simp [opened]⟩, ⟨?_, ?_, ?_, ?_⟩, ⟨⟨[], ?_, ?_, .inl rfl⟩, ?_, ?_⟩,
    ⟨rfl, List.nodup_nil, ?_, ?_, ?_, rfl, fun _ => rfl, ?_⟩⟩ <;>
    simp [opened, places, requests, replies, Sent, Panicked]

theorem Correct.steps (h : Correct v l₀ b x c) (hs : Steps v l₀ x y) (hbound : y.ops.length < 2 ^ 64) :
    ∃ c', Correct v l₀ b y c' := by
  induction hs with
  | refl => exact ⟨c, h⟩
  | tail _ hs ih =>
    obtain ⟨c', hc'⟩ := ih (Nat.lt_of_le_of_lt hs.length_le hbound)
    exact hc'.step hs hbound

theorem Reach.correct {path id : String} (h : Reach v path id b x) (hbound : x.ops.length < 2 ^ 64) :
    ∃ c, Correct v (opened path id b).link b x c :=
  (opened_correct path id).steps h hbound

/-! ## What the callers see -/

/-- How a call has come back; `none` as long as its caller waits. -/
def outcome (x : Line) (o : Op) : Option (Except Error Envelope) :=
  match o.stage with
  | .failed => some (.error .closed)
  | .sent => x.link.client.bind (·.result? o.rid)
  | _ => none

/-- A message that is for no call: a push, or the reply to a request that nobody waits for. -/
def Unclaimed (x : Line) (e : Envelope) : Prop :=
  e.rid = 0 ∨ ∃ o ∈ x.ops, o.waits = false ∧ o.rid = e.rid

def Answered (x : Line) (o : Op) : Prop := ∃ e, (e, Recipient.call o.rid) ∈ x.handed

/-- A panic of the callback has come after the replies to all calls that were sent. -/
def Settled (b : Callback) (x : Line) : Prop :=
  x.Panicked b → ∀ o ∈ x.ops, o.waits = true → o.stage = .sent → x.Answered o

structure Correlated (v : Service ε) (l₀ : Link) (b : Callback) (x : Line) : Prop where
  /-- A call gets the only reply with its number, and that is a reply to its own request. -/
  reply : ∀ o ∈ x.ops, o.waits = true → ∀ e, x.outcome o = some (.ok e) →
    e.rid = o.rid ∧ Served v l₀ o.envelope e ∧ x.queued.filter (·.rid = o.rid) = [e]
  /-- A call that comes back otherwise finds the connection closed. -/
  closed : ∀ o ∈ x.ops, o.waits = true → ∀ e, x.outcome o = some (.error e) → e = .closed
  /-- Each request that was sent is in one place: with the loop, with the receiver, or lost. -/
  placed : x.places.Nodup ∧ ∀ n, n ∈ x.places ↔ ∃ o ∈ x.ops, o.stage = .sent ∧ o.rid = n
  /-- Each message is handed on once, in the order of the queue, and each number once. -/
  once : x.handed.map Prod.fst ++ x.link.queue <+: x.queued ∧ (rids x.queued).Nodup
  /-- Replies to calls go to their calls, and no call gets anything else. -/
  claimed : ∀ p ∈ x.handed, ∀ o ∈ x.ops, o.waits = true → o.rid = p.1.rid → p.2 = .call o.rid
  unclaimed : ∀ p ∈ x.handed, x.Unclaimed p.1 → p.2 = b.recipient
  called : b = .collect → x.link.client.map (·.delivered) = some x.calledBack
  /-- The receiver ends in its own time, or by a panic of the callback. -/
  stopped : (x.link.receiving = false ↔ x.ended = true ∨ x.Panicked b) ∧
    ¬ (x.ended = true ∧ x.Panicked b)
  drained : x.ended = true → x.queued = x.handed.map Prod.fst
  /-- When the receiver has ended, a call that was sent waits exactly if the callback has panicked before
  its reply was handed on. -/
  waits : x.link.receiving = false → ∀ o ∈ x.ops, o.waits = true → o.stage = .sent →
    (x.outcome o = none ↔ x.Panicked b ∧ ¬ x.Answered o)
  /-- So when no call is about to send, or to take its name off after it could not, none waits exactly if
  all that were sent had been answered before a panic. -/
  ended : x.link.receiving = false → (∀ o ∈ x.ops, o.stage ≠ .listed ∧ o.stage ≠ .refused) →
    (x.link.client.map (·.pending) = some [] ↔ x.Settled b) ∧
      ((∀ o ∈ x.ops, o.waits = true → o.stage ≠ .numbered → x.outcome o ≠ none) ↔ x.Settled b)
  /-- Once the receiver has ended, a call that waits goes on waiting. -/
  forever : x.link.receiving = false → ∀ y, Steps v l₀ x y → y.ops.length < 2 ^ 64 →
    ∀ o ∈ x.ops, o.waits = true → o.stage = .sent → x.outcome o = none → y.outcome o = none

theorem filter_rid {es : List Envelope} (h : (rids es).Nodup) {e : Envelope} (he : e ∈ es)
    (hrid : e.rid ≠ 0) : es.filter (·.rid = e.rid) = [e] := by
  induction es with
  | nil => exact absurd he List.not_mem_nil
  | cons f es ih =>
    rw [rids_cons, List.nodup_append] at h
    obtain ⟨_, hes, hdisjoint⟩ := h
    by_cases hf : f.rid = e.rid
    · -- no envelope further on has the number of the first
      have hnone : ∀ g ∈ es, g.rid ≠ e.rid := fun g hg hge =>
        hdisjoint f.rid (mem_numbers.mpr ⟨rfl, hf ▸ hrid⟩) g.rid
          (mem_rids.mpr ⟨hge ▸ hrid, g, hg, rfl⟩) (hf.trans hge.symm)
      obtain rfl : e = f := (List.mem_cons.mp he).resolve_right fun he => hnone e he rfl
      rw [List.filter_cons_of_pos (by simp), List.filter_eq_nil_iff.mpr (by simpa using hnone)]
    · have he : e ∈ es := (List.mem_cons.mp he).resolve_left fun h => hf (h ▸ rfl)
      rw [List.filter_cons_of_neg (by simpa using hf)]
      exact ih hes he

theorem Step.still (hs : Step v l₀ x y) (hrec : x.link.receiving = false) :
    y.link.receiving = false ∧ y.handed = x.handed ∧ y.ended = x.ended ∧
      ∀ o ∈ x.ops, o.stage = .sent → o ∈ y.ops := by
  have hadvance {k : Nat} {o p : Op} {s : Stage} (hk : x.ops[k]? = some o) (hne : o.stage ≠ .sent)
      (hp : p ∈ x.ops) (hsent : p.stage = .sent) : p ∈ x.advance k o s := by
    obtain ⟨j, hj⟩ := List.mem_iff_getElem?.mp hp
    have hkj : k ≠ j := by
      rintro rfl
      rw [hk] at hj
      cases hj
      exact hne hsent
    exact List.mem_iff_getElem?.mpr ⟨j, (List.getElem?_set_ne hkj).trans hj⟩
  cases hs with
  | reserve => exact ⟨hrec, rfl, rfl, fun o ho _ => List.mem_append_left _ ho⟩
  | wait _ hk _ hstage | withdraw _ hk hstage =>
    exact ⟨hrec, rfl, rfl, fun o ho hs => hadvance hk (by simp [hstage]) ho hs⟩
  | refuse hk hready =>
    exact ⟨hrec, rfl, rfl, fun o ho hs => hadvance hk (ready_ne_sent hready) ho hs⟩
  | send hk hready hl =>
    obtain ⟨_, rfl⟩ := post?_eq hl
    exact ⟨hrec, rfl, rfl, fun o ho hs => hadvance hk (ready_ne_sent hready) ho hs⟩
  | push _ _ _ hl | reply _ _ hl => exact absurd (put?_eq hl).1 (ne_true_of_eq_false hrec)
  | handOn _ hlive | breakOff _ hlive | finish _ hlive => exact absurd hlive (ne_true_of_eq_false hrec)
  | _ => exact ⟨hrec, rfl, rfl, fun o ho _ => ho⟩

theorem Steps.still (hs : Steps v l₀ x y) (hrec : x.link.receiving = false) :
    y.link.receiving = false ∧ y.handed = x.handed ∧ y.ended = x.ended ∧
      ∀ o ∈ x.ops, o.stage = .sent → o ∈ y.ops := by
  induction hs with
  | refl => exact ⟨hrec, rfl, rfl, fun o ho _ => ho⟩
  | tail _ hs ih =>
    obtain ⟨hrec', hhanded, hended, hsent⟩ := ih
    obtain ⟨hrec'', hhanded', hended', hsent'⟩ := hs.still hrec'
    exact ⟨hrec'', hhanded'.trans hhanded, hended'.trans hended,
      fun o ho hs => hsent' o (hsent o ho hs) hs⟩

theorem rids_sublist {es fs : List Envelope} (h : es.Sublist fs) : (rids es).Sublist (rids fs) :=
  h.flatMap numbers

namespace Correct

variable (h : Correct v l₀ b x c)
include h

theorem queued_nodup : (rids x.queued).Nodup := by
  obtain ⟨cut, horder, hcut, _⟩ := h.ordered.order
  have hnodup := h.placed.nodup
  rw [places, replies, rids_append, List.append_assoc, List.nodup_append] at hnodup
  have hsub : (rids x.link.queue ++ rids (x.handed.map Prod.fst) ++ rids cut).Nodup :=
    hnodup.2.1.sublist ((List.Sublist.refl _).append (rids_sublist hcut))
  rw [horder, rids_append, rids_append]
  exact ((List.perm_append_comm.append_right _).nodup_iff).mp hsub

theorem mem_queued {p : Envelope × Recipient} (hp : p ∈ x.handed) : p.1 ∈ x.queued := by
  obtain ⟨cut, horder, _⟩ := h.ordered.order
  rw [horder]
  exact List.mem_append_left _ (List.mem_append_left _ (List.mem_map_of_mem hp))

theorem claimed_call {p : Envelope × Recipient} (hp : p ∈ x.handed) {o : Op} (ho : o ∈ x.ops)
    (hw : o.waits = true) (hrid : o.rid = p.1.rid) : p.2 = .call o.rid := by
  rcases h.tied.handed p hp with ⟨hto, _⟩ | ⟨_, hzero | ⟨q, hq, hw', _, hrid'⟩⟩
  · rw [hto, hrid]
  · exact absurd (hrid.trans hzero) (h.numbered.rid_ne_zero ho)
  · rw [h.numbered.inj hq ho (hrid'.trans hrid.symm), hw] at hw'
    cases hw'

theorem unclaimed_callback {p : Envelope × Recipient} (hp : p ∈ x.handed) (hfree : x.Unclaimed p.1) :
    p.2 = b.recipient := by
  rcases h.tied.handed p hp with ⟨_, q, hq, hw, _, hrid⟩ | ⟨hto, _⟩
  · rcases hfree with hzero | ⟨o, ho, hw', hrid'⟩
    · exact absurd (hrid.trans hzero) (h.numbered.rid_ne_zero hq)
    · rw [h.numbered.inj ho hq (hrid'.trans hrid.symm), hw] at hw'
      cases hw'
  · exact hto

theorem answered_reply {o : Op} (ho : o ∈ x.ops) {e : Envelope}
    (he : c.answered.lookup o.rid = some e) :
    e.rid = o.rid ∧ Served v l₀ o.envelope e ∧ x.queued.filter (·.rid = o.rid) = [e] := by
  obtain ⟨_, _, hsplit, _⟩ := List.lookup_eq_some_iff.mp he
  have hmem : (o.rid, e) ∈ x.answers := by
    rw [← h.tied.answered, hsplit]
    exact List.mem_append_right _ List.mem_cons_self
  obtain ⟨⟨f, r⟩, hp, hf⟩ := List.mem_filterMap.mp hmem
  cases r with
  | call n =>
    obtain ⟨rfl, rfl⟩ := Prod.mk.inj (Option.some.inj hf)
    have hrid : f.rid = o.rid := by
      rcases h.tied.handed _ hp with ⟨hto, _⟩ | ⟨hto, _⟩
      · exact (Recipient.call.inj hto).symm
      · exact absurd hto.symm (recipient_ne_call _)
    have hne : f.rid ≠ 0 := hrid ▸ h.numbered.rid_ne_zero ho
    have hqueued := h.mem_queued hp
    obtain ⟨_, ⟨p, hp', rfl, _⟩, hserved⟩ := (h.placed.made f hqueued).resolve_left hne
    rw [h.numbered.inj hp' ho (hserved.rid.symm.trans hrid)] at hserved
    exact ⟨hrid, hserved, hrid ▸ filter_rid h.queued_nodup hqueued hne⟩
  | _ => cases hf

theorem ended_iff (hrec : x.link.receiving = false) : x.ended = false ↔ x.Panicked b :=
  ⟨fun he => h.tied.panicked.mpr ⟨hrec, he⟩, fun hp => (h.tied.panicked.mp hp).2⟩

theorem stopped_iff : x.link.receiving = false ↔ x.ended = true ∨ x.Panicked b := by
  constructor
  · intro hrec
    rw [← h.ended_iff hrec]
    exact (Bool.eq_false_or_eq_true x.ended)
  · rintro (he | hp)
    · exact (h.ordered.ended he).1
    · exact (h.tied.panicked.mp hp).1

theorem answered_iff {o : Op} (ho : o ∈ x.ops) (hw : o.waits = true) :
    x.Answered o ↔ o.rid ∈ x.handedRids := by
  rw [handedRids, mem_rids]
  constructor
  · rintro ⟨e, he⟩
    refine ⟨h.numbered.rid_ne_zero ho, e, List.mem_map_of_mem he, ?_⟩
    rcases h.tied.handed _ he with ⟨hto, _⟩ | ⟨hto, _⟩
    · exact (Recipient.call.inj hto).symm
    · exact absurd hto.symm (recipient_ne_call _)
  · rintro ⟨-, e, he, hrid⟩
    obtain ⟨⟨_, r⟩, hp, rfl⟩ := List.mem_map.mp he
    obtain rfl : r = .call o.rid := h.claimed_call hp ho hw hrid.symm
    exact ⟨_, hp⟩

/-- A call that was sent stands in the table from then on until it is answered or given up. -/
theorem pending_iff {o : Op} (ho : o ∈ x.ops) (hw : o.waits = true) (hs : o.stage = .sent) :
    o.rid ∈ c.pending ↔ x.ended = false ∧ ¬ x.Answered o := by
  rw [h.answered_iff ho hw]
  constructor
  · intro hpending
    obtain ⟨-, hlisted | hrefused | ⟨_, he, hnot⟩⟩ := h.tied.eq_of_pending h.numbered ho hpending
    · rw [hs] at hlisted
      cases hlisted
    · rw [hs] at hrefused
      cases hrefused
    · exact ⟨he, hnot⟩
  · rintro ⟨he, hnot⟩
    exact (h.tied.waiting he o ho hw (.inr hs)).resolve_right hnot

theorem outcome_none_iff {o : Op} (ho : o ∈ x.ops) (hw : o.waits = true) (hs : o.stage = .sent) :
    x.outcome o = none ↔ x.ended = false ∧ ¬ x.Answered o := by
  rw [← h.pending_iff ho hw hs]
  unfold outcome
  simp only [hs, h.client, Option.bind_some, Client.result?]
  cases hlookup : c.answered.lookup o.rid with
  | none => simp
  | some e =>
    refine iff_of_false (by simp) fun hpending => ?_
    obtain ⟨-, hnot⟩ := (h.pending_iff ho hw hs).mp hpending
    obtain ⟨_, _, hsplit, _⟩ := List.lookup_eq_some_iff.mp hlookup
    have hmem : (o.rid, e) ∈ x.answers := by
      rw [← h.tied.answered, hsplit]
      exact List.mem_append_right _ List.mem_cons_self
    obtain ⟨⟨f, r⟩, hp, hf⟩ := List.mem_filterMap.mp hmem
    cases r with
    | call n =>
      obtain ⟨rfl, rfl⟩ := Prod.mk.inj (Option.some.inj hf)
      exact hnot ⟨f, hp⟩
    | _ => cases hf

theorem pending_nil_iff (hrec : x.link.receiving = false)
    (hmid : ∀ o ∈ x.ops, o.stage ≠ .listed ∧ o.stage ≠ .refused) :
    c.pending = [] ↔ x.Settled b := by
  constructor
  · intro hnil hp o ho hw hs
    by_contra hnot
    have hpending := (h.pending_iff ho hw hs).mpr ⟨(h.ended_iff hrec).mpr hp, hnot⟩
    rw [hnil] at hpending
    cases hpending
  · intro hsettled
    refine List.eq_nil_iff_forall_not_mem.mpr fun n hn => ?_
    obtain ⟨o, ho, rfl, hw, hstage⟩ := h.tied.waits n hn
    have hs : o.stage = .sent := by
      rcases hstage with hlisted | hrefused | ⟨hs, _⟩
      · exact absurd hlisted (hmid o ho).1
      · exact absurd hrefused (hmid o ho).2
      · exact hs
    obtain ⟨he, hnot⟩ := (h.pending_iff ho hw hs).mp hn
    exact hnot (hsettled ((h.ended_iff hrec).mp he) o ho hw hs)

theorem outcomes_iff (hrec : x.link.receiving = false)
    (hmid : ∀ o ∈ x.ops, o.stage ≠ .listed ∧ o.stage ≠ .refused) :
    (∀ o ∈ x.ops, o.waits = true → o.stage ≠ .numbered → x.outcome o ≠ none) ↔ x.Settled b := by
  constructor
  · intro hall hp o ho hw hs
    by_contra hnot
    refine hall o ho hw (by simp [hs]) ((h.outcome_none_iff ho hw hs).mpr ⟨?_, hnot⟩)
    exact (h.ended_iff hrec).mpr hp
  · intro hsettled o ho hw hstage hnone
    cases hs : o.stage with
    | sent =>
      obtain ⟨he, hnot⟩ := (h.outcome_none_iff ho hw hs).mp hnone
      exact hnot (hsettled ((h.ended_iff hrec).mp he) o ho hw hs)
    | failed => simp [outcome, hs] at hnone
    | numbered => exact hstage hs
    | listed => exact (hmid o ho).1 hs
    | refused => exact (hmid o ho).2 hs

theorem reply_of_outcome {o : Op} (ho : o ∈ x.ops) {e : Envelope} (he : x.outcome o = some (.ok e)) :
    e.rid = o.rid ∧ Served v l₀ o.envelope e ∧ x.queued.filter (·.rid = o.rid) = [e] := by
  unfold outcome at he
  split at he
  · cases he
  · rw [h.client, Option.bind_some, Client.result?] at he
    split at he
    · rename_i hlookup
      cases he
      exact h.answered_reply ho hlookup
    · split at he <;> cases he
  · cases he

theorem closed_of_outcome {o : Op} {e : Error} (he : x.outcome o = some (.error e)) : e = .closed := by
  unfold outcome at he
  split at he
  · cases he
    rfl
  · rw [h.client, Option.bind_some, Client.result?] at he
    split at he
    · cases he
    · split at he <;> cases he
      rfl
  · cases he

theorem mem_places_iff (n : Nat) : n ∈ x.places ↔ ∃ o ∈ x.ops, o.stage = .sent ∧ o.rid = n := by
  refine (h.placed.mem n).trans ⟨?_, ?_⟩
  · rintro ⟨_, ⟨o, ho, rfl, hs⟩, rfl⟩
    exact ⟨o, ho, hs, rfl⟩
  · rintro ⟨o, ho, hs, rfl⟩
    exact ⟨o.envelope, ⟨o, ho, rfl, hs⟩, rfl⟩

theorem handed_prefix : x.handed.map Prod.fst ++ x.link.queue <+: x.queued := by
  obtain ⟨cut, horder, _⟩ := h.ordered.order
  exact ⟨cut, horder.symm⟩

theorem drained (he : x.ended = true) : x.queued = x.handed.map Prod.fst := by
  obtain ⟨cut, horder, _, hcut⟩ := h.ordered.order
  obtain rfl : cut = [] := hcut.resolve_right fun hlive => by
    rw [he] at hlive
    cases hlive.2
  rw [horder, (h.ordered.ended he).2.1, List.append_nil, List.append_nil]

theorem not_ended_of_panicked (hp : x.Panicked b) : x.ended ≠ true := by
  rw [(h.tied.panicked.mp hp).2]
  exact Bool.false_ne_true

theorem waits_on (hrec : x.link.receiving = false) (hsteps : Steps v l₀ x y)
    (hbound : y.ops.length < 2 ^ 64) {o : Op} (ho : o ∈ x.ops) (hw : o.waits = true)
    (hs : o.stage = .sent) (hnone : x.outcome o = none) : y.outcome o = none := by
  obtain ⟨c', hc'⟩ := h.steps hsteps hbound
  obtain ⟨-, hhanded, hended, hsent⟩ := hsteps.still hrec
  rw [hc'.outcome_none_iff (hsent o ho hs) hw hs, hended, Answered, hhanded]
  exact (h.outcome_none_iff ho hw hs).mp hnone

theorem correlated : Correlated v l₀ b x where
  reply _ ho _ _ := h.reply_of_outcome ho
  closed _ _ _ _ := h.closed_of_outcome
  placed := ⟨h.placed.nodup, h.mem_places_iff⟩
  once := ⟨h.handed_prefix, h.queued_nodup⟩
  claimed _ hp _ := h.claimed_call hp
  unclaimed _ := h.unclaimed_callback
  called hb := by rw [h.client, Option.map_some, h.tied.delivered hb]
  stopped := ⟨h.stopped_iff, fun hboth => h.not_ended_of_panicked hboth.2 hboth.1⟩
  drained := h.drained
  waits hrec o ho hw hs := by rw [h.outcome_none_iff ho hw hs, h.ended_iff hrec]
  ended hrec hmid := by
    rw [h.client, Option.map_some, Option.some_inj]
    exact ⟨h.pending_nil_iff hrec hmid, h.outcomes_iff hrec hmid⟩
  forever hrec _ hsteps hbound _ := h.waits_on hrec hsteps hbound

end Correct

def pong : Exchange Unit Unit := do
  let _ ← Exchange.post .call "/s" none (.push "/pong" .null)
  Exchange.modify (·.noContent 204)

def pinged : Service Unit := (({} : Service Unit).add .call "/ping" pong []).1

def ping : Envelope := { rid := 1, uri := "/ping" }

theorem ping_served :
    Served pinged (opened "/s" "a" .collect).link ping { rid := 1, uri := "/ping" } := by
  have h : (({} : Running Unit).answer pinged 1 (opened "/s" "a" .collect).link ping).map Prod.fst =
      some { rid := 1, uri := "/ping" } := by decide +kernel
  obtain ⟨⟨r, u⟩, hr, he⟩ := Option.map_eq_some_iff.mp h
  exact ⟨{}, 1, u, hr.trans (congrArg (fun r => some (r, u)) he)⟩

end Switchboard.Line
