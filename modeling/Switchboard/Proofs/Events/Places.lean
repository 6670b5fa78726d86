import Mathlib.Algebra.Group.Nat.Defs
import Mathlib.Data.List.Nodup
import Switchboard.Proofs.Events.Line

/-!
# Where requests and replies are

What every step of a line preserves. The requests are numbered in turn; the number of each one that was
sent is in one place, with the loop, with the receiver or among what was lost; messages keep their
order; and the table of calls that wait names those whose reply is still to come.
-/

namespace Switchboard.Line

variable {ε : Type} {v : Service ε} {l₀ : Link}

open Link (post?_eq put?_eq handOn_some handOn_none)

/-! ## Numbers -/

def numbers (e : Envelope) : List Nat := if e.rid = 0 then [] else [e.rid]

def rids (es : List Envelope) : List Nat := es.flatMap numbers

@[simp] theorem rids_nil : rids [] = [] := rfl

@[simp] theorem rids_cons (e : Envelope) (es : List Envelope) :
    rids (e :: es) = numbers e ++ rids es := List.flatMap_cons

@[simp] theorem rids_append (es fs : List Envelope) : rids (es ++ fs) = rids es ++ rids fs :=
  List.flatMap_append

theorem numbers_congr {e f : Envelope} (h : e.rid = f.rid) : numbers e = numbers f := by
  unfold numbers
  rw [h]

theorem mem_rids {es : List Envelope} {n : Nat} : n ∈ rids es ↔ n ≠ 0 ∧ ∃ e ∈ es, e.rid = n := by
  simp only [rids, numbers, List.mem_flatMap]
  constructor
  · rintro ⟨e, he, hn⟩
    split at hn
    · cases hn
    · rename_i hrid
      obtain rfl := List.mem_singleton.mp hn
      exact ⟨hrid, e, he, rfl⟩
  · rintro ⟨hn, e, he, rfl⟩
    exact ⟨e, he, by simp [hn]⟩

/-- The requests have the numbers 1, 2, 3 and so on. -/
structure Numbered (x : Line) (c : Client) : Prop where
  next : c.nextRid = (x.ops.length + 1) % 2 ^ 64
  rid : ∀ k o, x.ops[k]? = some o → o.rid = k + 1

theorem Numbered.inj {x : Line} {c : Client} (h : x.Numbered c) {o p : Op} (ho : o ∈ x.ops)
    (hp : p ∈ x.ops) (e : o.rid = p.rid) : o = p := by
  obtain ⟨j, hj⟩ := List.mem_iff_getElem?.mp ho
  obtain ⟨k, hk⟩ := List.mem_iff_getElem?.mp hp
  have := h.rid j o hj
  have := h.rid k p hk
  obtain rfl : j = k := by omega
  rw [hj] at hk
  exact Option.some.inj hk

theorem Numbered.rid_ne_zero {x : Line} {c : Client} (h : x.Numbered c) {o : Op} (ho : o ∈ x.ops) :
    o.rid ≠ 0 := by
  obtain ⟨k, hk⟩ := List.mem_iff_getElem?.mp ho
  rw [h.rid k o hk]
  omega

theorem Numbered.mem_advance {x : Line} {c : Client} (h : x.Numbered c) {k : Nat} {o : Op}
    (ho : x.ops[k]? = some o) (s : Stage) (p : Op) :
    p ∈ x.advance k o s ↔ p = o.moved s ∨ p ∈ x.ops ∧ p.rid ≠ o.rid := by
  have hk : k < x.ops.length := (List.getElem?_eq_some_iff.mp ho).1
  have hrid := h.rid k o ho
  simp only [advance, List.mem_iff_getElem?, List.getElem?_set]
  constructor
  · rintro ⟨j, hj⟩
    split at hj
    · rename_i hkj
      exact .inl (Option.some.inj hj).symm
    · rename_i hkj
      refine .inr ⟨⟨j, hj⟩, ?_⟩
      have := h.rid j p hj
      omega
  · rintro (rfl | ⟨⟨j, hj⟩, hne⟩)
    · exact ⟨k, by rw [if_pos rfl, if_pos hk]⟩
    · refine ⟨j, ?_⟩
      have := h.rid j p hj
      rw [if_neg (by omega)]
      exact hj

theorem Numbered.advance {x y : Line} {c c' : Client} {k : Nat} {o : Op} {s : Stage}
    (h : x.Numbered c) (ho : x.ops[k]? = some o) (hy : y.ops = x.advance k o s)
    (hc : c'.nextRid = c.nextRid) : y.Numbered c' := by
  refine ⟨?_, fun j p hj => ?_⟩
  · rw [hc, hy, h.next, Line.advance, List.length_set]
  · rw [hy, Line.advance, List.getElem?_set] at hj
    split at hj
    · rename_i hkj
      split at hj
      · cases hj
        rw [← hkj]
        exact h.rid k o ho
      · cases hj
    · exact h.rid j p hj

/-! ## Where a request is -/

def requests (x : Line) : List Envelope :=
  x.link.inbound.filterMap Arrival.envelope? ++ x.phase.served

def replies (x : Line) : List Envelope := x.link.queue ++ x.handed.map Prod.fst

def places (x : Line) : List Nat := rids x.requests ++ rids x.replies ++ rids x.lost

def Sent (x : Line) (e : Envelope) : Prop := ∃ o ∈ x.ops, o.envelope = e ∧ o.stage = .sent

/-- Every request that was sent is in one place, itself or by its reply: with the loop, with the
receiver, or lost. -/
structure Placed (v : Service ε) (l₀ : Link) (x : Line) : Prop where
  nodup : x.places.Nodup
  mem : ∀ n, n ∈ x.places ↔ ∃ e, x.Sent e ∧ e.rid = n
  own : ∀ e ∈ x.requests, x.Sent e
  made : ∀ r ∈ x.queued, r.rid = 0 ∨ ∃ e, x.Sent e ∧ Served v l₀ e r

theorem Placed.move {x y : Line} (h : x.Placed v l₀) (hsent : ∀ e, y.Sent e ↔ x.Sent e)
    (hplaces : y.places.Perm x.places) (hown : ∀ e ∈ y.requests, e ∈ x.requests)
    (hmade : ∀ r ∈ y.queued, r ∈ x.queued ∨ r.rid = 0 ∨ ∃ e, x.Sent e ∧ Served v l₀ e r) :
    y.Placed v l₀ := by
  refine ⟨hplaces.nodup_iff.mpr h.nodup, fun n => ?_, fun e he => ?_, fun r hr => ?_⟩
  · simp only [hplaces.mem_iff, h.mem, hsent]
  · exact (hsent e).mpr (h.own e (hown e he))
  · simp only [hsent]
    rcases hmade r hr with hr | hr
    · exact h.made r hr
    · exact hr

theorem Placed.add {x y : Line} (h : x.Placed v l₀) {e : Envelope}
    (hsent : ∀ e', y.Sent e' ↔ x.Sent e' ∨ e' = e) (hnew : ∀ e', x.Sent e' → e'.rid ≠ e.rid)
    (hplaces : y.places.Perm (e.rid :: x.places))
    (hown : ∀ e' ∈ y.requests, e' ∈ x.requests ∨ e' = e) (hqueued : y.queued = x.queued) :
    y.Placed v l₀ := by
  have hfresh : e.rid ∉ x.places := by
    rw [h.mem]
    rintro ⟨e', he', hrid⟩
    exact hnew e' he' hrid
  refine ⟨hplaces.nodup_iff.mpr (List.nodup_cons.mpr ⟨hfresh, h.nodup⟩), fun n => ?_,
    fun e' he' => (hsent e').mpr ?_, fun r hr => ?_⟩
  · simp only [hplaces.mem_iff, List.mem_cons, h.mem, hsent]
    constructor
    · rintro (rfl | ⟨e', he', rfl⟩)
      · exact ⟨e, .inr rfl, rfl⟩
      · exact ⟨e', .inl he', rfl⟩
    · rintro ⟨e', he' | rfl, rfl⟩
      · exact .inr ⟨e', he', rfl⟩
      · exact .inl rfl
  · exact (hown e' he').imp_left (h.own e')
  · rw [hqueued] at hr
    refine (h.made r hr).imp_right ?_
    rintro ⟨e', he', hserved⟩
    exact ⟨e', (hsent e').mpr (.inl he'), hserved⟩

section sent

variable {x : Line} {c : Client} (hn : x.Numbered c) {k : Nat} {o : Op} (ho : x.ops[k]? = some o)
include hn ho

theorem sent_advance {y : Line} {s : Stage} (hy : y.ops = x.advance k o s) (hs : o.stage ≠ .sent)
    (e : Envelope) : y.Sent e ↔ x.Sent e ∨ s = .sent ∧ e = o.envelope := by
  unfold Sent
  rw [hy]
  have hmem := List.mem_of_getElem? ho
  constructor
  · rintro ⟨p, hp, rfl, hstage⟩
    rcases (hn.mem_advance ho s p).mp hp with rfl | ⟨hp, _⟩
    · exact .inr ⟨hstage, rfl⟩
    · exact .inl ⟨p, hp, rfl, hstage⟩
  · rintro (⟨p, hp, rfl, hstage⟩ | ⟨rfl, rfl⟩)
    · refine ⟨p, (hn.mem_advance ho s p).mpr (.inr ⟨hp, fun e => hs ?_⟩), rfl, hstage⟩
      rw [← hn.inj hp hmem e]
      exact hstage
    · exact ⟨_, (hn.mem_advance ho .sent _).mpr (.inl rfl), rfl, rfl⟩

theorem sent_advance_ne {y : Line} {s : Stage} (hy : y.ops = x.advance k o s) (hs : o.stage ≠ .sent)
    (hs' : s ≠ .sent) (e : Envelope) : y.Sent e ↔ x.Sent e := by
  simp [sent_advance hn ho hy hs, hs']

theorem rid_ne_of_sent (hs : o.stage ≠ .sent) {e : Envelope} (he : x.Sent e) : e.rid ≠ o.rid := by
  obtain ⟨p, hp, rfl, hstage⟩ := he
  intro e
  rw [hn.inj hp (List.mem_of_getElem? ho) e] at hstage
  exact hs hstage

end sent

/-! ## What a step does to the link -/

theorem take_callback {c c' : Client} {e : Envelope} (h : c.take e = some c') :
    c'.callback = c.callback ∧ c'.nextRid = c.nextRid := by
  unfold Client.take at h
  split at h
  · cases h
    exact ⟨rfl, rfl⟩
  · split at h <;> cases h
    · exact ⟨rfl, rfl⟩
    · exact ⟨rfl, rfl⟩

variable {x y : Line} {c c' : Client}

theorem Step.client (hs : Step v l₀ x y) (hc : x.link.client = some c) :
    ∃ c', y.link.client = some c' ∧ c'.callback = c.callback := by
  cases hs with
  | reserve _ _ _ _ h | wait h | withdraw h | finish h =>
    rw [hc] at h
    cases h
    exact ⟨_, rfl, rfl⟩
  | send _ _ h =>
    obtain ⟨_, rfl⟩ := post?_eq h
    exact ⟨c, hc, rfl⟩
  | push _ _ _ h | reply _ _ h =>
    obtain ⟨_, rfl⟩ := put?_eq h
    exact ⟨c, hc, rfl⟩
  | handOn h _ _ ht =>
    rw [hc] at h
    cases h
    rw [handOn_some ht]
    exact ⟨_, rfl, (take_callback ht).1⟩
  | breakOff h _ _ ht =>
    rw [handOn_none ht]
    exact ⟨c, hc, rfl⟩
  | _ => exact ⟨c, hc, rfl⟩

theorem Step.length_le (hs : Step v l₀ x y) : x.ops.length ≤ y.ops.length := by
  cases hs <;> simp [advance]

theorem Numbered.reserve (h : x.Numbered c) (waits : Bool) (uri : String)
    (header : List (String × String)) (body : Option (List Char)) {y : Line}
    (hy : y.ops = x.ops ++ [{ waits, envelope := { rid := c.reserve.1, uri, header, body } }])
    (hbound : y.ops.length < 2 ^ 64) : y.Numbered c.reserve.2 := by
  have hnext := h.next
  rw [hy, List.length_append, List.length_singleton] at hbound
  rw [Nat.mod_eq_of_lt hbound] at hnext
  refine ⟨?_, fun k o hk => ?_⟩
  · show (c.nextRid + 1) % 2 ^ 64 = _
    rw [hnext, hy, List.length_append, List.length_singleton]
  · rw [hy, List.getElem?_append] at hk
    split at hk
    · exact h.rid k o hk
    · rw [List.getElem?_singleton] at hk
      split at hk
      · cases hk
        show c.nextRid = k + 1
        omega
      · cases hk

theorem Numbered.same (h : x.Numbered c) (hc : c'.nextRid = c.nextRid) (hy : y.ops = x.ops) :
    y.Numbered c' := by
  refine ⟨?_, ?_⟩
  · rw [hc, hy]
    exact h.next
  · rw [hy]
    exact h.rid

theorem Numbered.step (h : x.Numbered c) (hc : x.link.client = some c)
    (hc' : y.link.client = some c') (hs : Step v l₀ x y) (hbound : y.ops.length < 2 ^ 64) :
    y.Numbered c' := by
  cases hs with
  | reserve waits uri header body h' =>
    cases hc.symm.trans h'
    cases hc'
    exact h.reserve waits uri header body rfl hbound
  | wait h' ho | withdraw h' ho =>
    cases hc.symm.trans h'
    cases hc'
    exact h.advance ho rfl rfl
  | send ho _ hl =>
    obtain ⟨_, rfl⟩ := post?_eq hl
    cases hc.symm.trans hc'
    exact h.advance ho rfl rfl
  | refuse ho =>
    cases hc.symm.trans hc'
    exact h.advance ho rfl rfl
  | handOn h' _ _ ht =>
    cases hc.symm.trans h'
    rw [handOn_some ht] at hc'
    cases hc'
    exact h.same (take_callback ht).2 rfl
  | breakOff _ _ _ ht =>
    rw [handOn_none ht] at hc'
    cases hc.symm.trans hc'
    exact h.same rfl rfl
  | finish h' =>
    cases hc.symm.trans h'
    cases hc'
    exact h.same rfl rfl
  | push _ _ _ hl | reply _ _ hl =>
    obtain ⟨_, rfl⟩ := put?_eq hl
    cases hc.symm.trans hc'
    exact h.same rfl rfl
  | _ =>
    cases hc.symm.trans hc'
    exact h.same rfl rfl

/-! ## Requests keep their places -/

/-- Numbers may change their group as long as none comes or goes. -/
theorem places_perm
    (h : ∀ n, (rids y.requests).count n + (rids y.replies).count n + (rids y.lost).count n =
      (rids x.requests).count n + (rids x.replies).count n + (rids x.lost).count n) :
    y.places.Perm x.places := by
  rw [List.perm_iff_count]
  intro n
  simp only [places, List.count_append]
  exact h n

theorem ready_ne_sent {o : Op} (h : o.Ready) : o.stage ≠ .sent := by
  unfold Op.Ready at h
  rw [h]
  split <;> decide

theorem Placed.step (h : x.Placed v l₀) (hn : x.Numbered c) (hs : Step v l₀ x y) :
    y.Placed v l₀ := by
  cases hs with
  | reserve waits uri header body =>
    refine h.move (fun e => ?_) (.refl _) (fun _ => id) (fun _ => .inl)
    simp [Sent, or_and_right, exists_or]
  | wait _ ho _ hstage | withdraw _ ho hstage =>
    exact h.move (sent_advance_ne hn ho rfl (by simp [hstage]) (by decide)) (.refl _) (fun _ => id)
      (fun _ => .inl)
  | refuse ho hready =>
    refine h.move (sent_advance_ne hn ho rfl (ready_ne_sent hready) ?_) (.refl _) (fun _ => id)
      (fun _ => .inl)
    split <;> decide
  | @send k o _ ho hready hl =>
    obtain ⟨_, rfl⟩ := post?_eq hl
    have hne := ready_ne_sent hready
    have hrid : numbers o.envelope = [o.envelope.rid] :=
      if_neg (hn.rid_ne_zero (List.mem_of_getElem? ho))
    refine h.add (fun e => (sent_advance hn ho rfl hne e).trans ?_)
      (fun e => rid_ne_of_sent hn ho hne) ?_ (fun e he => ?_) rfl
    · simp
    · rw [List.perm_iff_count]
      intro n
      simp [places, requests, replies, hrid, List.count_cons]
      omega
    · simpa [requests, or_assoc, or_comm, or_left_comm] using he
  | push uri value _ hl =>
    obtain ⟨_, rfl⟩ := put?_eq hl
    have hrid : numbers (.push uri value) = [] := rfl
    refine h.move (fun _ => .rfl) (places_perm fun n => ?_) (fun _ => id) (fun r hr => ?_)
    · simp [requests, replies, hrid]
    · rcases List.mem_append.mp hr with hr | hr
      · exact .inl hr
      · rw [List.mem_singleton.mp hr]
        exact .inr (.inl rfl)
  | read hphase hin he =>
    refine h.move (fun _ => .rfl) (places_perm fun n => ?_) (fun r hr => ?_) (fun _ => .inl)
    · simp [requests, replies, hphase, hin]
      omega
    · simpa [requests, hphase, hin, or_comm] using hr
  | skip hphase hin he =>
    refine h.move (fun _ => .rfl) (places_perm fun n => ?_) (fun r hr => ?_) (fun _ => .inl)
    · simp [requests, replies, hphase, hin, numbers, he]
    · simpa [requests, hphase, hin] using Or.inr hr
  | @reply e r _ hphase hr hl =>
    obtain ⟨_, rfl⟩ := put?_eq hl
    have hrid : numbers r = numbers e := numbers_congr hr.rid
    have he : x.Sent e := h.own e (by simp [requests, hphase])
    refine h.move (fun _ => .rfl) (places_perm fun n => ?_) (fun r hr => ?_) (fun r' hr' => ?_)
    · simp [requests, replies, hphase, hrid]
      omega
    · simp [requests, hphase] at hr ⊢
      exact .inl hr
    · rcases List.mem_append.mp hr' with hr' | hr'
      · exact .inl hr'
      · rw [List.mem_singleton.mp hr']
        exact .inr (.inr ⟨e, he, hr⟩)
  | @unheard e r hphase hr hl =>
    have hrid : numbers r = numbers e := numbers_congr hr.rid
    refine h.move (fun _ => .rfl) (places_perm fun n => ?_) (fun r hr => ?_) (fun _ => .inl)
    · simp [requests, replies, hphase, hrid]
      omega
    · simp [requests, hphase] at hr ⊢
      exact .inl hr
  | deafen hphase =>
    refine h.move (fun _ => .rfl) (places_perm fun n => ?_) (fun r hr => ?_) (fun _ => .inl)
    · simp [requests, replies, hphase, Link.deafen]
      omega
    · simp [requests, Link.deafen] at hr
  | handOn _ _ hq ht =>
    rw [handOn_some ht]
    refine h.move (fun _ => .rfl) (places_perm fun n => ?_) (fun _ => id) (fun _ => .inl)
    simp [requests, replies, hq]
    omega
  | breakOff _ _ hq ht =>
    rw [handOn_none ht]
    refine h.move (fun _ => .rfl) (places_perm fun n => ?_) (fun _ => id) (fun _ => .inl)
    simp [requests, replies, hq]
    omega
  | quit hphase | leave hphase | close hphase =>
    refine h.move (fun _ => .rfl) (places_perm fun n => ?_) (fun r hr => ?_) (fun _ => .inl)
    · simp [requests, replies, hphase]
    · simpa [requests, hphase] using hr
  | _ => exact h.move (fun _ => .rfl) (.refl _) (fun _ => id) (fun _ => .inl)

/-! ## Messages keep their order -/

/-- Messages are handed on in the order in which they were queued; all of them, unless the receiver has
been broken off. -/
structure Ordered (x : Line) : Prop where
  order : ∃ cut, x.queued = x.handed.map Prod.fst ++ x.link.queue ++ cut ∧ cut.Sublist x.lost ∧
    (cut = [] ∨ x.link.receiving = false ∧ x.ended = false)
  ended : x.ended = true → x.link.receiving = false ∧ x.link.queue = [] ∧ ¬ x.HasSender
  deaf : x.link.loop = .ended ↔ x.phase = .deaf ∨ x.phase = .over

theorem Ordered.of_receiving (h : x.Ordered) (hr : x.link.receiving = true) :
    x.queued = x.handed.map Prod.fst ++ x.link.queue ∧ x.ended = false := by
  obtain ⟨cut, horder, _, hcut⟩ := h.order
  refine ⟨?_, eq_false_of_ne_true fun he => ?_⟩
  · rcases hcut with rfl | hf
    · rw [horder, List.append_nil]
    · rw [hr] at hf
      cases hf.1
  · have := (h.ended he).1
    rw [hr] at this
    cases this

theorem Ordered.keep (h : x.Ordered) (hqueued : y.queued = x.queued) (hhanded : y.handed = x.handed)
    (hqueue : y.link.queue = x.link.queue) (hlost : x.lost.Sublist y.lost)
    (hrec : y.link.receiving = x.link.receiving) (hended : y.ended = x.ended)
    (hsender : y.HasSender → x.HasSender)
    (hdeaf : y.link.loop = .ended ↔ y.phase = .deaf ∨ y.phase = .over) : y.Ordered := by
  refine ⟨?_, ?_, hdeaf⟩
  · obtain ⟨cut, horder, hsub, hcut⟩ := h.order
    rw [hqueued, hhanded, hqueue, hrec, hended]
    exact ⟨cut, horder, hsub.trans hlost, hcut⟩
  · rw [hqueue, hrec, hended]
    exact fun he => (h.ended he).imp_right (And.imp_right (mt hsender))

theorem Ordered.whole (h : x.Ordered) (hrec : x.link.receiving = true)
    (hqueued : y.queued = y.handed.map Prod.fst ++ y.link.queue) (hended : y.ended = x.ended)
    (hdeaf : y.link.loop = .ended ↔ y.phase = .deaf ∨ y.phase = .over) : y.Ordered := by
  refine ⟨⟨[], ?_, List.nil_sublist _, .inl rfl⟩, fun he => ?_, hdeaf⟩
  · rw [hqueued, List.append_nil]
  · rw [hended, (h.of_receiving hrec).2] at he
    cases he

theorem Ordered.step (h : x.Ordered) (hs : Step v l₀ x y) : y.Ordered := by
  cases hs with
  | send _ _ hl =>
    obtain ⟨_, rfl⟩ := post?_eq hl
    exact h.keep rfl rfl rfl (.refl _) rfl rfl id h.deaf
  | expel => exact h.keep rfl rfl rfl (.refl _) rfl rfl (Or.imp_left fun hf => nomatch hf) h.deaf
  | lend hstanding =>
    exact h.keep rfl rfl rfl (.refl _) rfl rfl (fun _ => .inl hstanding) h.deaf
  | giveBack =>
    refine h.keep rfl rfl rfl (.refl _) rfl rfl (Or.imp_right (Or.imp_left fun hl => ?_)) h.deaf
    exact Nat.lt_of_lt_of_le hl (Nat.sub_le _ _)
  | start hloop =>
    refine h.keep rfl rfl rfl (.refl _) rfl rfl id ?_
    rw [← h.deaf, hloop]
    simp
  | push _ _ _ hl =>
    obtain ⟨hrec, rfl⟩ := put?_eq hl
    refine h.whole hrec ?_ rfl h.deaf
    rw [(h.of_receiving hrec).1, List.append_assoc]
  | reply hphase _ hl =>
    obtain ⟨hrec, rfl⟩ := put?_eq hl
    have hdeaf := h.deaf
    refine h.whole hrec ?_ rfl (by simpa [hphase] using hdeaf)
    rw [(h.of_receiving hrec).1, List.append_assoc]
  | read hphase | unheard hphase | quit hphase =>
    have hdeaf := h.deaf
    have hsender : x.HasSender := .inr (.inr (by simp [hphase]))
    exact h.keep rfl rfl rfl (by simp) rfl rfl (fun _ => hsender) (by simpa [hphase] using hdeaf)
  | leave hphase | deafen hphase | close hphase =>
    have hdeaf := h.deaf
    have hsender : x.HasSender := .inr (.inr (by simp [hphase]))
    exact h.keep rfl rfl rfl (by simp) rfl rfl (fun _ => hsender) (by simp_all [Link.deafen])
  | handOn _ hrec hq ht =>
    rw [handOn_some ht]
    refine h.whole hrec ?_ rfl h.deaf
    simp [(h.of_receiving hrec).1, hq]
  | @breakOff _ e rest _ hrec hq ht =>
    obtain ⟨horder, hnot⟩ := h.of_receiving hrec
    rw [handOn_none ht]
    refine ⟨⟨rest, ?_, List.sublist_append_right _ _, .inr ⟨rfl, hnot⟩⟩, fun he => ?_, h.deaf⟩
    · simp [horder, hq]
    · rw [hnot] at he
      cases he
  | finish _ hrec hq hsender =>
    refine ⟨⟨[], ?_, List.nil_sublist _, .inl rfl⟩, fun _ => ⟨rfl, hq, hsender⟩, h.deaf⟩
    rw [(h.of_receiving hrec).1, List.append_nil]
    rfl
  | _ => exact h.keep rfl rfl rfl (.refl _) rfl rfl id h.deaf

/-! ## The table of calls that wait -/

def handedRids (x : Line) : List Nat := rids (x.handed.map Prod.fst)

def answers (x : Line) : List (Nat × Envelope) :=
  x.handed.filterMap fun p =>
    match p.2 with
    | .call n => some (n, p.1)
    | _ => none

def calledBack (x : Line) : List Envelope :=
  (x.handed.filter (·.2 = .callback)).map Prod.fst

def Panicked (b : Callback) (x : Line) : Prop := b = .panics ∧ ∃ e, (e, Recipient.callback) ∈ x.handed

/-- A request whose name stands in the table: it is not sent yet, or its reply is still to come. -/
def Waits (x : Line) (o : Op) : Prop :=
  o.waits = true ∧ (o.stage = .listed ∨ o.stage = .refused ∨
    o.stage = .sent ∧ x.ended = false ∧ o.rid ∉ x.handedRids)

/-- How a message was handed on: replies to calls to these, all else to the callback. -/
def Delivery (b : Callback) (x : Line) (p : Envelope × Recipient) : Prop :=
  p.2 = .call p.1.rid ∧ (∃ o ∈ x.ops, o.waits = true ∧ o.stage = .sent ∧ o.rid = p.1.rid) ∨
  p.2 = b.recipient ∧ (p.1.rid = 0 ∨
    ∃ o ∈ x.ops, o.waits = false ∧ o.stage = .sent ∧ o.rid = p.1.rid)

/-- The table of the client and what it has received agree with what has become of its requests. -/
structure Tied (b : Callback) (x : Line) (c : Client) : Prop where
  callback : c.callback = b
  nodup : c.pending.Nodup
  waits : ∀ n ∈ c.pending, ∃ o ∈ x.ops, o.rid = n ∧ x.Waits o
  waiting : x.ended = false → ∀ o ∈ x.ops, o.waits = true →
    o.stage = .listed ∨ o.stage = .sent → o.rid ∈ c.pending ∨ o.rid ∈ x.handedRids
  handed : ∀ p ∈ x.handed, x.Delivery b p
  answered : c.answered = x.answers
  delivered : b = .collect → c.delivered = x.calledBack
  /-- Only a panic of the callback stops the receiver before its time. -/
  panicked : x.Panicked b ↔ x.link.receiving = false ∧ x.ended = false

section tied

variable {b : Callback} {e : Envelope}

theorem Waits.mono {o : Op} (h : x.Waits o) (hended : y.ended = x.ended)
    (hhanded : o.rid ∈ y.handedRids → o.rid ∈ x.handedRids) : y.Waits o := by
  refine ⟨h.1, h.2.imp_right (Or.imp_right fun hs => ⟨hs.1, hended.trans hs.2.1, ?_⟩)⟩
  exact mt hhanded hs.2.2

theorem Tied.keep (h : x.Tied b c) (hops : y.ops = x.ops) (hhanded : y.handed = x.handed)
    (hended : y.ended = x.ended) (hrec : y.link.receiving = x.link.receiving) : y.Tied b c := by
  have hrids : y.handedRids = x.handedRids := by rw [handedRids, hhanded, handedRids]
  refine ⟨h.callback, h.nodup, fun n hn => ?_, fun hlive o ho => ?_, fun p hp => ?_, ?_, ?_, ?_⟩
  · obtain ⟨o, ho, hrid, hw⟩ := h.waits n hn
    exact ⟨o, hops ▸ ho, hrid, hw.mono hended (hrids ▸ id)⟩
  · rw [hrids]
    exact h.waiting (hended ▸ hlive) o (hops ▸ ho)
  · unfold Delivery
    rw [hops]
    exact h.handed p (hhanded ▸ hp)
  · rw [h.answered, answers, answers, hhanded]
  · rw [calledBack, hhanded]
    exact h.delivered
  · rw [Panicked, hhanded, hended, hrec]
    exact h.panicked

theorem delivery_mono {p : Envelope × Recipient} (h : x.Delivery b p)
    (hops : ∀ o ∈ x.ops, o.stage = .sent → o ∈ y.ops) : y.Delivery b p := by
  rcases h with ⟨hp, o, ho, hw, hs, hrid⟩ | ⟨hp, hrid | ⟨o, ho, hw, hs, hrid⟩⟩
  · exact .inl ⟨hp, o, hops o ho hs, hw, hs, hrid⟩
  · exact .inr ⟨hp, .inl hrid⟩
  · exact .inr ⟨hp, .inr ⟨o, hops o ho hs, hw, hs, hrid⟩⟩

/-- A request comes further; `c'` has the table as it is then. -/
theorem Tied.advance (h : x.Tied b c) (hn : x.Numbered c) {k : Nat} {o : Op} {s : Stage}
    (ho : x.ops[k]? = some o) (hs : o.stage ≠ .sent) (hops : y.ops = x.advance k o s)
    (hhanded : y.handed = x.handed) (hended : y.ended = x.ended)
    (hrec : y.link.receiving = x.link.receiving) (hc : c'.callback = c.callback)
    (hanswered : c'.answered = c.answered) (hdelivered : c'.delivered = c.delivered)
    (hnodup : c'.pending.Nodup)
    (hpending : ∀ n, n ≠ o.rid → (n ∈ c'.pending ↔ n ∈ c.pending))
    (hwaits : o.rid ∈ c'.pending → y.Waits (o.moved s))
    (hwaiting : x.ended = false → o.waits = true → s = .listed ∨ s = .sent →
      o.rid ∈ c'.pending ∨ o.rid ∈ x.handedRids) : y.Tied b c' := by
  have hmem := List.mem_of_getElem? ho
  have hrids : y.handedRids = x.handedRids := by rw [handedRids, hhanded, handedRids]
  have hother : ∀ p ∈ x.ops, p.rid ≠ o.rid → p ∈ y.ops := fun p hp hne =>
    hops ▸ (hn.mem_advance ho s p).mpr (.inr ⟨hp, hne⟩)
  refine ⟨hc.trans h.callback, hnodup, fun n hn' => ?_, fun hlive p hp hw hstage => ?_,
    fun p hp => ?_, ?_, ?_, ?_⟩
  · by_cases hno : n = o.rid
    · subst hno
      exact ⟨o.moved s, hops ▸ (hn.mem_advance ho s _).mpr (.inl rfl), rfl, hwaits hn'⟩
    · obtain ⟨p, hp, rfl, hw⟩ := h.waits n ((hpending n hno).mp hn')
      exact ⟨p, hother p hp hno, rfl, hw.mono hended (hrids ▸ id)⟩
  · rw [hrids]
    rw [hops, hn.mem_advance ho s] at hp
    rcases hp with rfl | ⟨hp, hne⟩
    · exact hwaiting (hended ▸ hlive) hw hstage
    · rw [hpending p.rid hne]
      exact h.waiting (hended ▸ hlive) p hp hw hstage
  · refine delivery_mono (h.handed p (hhanded ▸ hp)) fun q hq hsent => hother q hq fun e => hs ?_
    rw [← hn.inj hq hmem e]
    exact hsent
  · rw [hanswered, h.answered, answers, answers, hhanded]
  · rw [hdelivered, calledBack, hhanded]
    exact h.delivered
  · rw [Panicked, hhanded, hended, hrec]
    exact h.panicked

theorem Placed.fresh (hp : x.Placed v l₀) {e : Envelope} (he : e ∈ x.link.queue) (hrid : e.rid ≠ 0) :
    e.rid ∉ x.handedRids ∧ ∃ o ∈ x.ops, o.rid = e.rid ∧ o.stage = .sent := by
  have hqueue : e.rid ∈ rids x.link.queue := mem_rids.mpr ⟨hrid, e, he, rfl⟩
  have hnodup := hp.nodup
  have hmem := (hp.mem e.rid).mp
  simp only [places, replies, rids_append, List.nodup_append, List.mem_append] at hnodup hmem
  refine ⟨fun hhanded => ?_, ?_⟩
  · exact hnodup.1.2.1.2.2 e.rid hqueue e.rid hhanded rfl
  · obtain ⟨e', ⟨o, ho, rfl, hs⟩, hrid'⟩ := hmem (.inl (.inr (.inl hqueue)))
    exact ⟨o, ho, hrid', hs⟩

theorem Placed.not_handed (hp : x.Placed v l₀) (hn : x.Numbered c) {o : Op} (ho : o ∈ x.ops)
    (hs : o.stage ≠ .sent) : o.rid ∉ x.handedRids := by
  intro hhanded
  obtain ⟨e', ⟨p, hp', rfl, hs'⟩, hrid⟩ := (hp.mem o.rid).mp (by
    simp only [places, replies, rids_append, List.mem_append]
    exact .inl (.inr (.inr hhanded)))
  rw [← hn.inj hp' ho hrid] at hs
  exact hs hs'

theorem Tied.delivery (h : x.Tied b c) (hn : x.Numbered c) (hp : x.Placed v l₀) {e : Envelope}
    (he : e ∈ x.link.queue) (hlive : x.ended = false) : x.Delivery b (e, c.recipient e) := by
  unfold Client.recipient
  by_cases hrid : e.rid = 0
  · rw [if_neg (fun hw => hw.1 hrid), h.callback]
    exact .inr ⟨rfl, .inl hrid⟩
  · obtain ⟨hnew, o, ho, horid, hs⟩ := hp.fresh he hrid
    by_cases hpending : e.rid ∈ c.pending
    · rw [if_pos ⟨hrid, hpending⟩]
      obtain ⟨p, hp', hprid, hw⟩ := h.waits e.rid hpending
      rw [hn.inj hp' ho (hprid.trans horid.symm)] at hw
      exact .inl ⟨rfl, o, ho, hw.1, hs, horid⟩
    · rw [if_neg (fun hw => hpending hw.2), h.callback]
      refine .inr ⟨rfl, .inr ⟨o, ho, eq_false_of_ne_true fun hw => ?_, hs, horid⟩⟩
      have := h.waiting hlive o ho hw (.inr hs)
      rw [horid] at this
      exact this.elim hpending hnew

theorem Tied.eq_of_pending (h : x.Tied b c) (hn : x.Numbered c) {o : Op} (ho : o ∈ x.ops)
    (hpending : o.rid ∈ c.pending) : x.Waits o := by
  obtain ⟨p, hp, hrid, hw⟩ := h.waits o.rid hpending
  rwa [hn.inj hp ho hrid] at hw

theorem recipient_of_not {e : Envelope} (h : ¬ (e.rid ≠ 0 ∧ e.rid ∈ c.pending)) :
    c.recipient e = c.callback.recipient := if_neg h

theorem recipient_ne_call (n : Nat) : b.recipient ≠ .call n := by
  cases b <;> simp [Callback.recipient]

theorem answers_call {e : Envelope} {n : Nat} (hy : y.handed = x.handed ++ [(e, .call n)]) :
    y.answers = x.answers ++ [(n, e)] := by
  simp [answers, hy]

theorem answers_other {e : Envelope} (hy : y.handed = x.handed ++ [(e, b.recipient)]) :
    y.answers = x.answers := by
  cases b <;> simp [answers, hy, Callback.recipient]

theorem panicked_call {e : Envelope} {n : Nat} (hy : y.handed = x.handed ++ [(e, .call n)]) :
    y.Panicked b ↔ x.Panicked b := by
  simp [Panicked, hy]

theorem calledBack_call {e : Envelope} {n : Nat} (hy : y.handed = x.handed ++ [(e, .call n)]) :
    y.calledBack = x.calledBack := by
  simp [calledBack, hy]

theorem calledBack_other {e : Envelope}
    (hy : y.handed = x.handed ++ [(e, Callback.collect.recipient)]) :
    y.calledBack = x.calledBack ++ [e] := by
  simp [calledBack, hy, Callback.recipient]

theorem take_other {e : Envelope} (hw : ¬ (e.rid ≠ 0 ∧ e.rid ∈ c.pending))
    (h : c.take e = some c') : c'.callback = c.callback ∧ c'.pending = c.pending ∧
      c'.answered = c.answered ∧ (c.callback = .collect → c'.delivered = c.delivered ++ [e]) := by
  unfold Client.take at h
  rw [if_neg hw] at h
  split at h <;> cases h <;> simp_all

theorem handedRids_concat {e : Envelope} {r : Recipient} (hy : y.handed = x.handed ++ [(e, r)]) :
    y.handedRids = x.handedRids ++ numbers e := by
  simp [handedRids, hy]

theorem mem_numbers {e : Envelope} {n : Nat} : n ∈ numbers e ↔ n = e.rid ∧ e.rid ≠ 0 := by
  unfold numbers
  split <;> simp_all

theorem deliveries {e : Envelope} {r : Recipient} (h : ∀ p ∈ x.handed, x.Delivery b p)
    (hnew : x.Delivery b (e, r)) (hops : y.ops = x.ops) (hhanded : y.handed = x.handed ++ [(e, r)]) :
    ∀ p ∈ y.handed, y.Delivery b p := by
  intro p hp
  rw [hhanded] at hp
  refine delivery_mono ?_ fun o ho _ => hops ▸ ho
  rcases List.mem_append.mp hp with hp | hp
  · exact h p hp
  · rw [List.mem_singleton.mp hp]
    exact hnew

theorem Tied.answer (h : x.Tied b c) (hnew : x.Delivery b (e, .call e.rid))
    (hlive : x.ended = false) (hrid : e.rid ≠ 0) (hops : y.ops = x.ops)
    (hhanded : y.handed = x.handed ++ [(e, .call e.rid)]) (hended : y.ended = x.ended)
    (hrec : y.link.receiving = x.link.receiving) :
    y.Tied b { c with
      pending := c.pending.erase e.rid, answered := c.answered ++ [(e.rid, e)] } := by
  have hrids := handedRids_concat hhanded
  refine ⟨h.callback, h.nodup.erase _, fun n hn => ?_, fun _ o ho hw hstage => ?_,
    deliveries h.handed hnew hops hhanded, ?_, fun hb => ?_, ?_⟩
  · obtain ⟨hne, hn⟩ := h.nodup.mem_erase_iff.mp hn
    obtain ⟨o, ho, rfl, hw⟩ := h.waits n hn
    refine ⟨o, hops ▸ ho, rfl, hw.mono hended fun hh => ?_⟩
    rw [hrids, List.mem_append, mem_numbers] at hh
    exact hh.resolve_right fun he => hne he.1
  · rw [hrids, List.mem_append, mem_numbers]
    by_cases he : o.rid = e.rid
    · exact .inr (.inr ⟨he, hrid⟩)
    · exact (h.waiting hlive o (hops ▸ ho) hw hstage).imp (h.nodup.mem_erase_iff.mpr ⟨he, ·⟩) .inl
  · rw [answers_call hhanded, ← h.answered]
  · rw [calledBack_call hhanded, ← h.delivered hb]
  · rw [panicked_call hhanded, hended, hrec]
    exact h.panicked

theorem Tied.pass (h : x.Tied b c) (hnew : x.Delivery b (e, b.recipient))
    (hw : ¬ (e.rid ≠ 0 ∧ e.rid ∈ c.pending)) (hops : y.ops = x.ops)
    (hhanded : y.handed = x.handed ++ [(e, b.recipient)]) (hended : y.ended = x.ended)
    (hlive : x.ended = false) (hc : c'.callback = c.callback) (hpending : c'.pending = c.pending)
    (hanswered : c'.answered = c.answered)
    (hdelivered : b = .collect → c'.delivered = c.delivered ++ [e])
    (hpanicked : y.Panicked b ↔ y.link.receiving = false) : y.Tied b c' := by
  have hrids := handedRids_concat hhanded
  refine ⟨hc.trans h.callback, hpending ▸ h.nodup, fun n hn => ?_, fun _ o ho hw' hstage => ?_,
    deliveries h.handed hnew hops hhanded, ?_, fun hb => ?_, ?_⟩
  · rw [hpending] at hn
    obtain ⟨o, ho, rfl, hw'⟩ := h.waits n hn
    refine ⟨o, hops ▸ ho, rfl, hw'.mono hended fun hh => ?_⟩
    rw [hrids, List.mem_append, mem_numbers] at hh
    refine hh.resolve_right fun he => hw ⟨he.2, ?_⟩
    rwa [← he.1]
  · rw [hrids, List.mem_append, hpending]
    exact (h.waiting hlive o (hops ▸ ho) hw' hstage).imp_right .inl
  · rw [hanswered, answers_other hhanded, h.answered]
  · subst hb
    rw [hdelivered rfl, calledBack_other hhanded, h.delivered rfl]
  · rw [hpanicked, hended, hlive, and_iff_left rfl]

theorem Tied.step (h : x.Tied b c) (hn : x.Numbered c) (hp : x.Placed v l₀) (ho : x.Ordered)
    (hc : x.link.client = some c) (hc' : y.link.client = some c') (hs : Step v l₀ x y) :
    y.Tied b c' := by
  cases hs with
  | reserve waits uri header body h' =>
    cases hc.symm.trans h'
    cases hc'
    refine ⟨h.callback, h.nodup, fun n hn' => ?_, fun hlive o ho hw hstage => ?_, fun p hp' => ?_,
      h.answered, h.delivered, h.panicked⟩
    · obtain ⟨o, ho, hrid, hw⟩ := h.waits n hn'
      exact ⟨o, List.mem_append_left _ ho, hrid, hw⟩
    · rcases List.mem_append.mp ho with ho | ho
      · exact h.waiting hlive o ho hw hstage
      · rw [List.mem_singleton.mp ho] at hstage
        simp at hstage
    · exact delivery_mono (h.handed p hp') fun o ho _ => List.mem_append_left _ ho
  | @wait _ k o h' hk hw hstage =>
    cases hc.symm.trans h'
    cases hc'
    have hnew : o.rid ∉ c.pending := fun hpending => by
      have := (h.eq_of_pending hn (List.mem_of_getElem? hk) hpending).2
      simp [hstage] at this
    refine h.advance hn hk (by simp [hstage]) rfl rfl rfl rfl rfl rfl rfl ?_ (fun n hne => ?_)
      (fun _ => ⟨hw, .inl rfl⟩) (fun _ _ _ => .inl ?_)
    · rw [Client.wait, ← List.concat_eq_append]
      exact List.Nodup.concat hnew h.nodup
    · simp [Client.wait, hne]
    · simp [Client.wait]
  | @send k o _ hk hready hl =>
    obtain ⟨hloop, rfl⟩ := post?_eq hl
    cases hc.symm.trans hc'
    have hmem := List.mem_of_getElem? hk
    have hne := ready_ne_sent hready
    refine h.advance hn hk hne rfl rfl rfl rfl rfl rfl rfl h.nodup (fun _ _ => .rfl)
      (fun hpending => ?_) (fun hlive hw _ => ?_)
    · -- the loop still reads, so the receiver has not ended
      have hlive : x.ended = false := eq_false_of_ne_true fun he =>
        (ho.ended he).2.2 (.inr (.inr fun hover => hloop (ho.deaf.mpr (.inr hover))))
      have hnot := hp.not_handed hn hmem hne
      exact ⟨(h.eq_of_pending hn hmem hpending).1, .inr (.inr ⟨rfl, hlive, hnot⟩)⟩
    · refine h.waiting hlive o hmem hw (.inl ?_)
      rw [hready, if_pos hw]
  | @refuse k o hk hready =>
    cases hc.symm.trans hc'
    refine h.advance hn hk (ready_ne_sent hready) rfl rfl rfl rfl rfl rfl rfl h.nodup
      (fun _ _ => .rfl) (fun hpending => ?_) (fun _ hw hstage => ?_)
    · have hw := (h.eq_of_pending hn (List.mem_of_getElem? hk) hpending).1
      exact ⟨hw, .inr (.inl (if_pos hw))⟩
    · rw [if_pos hw] at hstage
      simp at hstage
  | @withdraw _ k o h' hk hstage =>
    cases hc.symm.trans h'
    cases hc'
    refine h.advance hn hk (by simp [hstage]) rfl rfl rfl rfl rfl rfl rfl (h.nodup.erase _)
      (fun n hne => ?_) (fun hpending => ?_) (fun _ _ hs => by simp at hs)
    · simp [Client.withdraw, h.nodup.mem_erase_iff, hne]
    · exact absurd hpending h.nodup.not_mem_erase
  | @handOn _ c₁ e rest h' hrec hq ht =>
    cases hc.symm.trans h'
    rw [handOn_some ht] at hc' ⊢
    cases hc'
    have hlive := (ho.of_receiving hrec).2
    have hnew := h.delivery hn hp (e := e) (by simp [hq]) hlive
    by_cases hw : e.rid ≠ 0 ∧ e.rid ∈ c.pending
    · have hto : c.recipient e = .call e.rid := if_pos hw
      rw [Client.take, if_pos hw] at ht
      cases ht
      rw [hto] at hnew ⊢
      exact h.answer hnew hlive hw.1 rfl rfl rfl rfl
    · obtain ⟨hcallback, hpending, hanswered, hdelivered⟩ := take_other hw ht
      have hne : b ≠ .panics := by
        rintro rfl
        simp [Client.take, hw, h.callback] at ht
      rw [recipient_of_not hw, h.callback] at hnew ⊢
      exact h.pass hnew hw rfl rfl rfl hlive hcallback hpending hanswered
        (fun hb => hdelivered (h.callback.trans hb))
        (iff_of_false (fun hp => hne hp.1) (ne_true_of_eq_false · hrec))
  | @breakOff _ e rest h' hrec hq ht =>
    cases hc.symm.trans h'
    rw [handOn_none ht] at hc' ⊢
    cases hc.symm.trans hc'
    have hlive := (ho.of_receiving hrec).2
    have hnew := h.delivery hn hp (e := e) (by simp [hq]) hlive
    have hw : ¬ (e.rid ≠ 0 ∧ e.rid ∈ c.pending) := fun hw => by
      rw [Client.take, if_pos hw] at ht
      cases ht
    have hb : b = .panics := by
      rw [Client.take, if_neg hw, h.callback] at ht
      split at ht
      · cases ht
      · cases ht
      · rfl
    subst hb
    rw [recipient_of_not hw, h.callback] at hnew ⊢
    exact h.pass hnew hw rfl rfl rfl hlive rfl rfl rfl (fun he => nomatch he)
      (iff_of_true ⟨rfl, e, List.mem_append_right _ List.mem_cons_self⟩ rfl)
  | finish h' hrec hq =>
    cases hc.symm.trans h'
    cases hc'
    have hnot : ¬ x.Panicked b := fun hp => ne_true_of_eq_false (h.panicked.mp hp).1 hrec
    refine ⟨h.callback, List.nodup_nil, fun n hn' => absurd hn' List.not_mem_nil,
      (fun hf => nomatch hf), h.handed, h.answered, h.delivered,
      iff_of_false hnot fun hf => nomatch hf.2⟩
  | push _ _ _ hl | reply _ _ hl =>
    obtain ⟨_, rfl⟩ := put?_eq hl
    cases hc.symm.trans hc'
    exact h.keep rfl rfl rfl rfl
  | _ =>
    cases hc.symm.trans hc'
    exact h.keep rfl rfl rfl rfl

end tied

end Switchboard.Line
