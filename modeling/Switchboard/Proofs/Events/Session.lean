import Mathlib.Data.List.Forall2
import Mathlib.Logic.Relation
import Switchboard.Events.Frames
import Switchboard.Proofs.Events.Loops

/-!
# One reply for each request

One connection, to a client within the process or over a WebSocket, in steps that can come in any order:
what the other side sends, what other tasks push, the serving loop, and the one who takes messages out
of the queue. Any task can push at any time, and the connection can be closed, or the service be stopped,
at any time.

Whatever the order of the steps, as long as someone takes the messages the queue has been given one reply
to each request that the loop has finished serving, in the order in which the requests came in, and
pushes in between.
-/

namespace Switchboard

variable {ε : Type}

def Arrival.request? : Arrival → Option Envelope
  | envelope e => if e.rid = 0 then none else some e
  | _ => none

def LoopPhase.Serves : LoopPhase → Prop
  | reading | serving _ => True
  | _ => False

inductive Origin where
  | reply
  | push
deriving DecidableEq

structure Session where
  link : Link
  stopped : Bool := false
  phase : LoopPhase := .reading
  /-- What has come in while the loop could read it. -/
  arrived : List Arrival := []
  /-- What the loop has read. -/
  taken : List Arrival := []
  finished : List Envelope := []
  /-- All that was ever put into the queue. -/
  queued : List (Origin × Envelope) := []
  /-- What was taken out of the queue. -/
  handed : List Envelope := []

namespace Session

def opened (k : Key) (client : Option Client) : Session :=
  { link := { method := k.method, path := k.path, id := k.id, client } }

def replies (x : Session) : List Envelope := (x.queued.filter (·.1 = .reply)).map Prod.snd

inductive Step (v : Service ε) : Session → Session → Prop
  -- the other side
  | frame {x : Session} (f : Frame) : x.link.loop ≠ .ended →
    Step v x { x with
      link := { x.link with inbound := x.link.inbound ++ f.arrival?.toList }
      arrived := x.arrived ++ f.arrival?.toList }
  | post {x : Session} {e : Envelope} {l : Link} : x.link.post? e = some l →
    Step v x { x with link := l, arrived := x.arrived ++ [.envelope e] }
  | hangUp {x : Session} : Step v x { x with link := { x.link with sending := false } }
  | client {x : Session} (c : Client) : Step v x { x with link := x.link.withClient c }
  -- other tasks
  | push {x : Session} {e : Envelope} {l : Link} : x.link.put? e = some l →
    Step v x { x with link := l, queued := x.queued ++ [(.push, e)] }
  | cancel {x : Session} : Step v x { x with link := x.link.cancel }
  | stop {x : Session} : Step v x { x with stopped := true }
  -- the serving loop
  | start {x : Session} : x.link.loop = .ready →
    Step v x { x with link := { x.link with loop := .running } }
  | read {x : Session} {e : Envelope} {rest : List Arrival} :
    x.phase = .reading → x.link.inbound = .envelope e :: rest → e.rid ≠ 0 →
    Step v x { x with
      link := { x.link with inbound := rest }, taken := x.taken ++ [.envelope e]
      phase := .serving e }
  | skip {x : Session} {e : Envelope} {rest : List Arrival} :
    x.phase = .reading → x.link.inbound = .envelope e :: rest → e.rid = 0 →
    Step v x { x with
      link := { x.link with inbound := rest }, taken := x.taken ++ [.envelope e] }
  | discard {x : Session} {rest : List Arrival} :
    x.phase = .reading → x.link.inbound = .malformed :: rest →
    Step v x { x with
      link := { x.link with inbound := rest }, taken := x.taken ++ [.malformed] }
  | lose {x : Session} {a : Arrival} {rest : List Arrival} :
    x.phase = .reading → x.link.inbound = a :: rest → a = .broken ∨ a = .closing →
    Step v x { x with
      link := { x.link with inbound := rest }, taken := x.taken ++ [a], phase := .leaving }
  | reply {x : Session} {e r : Envelope} {l : Link} :
    x.phase = .serving e → Served v x.link e r → x.link.put? r = some l →
    Step v x { x with
      link := l, phase := .reading, finished := x.finished ++ [e]
      queued := x.queued ++ [(.reply, r)] }
  | unheard {x : Session} {e r : Envelope} :
    x.phase = .serving e → Served v x.link e r → x.link.put? r = none →
    Step v x { x with phase := .leaving, finished := x.finished ++ [e] }
  | quit {x : Session} :
    x.phase = .reading →
    x.link.cancelled = true ∨ x.stopped = true ∨ x.link.inbound = [] ∧ x.link.sending = false →
    Step v x { x with phase := .leaving }
  | leave {x : Session} : x.phase = .leaving → Step v x { x with phase := .left }
  | deafen {x : Session} : x.phase = .left →
    Step v x { x with phase := .deaf, link := x.link.deafen }
  | close {x : Session} : x.phase = .deaf → Step v x { x with phase := .over }
  -- who takes messages out of the queue, and can end at any time
  | handOn {x : Session} {e : Envelope} {rest : List Envelope} :
    x.link.receiving = true → x.link.queue = e :: rest →
    Step v x { x with link := { x.link with queue := rest }, handed := x.handed ++ [e] }
  | breakOff {x : Session} :
    Step v x { x with link := { x.link with queue := [], receiving := false } }

abbrev Steps (v : Service ε) : Session → Session → Prop := Relation.ReflTransGen (Step v)

def Reach (v : Service ε) (k : Key) (client : Option Client) : Session → Prop :=
  Steps v (opened k client)

/-- The reply to a request, however the service stands when it is made. -/
structure Answers (v : Service ε) (l : Link) (e r : Envelope) : Prop where
  rid : r.rid = e.rid
  uri : r.uri = e.uri
  served : Served v l e r
  failure : Uri.ofString? e.uri = none →
    r = .failure e.rid e.uri (HttpError.new 400 ("invalid uri `" ++ e.uri ++ "`"))

def Ending (x : Session) : Prop :=
  x.link.cancelled = true ∨ x.stopped = true ∨ x.link.sending = false ∨ x.link.receiving = false ∨
    ∃ a ∈ x.taken, a = .broken ∨ a = .closing

structure InOrder (v : Service ε) (l : Link) (x : Session) : Prop where
  name : x.link.method = l.method ∧ x.link.id = l.id
  /-- As long as someone takes them, the replies are one to each request that was served. -/
  replies : x.link.receiving = true → List.Forall₂ (Answers v l) x.finished x.replies
  /-- The requests are served in the order in which the loop reads them; it passes over the rest. -/
  requests : x.finished ++ x.phase.served = x.taken.filterMap Arrival.request?
  /-- The loop reads what has come in, in order, and as long as it can read nothing is lost. -/
  taken : x.taken ++ x.link.inbound <+: x.arrived
  unread : x.link.loop ≠ .ended → x.taken ++ x.link.inbound = x.arrived
  /-- Messages leave the queue in order, and each one once. -/
  queued : x.link.receiving = true → x.queued.map Prod.snd = x.handed ++ x.link.queue
  /-- Nothing that was passed over ends the loop. -/
  serves : x.phase.Serves ∨ x.Ending

variable {v : Service ε} {x y : Session} {l : Link}

open Link (put?_eq post?_eq)

/-! ## What a step does to the link -/

theorem Step.name (hs : Step v x y) :
    y.link.method = x.link.method ∧ y.link.id = x.link.id := by
  cases hs with
  | post h =>
    obtain ⟨_, rfl⟩ := post?_eq h
    exact ⟨rfl, rfl⟩
  | push h | reply _ _ h =>
    obtain ⟨_, rfl⟩ := put?_eq h
    exact ⟨rfl, rfl⟩
  | _ => exact ⟨rfl, rfl⟩

theorem Step.receiving (hs : Step v x y) (hy : y.link.receiving = true) :
    x.link.receiving = true := by
  cases hs with
  | post h =>
    obtain ⟨_, rfl⟩ := post?_eq h
    exact hy
  | push h | reply _ _ h =>
    exact (put?_eq h).1
  | breakOff => cases hy
  | _ => exact hy

theorem Step.ending (hs : Step v x y) (hx : x.Ending) : y.Ending := by
  cases hs with
  | post h =>
    obtain ⟨_, rfl⟩ := post?_eq h
    exact hx
  | push h | reply _ _ h =>
    obtain ⟨_, rfl⟩ := put?_eq h
    exact hx
  | cancel => exact .inl rfl
  | stop => exact .inr (.inl rfl)
  | hangUp => exact .inr (.inr (.inl rfl))
  | breakOff => exact .inr (.inr (.inr (.inl rfl)))
  | read | skip | discard | lose =>
    refine hx.imp_right (Or.imp_right (Or.imp_right (Or.imp_right fun ⟨a, ha, hends⟩ => ?_)))
    exact ⟨a, List.mem_append_left _ ha, hends⟩
  | _ => exact hx

/-! ## Replies -/

theorem toRequest_invalid {e : Envelope} (h : Uri.ofString? e.uri = none) (m : Method) (id : String) :
    e.toRequest m id = .error (HttpError.new 400 ("invalid uri `" ++ e.uri ++ "`")) := by
  unfold Envelope.toRequest
  rw [h]
  rfl

theorem Answers.of_served {e r : Envelope} (h : Served v l e r) : Answers v l e r := by
  rcases h.cases with ⟨f, hf, rfl⟩ | ⟨q, a, hq, rfl⟩
  · refine ⟨rfl, rfl, h, fun huri => ?_⟩
    rw [toRequest_invalid huri] at hf
    cases hf
    rfl
  · refine ⟨rfl, rfl, h, fun huri => ?_⟩
    rw [toRequest_invalid huri] at hq
    cases hq

/-! ## What every step keeps -/

namespace InOrder

variable (h : InOrder v l x) (hs : Step v x y)
include h hs

theorem replies_step (hy : y.link.receiving = true) :
    List.Forall₂ (Answers v l) y.finished y.replies := by
  have hx := h.replies (hs.receiving hy)
  cases hs with
  | push => simpa [Session.replies] using hx
  | reply _ hserved =>
    have hanswers := Answers.of_served (hserved.congr h.name)
    simpa [Session.replies] using List.rel_append hx (.cons hanswers .nil)
  | unheard _ _ hput =>
    -- nobody takes the reply
    unfold Link.put? at hput
    rw [if_pos hy] at hput
    cases hput
  | _ => exact hx

theorem requests_step :
    y.finished ++ y.phase.served = y.taken.filterMap Arrival.request? := by
  have hx := h.requests
  cases hs with
  | read hphase _ hrid => simp [← hx, hphase, Arrival.request?, hrid]
  | skip hphase _ hrid => simp [← hx, Arrival.request?, hrid]
  | discard => simp [← hx, Arrival.request?]
  | lose hphase _ ha => rcases ha with rfl | rfl <;> simp [← hx, hphase, Arrival.request?]
  | reply hphase | unheard hphase => simpa [hphase] using hx
  | quit hphase | leave hphase | deafen hphase | close hphase => simpa [hphase] using hx
  | _ => exact hx

theorem unread_step (hy : y.link.loop ≠ .ended) : y.taken ++ y.link.inbound = y.arrived := by
  cases hs with
  | frame f hloop => rw [← List.append_assoc, h.unread hloop]
  | post hpost =>
    obtain ⟨hloop, rfl⟩ := post?_eq hpost
    rw [← List.append_assoc, h.unread hloop]
  | start hready => exact h.unread (by simp [hready])
  | read _ hin | skip _ hin | discard _ hin | lose _ hin =>
    have hx := h.unread hy
    rw [hin] at hx
    simpa using hx
  | push hput | reply _ _ hput =>
    obtain ⟨_, rfl⟩ := put?_eq hput
    exact h.unread hy
  | deafen => exact absurd rfl hy
  | _ => exact h.unread hy

theorem taken_step : y.taken ++ y.link.inbound <+: y.arrived := by
  by_cases hy : y.link.loop = .ended
  · cases hs with
    | frame f hloop => exact absurd hy hloop
    | post hpost =>
      obtain ⟨hloop, rfl⟩ := post?_eq hpost
      exact absurd hy hloop
    | read _ hin | skip _ hin | discard _ hin | lose _ hin =>
      have hx := h.taken
      rw [hin] at hx
      simpa using hx
    | push hput | reply _ _ hput =>
      obtain ⟨_, rfl⟩ := put?_eq hput
      exact h.taken
    | deafen =>
      have hx := (List.prefix_append x.taken x.link.inbound).trans h.taken
      simpa [Link.deafen] using hx
    | _ => exact h.taken
  · exact ⟨[], (List.append_nil _).trans (h.unread_step hs hy)⟩

theorem queued_step (hy : y.link.receiving = true) :
    y.queued.map Prod.snd = y.handed ++ y.link.queue := by
  have hx := h.queued (hs.receiving hy)
  cases hs with
  | post hpost =>
    obtain ⟨_, rfl⟩ := post?_eq hpost
    exact hx
  | push hput | reply _ _ hput =>
    obtain ⟨_, rfl⟩ := put?_eq hput
    simp [hx]
  | handOn _ hqueue => simp [hx, hqueue]
  | breakOff => cases hy
  | _ => exact hx

theorem serves_step : y.phase.Serves ∨ y.Ending := by
  rcases h.serves with hx | hx
  · cases hs with
    | read | reply => exact .inl trivial
    | lose _ _ ha => exact .inr (.inr (.inr (.inr (.inr ⟨_, by simp, ha⟩))))
    | unheard _ _ hput =>
      have hreceiving : x.link.receiving = false := by simpa [Link.put?] using hput
      exact .inr (.inr (.inr (.inr (.inl hreceiving))))
    | quit _ hend =>
      rcases hend with hend | hend | ⟨_, hend⟩
      · exact .inr (.inl hend)
      · exact .inr (.inr (.inl hend))
      · exact .inr (.inr (.inr (.inl hend)))
    | leave hphase | deafen hphase | close hphase =>
      rw [hphase] at hx
      exact hx.elim
    | _ => exact .inl hx
  · exact .inr (hs.ending hx)

theorem step : InOrder v l y :=
  ⟨⟨hs.name.1.trans h.name.1, hs.name.2.trans h.name.2⟩, h.replies_step hs, h.requests_step hs,
    h.taken_step hs, h.unread_step hs, h.queued_step hs, h.serves_step hs⟩

end InOrder

theorem opened_inOrder (k : Key) (client : Option Client) :
    InOrder v (opened k client).link (opened k client) := by
  refine ⟨⟨rfl, rfl⟩, fun _ => .nil, rfl, List.nil_prefix, fun _ => rfl, fun _ => rfl, .inl trivial⟩

/-- Whatever the order of the steps, the queue is given one reply to each request. -/
theorem one_reply_each (v : Service ε) (k : Key) (client : Option Client) {x : Session}
    (h : Reach v k client x) : InOrder v (opened k client).link x := by
  induction h with
  | refl => exact opened_inOrder k client
  | tail _ hs ih => exact ih.step hs

/-! A session over a WebSocket: a frame that is no envelope, an envelope without number, and two requests
with a push between their replies. The first request has no target. -/

theorem Step.arrive {f : Frame} {a : Arrival} (hf : f.arrival? = some a)
    (hloop : x.link.loop ≠ .ended) :
    Step v x { x with
      link := { x.link with inbound := x.link.inbound ++ [a] }, arrived := x.arrived ++ [a] } := by
  have hframe : Step v x _ := .frame f hloop
  rw [hf] at hframe
  exact hframe

def guest : Key := ⟨.websocket, "/s", "a"⟩

def astray : Envelope := { rid := 7 }

def knock : Envelope := { rid := 1, uri := "/door" }

def strayed : Envelope := .failure 7 "" (HttpError.new 400 "invalid uri ``")

def frame (members : String) : Frame := .text ('{' :: members.toList ++ ['}'])

theorem astray_served {l : Link} : Served v l astray strayed := by
  refine ⟨{}, 0, {}, ?_⟩
  have huri : Uri.ofString? astray.uri = none := by decide
  unfold Running.answer
  rw [toRequest_invalid huri]
  rfl

theorem knock_served : ∃ r, Served ({} : Service Unit) (opened guest none).link knock r := by
  have h : ((({} : Running Unit).answer {} 1 (opened guest none).link knock).map
      Prod.fst).isSome := by decide +kernel
  obtain ⟨⟨r, u⟩, hr⟩ := Option.isSome_iff_exists.mp ((Option.isSome_map ..).symm.trans h)
  exact ⟨r, {}, 1, u, hr⟩

theorem one_reply_each_guest : ∃ x r, Reach ({} : Service Unit) guest none x ∧
    x.finished = [astray, knock] ∧
    x.queued = [(.reply, strayed), (.push, .push "/news" .null), (.reply, r)] ∧
    InOrder ({} : Service Unit) (opened guest none).link x := by
  obtain ⟨r, hr⟩ := knock_served
  have h₀ : Reach ({} : Service Unit) guest none (opened guest none) := .refl
  have h₁ := h₀.tail (.arrive (f := frame "\"rid\"") (a := .malformed) (by decide +kernel) (by decide))
  have h₂ := h₁.tail (.arrive (f := frame "") (a := .envelope {}) (by decide +kernel) (by decide))
  have h₃ := h₂.tail
    (.arrive (f := frame "\"rid\":7") (a := .envelope astray) (by decide +kernel) (by decide))
  have h₄ := h₃.tail (.arrive (f := frame "\"rid\":1,\"uri\":\"/door\"") (a := .envelope knock)
    (by decide +kernel) (by decide))
  have h₅ := (h₄.tail (.discard rfl rfl)).tail (.skip rfl rfl rfl)
  have h₆ := (h₅.tail (.read rfl rfl (by decide))).tail (.reply rfl astray_served rfl)
  have h₇ := h₆.tail (.push (e := .push "/news" .null) rfl)
  have h₈ := (h₇.tail (.read rfl rfl (by decide))).tail (.reply rfl hr rfl)
  exact ⟨_, r, h₈, rfl, rfl, one_reply_each {} guest none h₈⟩

end Session

end Switchboard
