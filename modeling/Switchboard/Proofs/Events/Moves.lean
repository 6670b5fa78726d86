import Mathlib.Logic.Relation
import Switchboard.Events.Serving
import Switchboard.Proofs.Events.Entries
import Switchboard.Proofs.Web.Keeping

/-!
# What handlers do with connections

Handlers push to connections, close them and let new ones join, and when all that a service is made of
does nothing else with them, nothing else comes of an envelope that it serves.
-/

namespace Switchboard

variable {ε : Type}

/-! ## Entries and links -/

namespace Hub

def hasEntry (h : Hub) (i : Nat) : Bool := h.subjects.any fun s => s.peers.any (·.2 == i)

theorem hasSender_eq {h : Hub} {i : Nat} {l : Link} (hl : h.link? i = some l) :
    h.hasSender i = true ↔ h.hasEntry i = true ∨ l.loop ≠ .ended := by
  simp [hasSender, hasEntry, hl]

theorem hasEntry_iff {h : Hub} {i : Nat} :
    h.hasEntry i = true ↔ ∃ s ∈ h.subjects, ∃ p ∈ s.peers, p.2 = i := by
  simp [hasEntry]

theorem hasEntry_of_subject {h : Hub} {m : Method} {path : String} {s : Subject}
    (hs : h.subject? m path = some s) {p : String × Nat} (hp : p ∈ s.peers) :
    h.hasEntry p.2 = true :=
  hasEntry_iff.mpr ⟨s, List.mem_of_find?_eq_some hs, p, hp, rfl⟩

theorem hasEntry_remove {h : Hub} {k : Key} {i : Nat}
    (he : (h.remove k.method k.path k.id).hasEntry i = true) : h.hasEntry i = true := by
  rw [remove_eq] at he
  split at he
  · rw [hasEntry_iff] at he ⊢
    obtain ⟨s', hs', p, hp, hpi⟩ := he
    obtain ⟨s, hs, rfl⟩ := List.mem_map.mp hs'
    refine ⟨s, hs, p, ?_, hpi⟩
    split at hp
    · exact (List.mem_filter.mp hp).1
    · exact hp
  · exact he

theorem hasEntry_attach {h : Hub} {k : Key} {client : Option Client} {i : Nat}
    (he : (h.attach k.method k.path k.id client).1.hasEntry i = true) :
    h.hasEntry i = true ∨ i = h.links.length := by
  have hopen : (h.openSubject k.method k.path).hasEntry i = h.hasEntry i := by
    unfold openSubject
    split
    · rfl
    · simp [hasEntry]
  rw [← hopen]
  simp only [attach] at he
  split at he
  · split at he
    · exact .inl he
    · rw [hasEntry_iff] at he ⊢
      obtain ⟨s', hs', p, hp, rfl⟩ := he
      obtain ⟨s, hs, rfl⟩ := List.mem_map.mp hs'
      split at hp
      · rcases List.mem_append.mp hp with hp | hp
        · exact .inl ⟨s, hs, p, hp, rfl⟩
        · rw [List.mem_singleton.mp hp]
          exact .inr (congrArg List.length (links_openSubject h k.method k.path))
      · exact .inl ⟨s, hs, p, hp, rfl⟩
  · exact .inl he

theorem link?_attach {h : Hub} {i : Nat} {l : Link} (hl : h.link? i = some l) (k : Key)
    (client : Option Client) : (h.attach k.method k.path k.id client).1.link? i = some l := by
  cases hk : h.standing? k with
  | some j =>
    rw [attach_taken hk]
    exact (link?_openSubject h k.method k.path i).trans hl
  | none =>
    obtain ⟨h', hattach, hlinks, _⟩ := attach_free hk client
    have hi : i ≠ h.links.length := Nat.ne_of_lt (List.getElem?_eq_some_iff.mp hl).1
    rw [hattach, hlinks, if_neg hi, hl]

theorem link?_attach_new {h h' : Hub} {k : Key} {client : Option Client} {i : Nat}
    (hok : h.attach k.method k.path k.id client = (h', .ok i)) :
    h'.link? i = some { method := k.method, path := k.path, id := k.id, client } := by
  cases hk : h.standing? k with
  | some j =>
    rw [attach_taken hk] at hok
    cases hok
  | none =>
    obtain ⟨h₁, hattach, hlinks, _⟩ := attach_free hk client
    rw [hattach] at hok
    cases hok
    rw [hlinks, if_pos rfl]

/-- What handlers and the application do with connections: they push to them, close them and let new
ones join. -/
inductive Move : Hub → Hub → Prop
  | push {h h' : Hub} {sent : Except Error Unit} (m : Method) (path : String) (id : Option String)
    (uri : String) (value : Json) :
    h.post? m path id (.push uri value) = some (h', sent) → Move h h'
  | disconnect {h : Hub} (k : Key) : Move h (h.disconnect k.method k.path k.id).1
  | attach {h : Hub} (k : Key) (client : Option Client) :
    Move h (h.attach k.method k.path k.id client).1

abbrev Moves : Hub → Hub → Prop := Relation.ReflTransGen Move

end Hub

/-! ## Tame work -/

namespace Work

variable {α β : Type}

/-- Work that, from the connections `h` on, moves them as told, whatever is answered on the way. -/
inductive Tame (h : Hub) : Work ε α → Prop
  | done {o : Outcome α} {s : State ε} : Hub.Moves h s.world.hub → Tame h (.done o s)
  | serve {r : Request} {w : World ε} {resume : Answer → World ε → Work ε α} :
    Hub.Moves h w.hub → (∀ a (w' : World ε), Hub.Moves w.hub w'.hub → Tame h (resume a w')) →
    Tame h (.serve r w resume)

theorem Tame.after {h h' : Hub} {x : Work ε α} (hx : x.Tame h') (hm : Hub.Moves h h') : x.Tame h := by
  induction hx with
  | done hm' => exact .done (hm.trans hm')
  | serve hm' _ ih => exact .serve (hm.trans hm') ih

theorem Tame.andThen {h : Hub} {x : Work ε α} (hx : x.Tame h) {f : Outcome α → State ε → Work ε β}
    (hf : ∀ o s, Hub.Moves h s.world.hub → (f o s).Tame h) : (x.andThen f).Tame h := by
  induction hx with
  | done hm => exact hf _ _ hm
  | serve hm _ ih => exact .serve hm ih

theorem Tame.run {serve : Request → Pool → World ε → Option (Answer × Pool × World ε)}
    (hserve : ∀ r p w a, serve r p w = some a → Hub.Moves w.hub a.2.2.hub) {h : Hub} {x : Work ε α}
    (hx : x.Tame h) {pool pool' : Pool} {o : Outcome α} {s : State ε}
    (hrun : x.run serve pool = some (o, s, pool')) : Hub.Moves h s.world.hub := by
  induction hx generalizing pool with
  | done hm =>
    cases hrun
    exact hm
  | serve _ _ ih =>
    obtain ⟨⟨a, p, w'⟩, ha, hrun⟩ := Option.bind_eq_some_iff.mp hrun
    exact ih a w' (hserve _ _ _ _ ha) hrun

end Work

def Exchange.Tame {α : Type} (d : Desk ε) (x : Exchange ε α) : Prop :=
  ∀ s, (x d s).Tame s.world.hub

namespace Exchange.Tame

variable {α β : Type} {d : Desk ε}

theorem modify {f : State ε → State ε} (hf : ∀ s, Hub.Moves s.world.hub (f s).world.hub) :
    Tame d (Exchange.modify f) := fun s => .done (hf s)

theorem fail (e : Error) : Tame d (Exchange.fail e : Exchange ε α) := fun _ => .done .refl

theorem push (m : Method) (path : String) (id : Option String) (uri : String) (value : Json) :
    Tame d (Exchange.post (ε := ε) m path id (.push uri value)) := by
  intro s
  unfold Exchange.post Exchange.liftResult
  dsimp only
  cases hpost : s.world.hub.post? m path id (.push uri value) with
  | none => exact .done .refl
  | some p =>
    obtain ⟨hub, sent⟩ := p
    have hmove : Hub.Moves s.world.hub hub := .single (.push m path id uri value hpost)
    cases sent with
    | ok => exact .done hmove
    | error e => exact .done hmove

theorem bind {x : Exchange ε α} {f : α → Exchange ε β} (hx : Tame d x) (hf : ∀ a, Tame d (f a)) :
    Tame d (x >>= f) := by
  intro s
  refine (hx s).andThen fun o s' hm => ?_
  cases o with
  | ok a => exact (hf a s').after hm
  | error e => exact .done hm
  | panic text => exact .done hm

end Exchange.Tame

namespace Service

variable {v : Service ε}

/-- A service of which each part treats connections as handlers may. -/
structure Tame (v : Service ε) : Prop where
  handlers : ∃ t : Route.Tree { h : Handler ε // Exchange.Tame v.desk h },
    v.routes = t.relabel fun _ h => h.val
  middlewares : ∀ mw ∈ v.before ++ v.around, ∀ h, Exchange.Tame v.desk h →
    Exchange.Tame v.desk (mw h)
  onError : ∀ e s, Hub.Moves s.world.hub (v.desk.onError e s).world.hub

/-! ## Services with tame parts -/

theorem hub_noted (capturing : Bool) (notes : List WriterNote) (w : World ε) :
    (notes.foldl (State.noted · capturing) w).hub = w.hub := by
  induction notes generalizing w with
  | nil => rfl
  | cons n notes ih =>
    rw [List.foldl_cons, ih]
    cases n <;> rfl

@[simp] theorem hub_step (s : State ε) (w : WriterStep) : (s.step w).world.hub = s.world.hub :=
  hub_noted s.context.capturing (s.response.step w).journal s.world

theorem hub_renderError (s : State ε) (debug : Bool) (e : Error) :
    (s.renderError debug e).world.hub = s.world.hub := by
  unfold State.renderError
  dsimp only
  split
  · rfl
  · split
    · exact hub_step s _
    · simp [State.sendJson, State.blob, State.setContentType, State.setHeader, State.writeHeader,
        State.write]

theorem tame_empty : ({} : Service ε).Tame where
  handlers := registers_of_empty rfl
  middlewares _ hmw := absurd hmw List.not_mem_nil
  onError e s := by
    show Hub.Moves _ (s.renderError _ e).world.hub
    rw [hub_renderError]

theorem Tame.add (hv : v.Tame) (m : Method) (path : String) {h : Handler ε}
    (hh : Exchange.Tame v.desk h) {mws : List (Middleware ε)}
    (hmws : ∀ mw ∈ mws, ∀ h, Exchange.Tame v.desk h → Exchange.Tame v.desk (mw h)) :
    (v.add m path h mws).1.Tame := by
  have hadd : v.Registers (Exchange.Tame v.desk) := hv.handlers
  exact ⟨hadd.add m path (Handler.within_of hmws hh), hv.middlewares, hv.onError⟩

theorem Tame.choose (hv : v.Tame) (c : Context) : Exchange.Tame v.desk (v.choose c).1 :=
  Registers.choose hv.handlers (fun e => .fail (.http e)) c

/-! ## Serving -/

theorem Tame.chain (hv : v.Tame) : Exchange.Tame v.desk v.chain := by
  refine Handler.within_of (fun mw hmw => hv.middlewares mw (List.mem_append_left _ hmw)) fun s => ?_
  have haround := Handler.within_of (fun mw hmw => hv.middlewares mw (List.mem_append_right _ hmw))
    (hv.choose s.context)
  exact haround (s.withContext (v.choose s.context).2)

theorem Tame.settle (hv : v.Tame) (o : Outcome Unit) (s : State ε) :
    Hub.Moves s.world.hub (v.settle o s).world.hub := by
  cases o with
  | ok => exact .refl
  | error e => exact hv.onError e s
  | panic text =>
    let told := s.world.tell v.capturing ("[PANIC RECOVER] " ++ panicText text)
    exact hv.onError _ ⟨{ s.context with response := {} }, told⟩

theorem Tame.serve (hv : v.Tame) (depth : Nat) (r : Request) (pool : Pool) (w : World ε)
    (a : Answer × Pool × World ε) (ha : v.serve depth r pool w = some a) :
    Hub.Moves w.hub a.2.2.hub := by
  induction depth generalizing r pool w a with
  | zero => cases ha
  | succ depth ih =>
    unfold Service.serve serveWith at ha
    obtain ⟨⟨o, s, p⟩, hrun, ha⟩ := Option.bind_eq_some_iff.mp ha
    cases ha
    exact ((hv.chain _).run ih hrun).trans (hv.settle o s)

theorem Tame.answer (hv : v.Tame) {depth : Nat} {u u' : Running ε} {l : Link} {e r : Envelope}
    (ha : u.answer v depth l e = some (r, u')) : Hub.Moves u.hub u'.hub := by
  unfold Running.answer at ha
  split at ha
  · cases ha
    exact .refl
  · obtain ⟨⟨_, w⟩, hw, ha⟩ := Option.map_eq_some_iff.mp ha
    cases ha
    obtain ⟨a, hserve, hw⟩ := Option.map_eq_some_iff.mp hw
    cases hw
    exact hv.serve depth _ _ _ a hserve

end Service

end Switchboard
