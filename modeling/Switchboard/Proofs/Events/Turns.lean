import Switchboard.Proofs.Events.Deeds

/-!
# Turns of the service

All that happens while a service runs is made of deeds: requests that are submitted, turns of loops and
receivers, frames that come in, and what handlers and other tasks do with connections.
-/

namespace Switchboard

variable {ε : Type} {v : Service ε} {o : Prop} {depth : Nat}

/-! ## What other tasks do -/

namespace Hub

variable {phase : Nat → Link → LoopPhase} {h h' : Hub}

theorem stir_enqueue? {k : Nat} {e : Envelope} (hentry : h.hasEntry k = true)
    (he : o ∨ ∃ uri value, e = .push uri value) (hput : h.enqueue? k e = some h') :
    h.Stir o phase h' := by
  obtain ⟨l, hl, hput⟩ := Option.bind_eq_some_iff.mp hput
  obtain ⟨l', hput', rfl⟩ := Option.map_eq_some_iff.mp hput
  exact .beside hl (.put hentry he hput')

theorem hasEntry_enqueue? {k : Nat} {e : Envelope} (hput : h.enqueue? k e = some h') (i : Nat) :
    h'.hasEntry i = h.hasEntry i := by
  obtain ⟨_, _, hput⟩ := Option.bind_eq_some_iff.mp hput
  obtain ⟨_, _, rfl⟩ := Option.map_eq_some_iff.mp hput
  rfl

theorem stirs_sendAll {e : Envelope} (he : o ∨ ∃ uri value, e = .push uri value)
    {ps : List (String × Nat)} (hps : ∀ p ∈ ps, h.hasEntry p.2 = true) :
    h.Stirs o phase (h.sendAll e ps).1 := by
  induction ps generalizing h with
  | nil => exact .refl
  | cons p ps ih =>
    obtain ⟨hp, hps⟩ := List.forall_mem_cons.mp hps
    unfold sendAll
    split
    · rename_i h₁ hput
      have hps₁ : ∀ q ∈ ps, h₁.hasEntry q.2 = true := fun q hq =>
        (hasEntry_enqueue? hput q.2).trans (hps q hq)
      exact (ih hps₁).head (stir_enqueue? hp he hput)
    · exact ih hps

/-- Who sends has found the entry of each receiver in the subject. -/
theorem stirs_post? {m : Method} {path : String} {id : Option String} {e : Envelope}
    {sent : Except Error Unit} (he : o ∨ ∃ uri value, e = .push uri value)
    (hpost : h.post? m path id e = some (h', sent)) : h.Stirs o phase h' := by
  obtain ⟨s, hs, hsent⟩ := Option.map_eq_some_iff.mp hpost
  cases id with
  | none =>
    simp only [broadcast, hs] at hsent
    cases hsent
    exact stirs_sendAll he fun p hp => hasEntry_of_subject hs hp
  | some id =>
    simp only [sendTo, hs, Option.bind_some] at hsent
    split at hsent
    · rename_i j hj
      obtain ⟨_, _, hpeers, _⟩ := List.lookup_eq_some_iff.mp hj
      split at hsent
      · rename_i hput
        cases hsent
        exact .single (stir_enqueue? (hasEntry_of_subject (p := (id, j)) hs (by simp [hpeers])) he hput)
      · cases hsent
        exact .refl
    · cases hsent
      exact .refl

theorem Moves.stirs (hm : Moves h h') : h.Stirs o phase h' := by
  induction hm with
  | refl => exact .refl
  | tail _ hm ih =>
    refine ih.trans ?_
    cases hm with
    | push m path id uri value hpost => exact stirs_post? (.inr ⟨uri, value, rfl⟩) hpost
    | disconnect key =>
      rw [disconnect_eq]
      exact .single (.remove key)
    | attach key client => exact .single (.attach key client)

end Hub

namespace Running

variable {u u' : Running ε} {k : Nat} {l : Link}

def during (u : Running ε) (k : Nat) (p : LoopPhase) : Scene :=
  ⟨u.hub, u.world.stop != .running, busyAt k p⟩

def scene (u : Running ε) : Scene := ⟨u.hub, u.world.stop != .running, none⟩

theorem deeds_moves (hm : Hub.Moves u.hub u'.hub) (busy : Option (Nat × LoopPhase)) :
    Deeds v o ⟨u.hub, u.world.stop != .running, busy⟩ ⟨u'.hub, u'.world.stop != .running, busy⟩ :=
  (Deeds.stirs (c := ⟨u.hub, u.world.stop != .running, busy⟩) hm.stirs).tail
    (.stop (u'.world.stop != .running))

theorem deeds_link {f : Link → Link} (hl : u.hub.link? k = some l)
    (hf : l.Beside o (u.hub.hasEntry k) l.rest (f l)) :
    Deeds v o u.scene (u.modifyLink k f).scene := by
  have hmodify : u.hub.modifyLink k f = u.hub.modifyLink k fun _ => f l := Hub.modifyLink_congr hl rfl
  unfold scene modifyLink
  rw [hmodify]
  exact .single (.stir (.beside hl hf))

theorem deeds_modify {f : Link → Link}
    (hf : ∀ l : Link, l.Beside o (u.hub.hasEntry k) l.rest (f l)) :
    Deeds v o u.scene (u.modifyLink k f).scene := by
  cases hl : u.hub.link? k with
  | none =>
    unfold scene modifyLink
    rw [Hub.modifyLink_none hl]
    exact .refl
  | some l => exact deeds_link hl (hf l)

/-! ## Turns of the loop -/

theorem deed_loop {l' : Link} {p p' : LoopPhase} (hl : u.hub.link? k = some l)
    (hlive : l.loop ≠ .ended) (hloop : Link.Loops v (u.world.stop != .running) l p l' p')
    (hhub : u'.hub = u.hub.modifyLink k fun _ => l') (hstop : u'.world.stop = u.world.stop) :
    Deed v o (u.during k p) (u'.during k p') := by
  unfold during
  rw [hhub, hstop]
  exact .loop hl hlive rfl hloop

theorem deeds_leave (hl : u.hub.link? k = some l) (hlive : l.loop ≠ .ended) (l₀ : Link) :
    Deeds v o (u.during k .leaving) (u.leave k l₀).scene := by
  have hremove : u.hub.Stir o (u.during k .leaving).phase _ := .remove l₀.key
  obtain ⟨l', hl', -, hloop⟩ := hremove.kept hl
  let w := u.withHub (u.hub.remove l₀.method l₀.path l₀.id)
  have hclose : Deed v o (w.during k .leaving) ((u.leave k l₀).during k .over) :=
    deed_loop hl' (hloop ▸ hlive) .close (Hub.modifyLink_congr hl' rfl) rfl
  exact .head (.stir hremove) (.single hclose)

theorem deeds_quit (hl : u.hub.link? k = some l) (hlive : l.loop ≠ .ended) {p : LoopPhase}
    (hquit : Link.Loops v (u.world.stop != .running) l p l .leaving) (l₀ : Link) :
    Deeds v o (u.during k p) (u.leave k l₀).scene :=
  (deeds_leave hl hlive l₀).head
    (deed_loop hl hlive hquit (Hub.modifyLink_self hl).symm rfl)

/-- Handlers move connections while a request is served; then the loop sends the reply, and ends when
nobody takes it. -/
theorem deeds_reply (hv : v.Tame) (hl : u.hub.link? k = some l) (hlive : l.loop ≠ .ended)
    {l₀ : Link} (hname : l₀.method = l.method ∧ l₀.id = l.id) {e : Envelope}
    (hturn : (do
      let (reply, u) ← u.answer v depth l₀ e
      match u.hub.enqueue? k reply with
      | some hub => some (u.withHub hub)
      | none => some (u.leave k l₀)) = some u') :
    Deeds v o (u.during k (.serving e)) u'.scene := by
  obtain ⟨⟨r, w⟩, hanswer, hreply⟩ := Option.bind_eq_some_iff.mp hturn
  have hmoves := hv.answer hanswer
  have hserving : Deeds v o (u.during k (.serving e)) (w.during k (.serving e)) :=
    deeds_moves hmoves _
  have hstirs : u.hub.Stirs o (u.during k (.serving e)).phase w.hub := hmoves.stirs
  obtain ⟨l', hl', hkey, hloop⟩ := hstirs.kept hl
  have hserved : Served v l' e r := by
    refine Served.congr ⟨u, depth, w, hanswer⟩ ⟨hname.1.trans ?_, hname.2.trans ?_⟩
    · exact (congrArg Key.method hkey).symm
    · exact (congrArg Key.id hkey).symm
  refine hserving.trans ?_
  simp only [Hub.enqueue?, hl', Option.bind_some] at hreply
  cases hput : l'.put? r with
  | some l'' =>
    rw [hput] at hreply
    cases hreply
    exact .single (.loop hl' (hloop ▸ hlive) rfl (.reply hserved hput))
  | none =>
    rw [hput] at hreply
    cases hreply
    exact deeds_quit hl' (hloop ▸ hlive) (.unheard hserved hput) l₀

theorem deeds_takeArrival (hv : v.Tame) {a : Arrival} {rest : List Arrival}
    (hl : u.hub.link? k = some l) (hlive : l.loop ≠ .ended) (hin : l.inbound = a :: rest)
    {l₀ : Link} (hname : l₀.method = l.method ∧ l₀.id = l.id)
    (hturn : (u.modifyLink k fun l => { l with inbound := rest }).takeArrival v depth k l₀ a =
      some u') : Deeds v o u.scene u'.scene := by
  let w := u.modifyLink k fun l => { l with inbound := rest }
  have hlink : w.hub.link? k = some { l with inbound := rest } := Hub.link?_modifyLink_self hl _
  have hhub : w.hub = u.hub.modifyLink k fun _ => { l with inbound := rest } :=
    Hub.modifyLink_congr hl rfl
  cases a with
  | envelope e =>
    simp only [takeArrival] at hturn
    by_cases hzero : e.rid = 0
    · rw [if_pos hzero] at hturn
      cases hturn
      exact .single (deed_loop hl hlive (.skip hin hzero) hhub rfl)
    · rw [if_neg hzero] at hturn
      exact .head (deed_loop hl hlive (.read hin hzero) hhub rfl)
        (deeds_reply (u := w) hv hlink hlive hname hturn)
  | malformed =>
    cases hturn
    exact .single (deed_loop hl hlive (.discard hin) hhub rfl)
  | broken | closing =>
    cases hturn
    have hlose : Deed v o (u.during k .reading) (w.during k .leaving) :=
      deed_loop hl hlive (.lose hin (by simp)) hhub rfl
    exact .head hlose (deeds_leave hlink hlive l₀)

/-- A turn of the loop that runs; `l` is the link as it was before the loop ran. -/
theorem deeds_loopTurn (hv : v.Tame) (hl : u.hub.link? k = some l) (hlive : l.loop ≠ .ended)
    {s : LoopState} (hturn : u.loopTurn v depth k { l with loop := s } = some u') :
    Deeds v o u.scene u'.scene := by
  unfold loopTurn at hturn
  split at hturn
  · rename_i hend
    cases hturn
    refine deeds_quit hl hlive (.quit (hend.imp_right fun hstop => .inl ?_)) _
    exact bne_iff_ne.mpr hstop
  · dsimp only at hturn
    split at hturn
    · rename_i a rest hin
      exact deeds_takeArrival hv hl hlive hin ⟨rfl, rfl⟩ hturn
    · rename_i hin
      split at hturn
      · cases hturn
        exact .refl
      · rename_i hsending
        cases hturn
        exact deeds_quit hl hlive (.quit (.inr (.inr ⟨hin, eq_false_of_ne_true hsending⟩))) _

theorem deeds_serveTurn (hv : v.Tame) (hturn : u.serveTurn v depth k = some u') :
    Deeds v o u.scene u'.scene := by
  unfold serveTurn at hturn
  split at hturn
  · rename_i l hl
    split at hturn
    · rename_i hready
      let w := (u.modifyLink k fun l => { l with loop := .running }).report (openedReport l)
      have hlink : w.hub.link? k = some { l with loop := .running } := Hub.link?_modifyLink_self hl _
      have hstart : Deed v o (u.during k .reading) (w.during k .reading) :=
        deed_loop hl (by simp [hready]) (.start hready) (Hub.modifyLink_congr hl rfl) rfl
      exact .head hstart (deeds_loopTurn (s := l.loop) hv hlink (by simp) hturn)
    · rename_i hrunning
      exact deeds_loopTurn (s := l.loop) hv hl (by simp [hrunning]) hturn
    · cases hturn
      exact .refl
  · cases hturn
    exact .refl

/-! ## Clients and receivers -/

theorem submit_eq {c : Client} (hl : u.hub.link? k = some l) (hc : l.client = some c) (waits : Bool)
    (uri : String) (header : List (String × String)) (body : Option (List Char)) :
    (u.submit k waits uri header body).1 =
      u.modifyLink k fun _ => l.submitted c waits uri header body := by
  have hrefused : l.withClient (c.refused waits) = (l.withClient (c.readied waits)).withClient
      (if waits then (c.reserve.2.wait c.reserve.1).withdraw c.reserve.1 else c.reserve.2) := by
    cases waits <;> rfl
  rw [Link.submitted, hrefused]
  simp only [submit, hl, hc]
  split
  · rename_i l' hpost
    exact congrArg (fun r => u.modifyLink k fun _ => Option.getD r _) hpost.symm
  · rename_i hpost
    exact congrArg (fun r => u.modifyLink k fun _ => Option.getD r _) hpost.symm

theorem deeds_submit (u : Running ε) (k : Nat) (waits : Bool) (uri : String)
    (header : List (String × String)) (body : Option (List Char)) :
    Deeds v o u.scene (u.submit k waits uri header body).1.scene := by
  cases hl : u.hub.link? k with
  | none =>
    simp only [submit, hl]
    exact .refl
  | some l =>
    cases hc : l.client with
    | none =>
      simp only [submit, hl, hc]
      exact .refl
    | some c =>
      rw [submit_eq hl hc]
      exact deeds_link hl (.submit waits uri header body hc)

theorem deeds_receiveTurn (u : Running ε) (k : Nat) :
    Deeds v o u.scene (u.receiveTurn k).scene := by
  unfold receiveTurn
  split
  · rename_i l hl
    split
    · rename_i c hc
      split
      · rename_i hrec
        split
        · rename_i e rest hqueue
          have hdeliver : (u.deliver k c e rest).scene = (u.modifyLink k (·.handOn c e rest)).scene := by
            unfold deliver
            split <;> rfl
          rw [hdeliver]
          exact deeds_link hl (.deliver hc hrec hqueue)
        · rename_i hqueue
          split
          · exact .refl
          · -- no entry stands and the loop is over, so nobody is left who could send
            rename_i hsender
            rw [Hub.hasSender_eq hl, not_or, Decidable.not_not] at hsender
            exact deeds_link hl
              (.finish hc hrec hqueue (eq_false_of_ne_true hsender.1) (if_pos hsender.2))
      · exact .refl
    · exact .refl
  · exact .refl

/-! ## Runs -/

/-- What happens while a service runs. Besides the turns, a client can be dropped, and anything can be
done that treats connections as handlers may. -/
inductive Turn (v : Service ε) (depth : Nat) : Running ε → Running ε → Prop
  | submit {u : Running ε} (k : Nat) (waits : Bool) (uri : String) (header : List (String × String))
    (body : Option (List Char)) : Turn v depth u (u.submit k waits uri header body).1
  | serve {u u' : Running ε} (k : Nat) : u.serveTurn v depth k = some u' → Turn v depth u u'
  | receive {u : Running ε} (k : Nat) : Turn v depth u (u.receiveTurn k)
  | drop {u : Running ε} (k : Nat) : Turn v depth u (u.drop k)
  | act {u u' : Running ε} : Hub.Moves u.hub u'.hub → Turn v depth u u'

abbrev Run (v : Service ε) (depth : Nat) : Running ε → Running ε → Prop :=
  Relation.ReflTransGen (Turn v depth)

inductive Event (v : Service ε) (depth : Nat) : Running ε → Running ε → Prop
  | turn {u u' : Running ε} : Turn v depth u u' → Event v depth u u'
  | hear {u : Running ε} (k : Nat) (f : Frame) : Event v depth u (u.modifyLink k (·.hear f))
  | post {u : Running ε} {h : Hub} {sent : Except Error Unit} (m : Method) (path : String)
    (id : Option String) (e : Envelope) :
    u.hub.post? m path id e = some (h, sent) → Event v depth u (u.withHub h)

theorem moves_close (u : Running ε) (k : Nat) : Hub.Moves u.hub (u.close k).hub := by
  unfold close
  split
  · rename_i l _
    exact .single (.disconnect l.key)
  · exact .refl

theorem moves_connect (u : Running ε) (subject : String) (id : Option String) (callback : Callback) :
    Hub.Moves u.hub (u.connect subject id callback).1.hub := by
  cases id with
  | some id => exact .single (.attach ⟨.call, subject, id⟩ (some { callback }))
  | none => exact .single (.attach ⟨.call, subject, u.world.freshId.1⟩ (some { callback }))

theorem turn_close (k : Nat) : Turn v depth u (u.close k) := .act (moves_close u k)

theorem turn_stop (how : Stop) : Turn v depth u (u.stop how) := .act .refl

theorem turn_connect (subject : String) (id : Option String) (callback : Callback) :
    Turn v depth u (u.connect subject id callback).1 := .act (moves_connect u subject id callback)

theorem run_settle {fuel : Nat} (h : settle v depth fuel u = some u') : Run v depth u u' := by
  induction fuel generalizing u with
  | zero => cases h
  | succ fuel ih =>
    unfold settle at h
    split at h
    · rename_i k _
      obtain ⟨w, hturn, h⟩ := Option.bind_eq_some_iff.mp h
      exact (ih h).head (.serve k hturn)
    · split at h
      · rename_i k _
        exact (ih h).head (.receive k)
      · cases h
        exact .refl

theorem deeds_drop (u : Running ε) (k : Nat) : Deeds v o u.scene (u.drop k).scene :=
  (deeds_moves (u.moves_close k) none).trans (deeds_modify fun _ => .hangUp)

theorem Turn.deeds (hv : v.Tame) (ht : Turn v depth u u') : Deeds v o u.scene u'.scene := by
  cases ht with
  | submit k waits uri header body => exact deeds_submit u k waits uri header body
  | serve k hturn => exact deeds_serveTurn hv hturn
  | receive k => exact deeds_receiveTurn u k
  | drop k => exact deeds_drop u k
  | act hm => exact deeds_moves hm none

theorem Run.deeds (hv : v.Tame) (hrun : Run v depth u u') : Deeds v o u.scene u'.scene := by
  induction hrun with
  | refl => exact .refl
  | tail _ ht ih => exact ih.trans (ht.deeds hv)

theorem Event.deeds (hv : v.Tame) (he : Event v depth u u') : Deeds v True u.scene u'.scene := by
  cases he with
  | turn ht => exact ht.deeds hv
  | hear k f => exact deeds_modify fun _ => .hear f trivial
  | post m path id e hpost =>
    exact Deeds.stirs (c := u.scene) (Hub.stirs_post? (.inl trivial) hpost)

theorem deeds_events (hv : v.Tame) (hrun : Relation.ReflTransGen (Event v depth) u u') :
    Deeds v True u.scene u'.scene := by
  induction hrun with
  | refl => exact .refl
  | tail _ he ih => exact ih.trans (he.deeds hv)

end Running

end Switchboard
