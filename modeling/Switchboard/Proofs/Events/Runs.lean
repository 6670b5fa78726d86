import Switchboard.Proofs.Events.Correlation
import Switchboard.Proofs.Events.Turns

/-!
# Runs of the service

However a service goes on whose handlers push to connections, close them and let new ones join, the link
of a client within the process is that of a line. So calls and replies of its clients belong together.
-/

namespace Switchboard

variable {ε : Type}

namespace Line

variable {v : Service ε} {depth : Nat} {l₀ l : Link} {u u' : Running ε} {i : Nat} {x y : Line}
  {s s' : Station}

open Link (post?_eq put?_eq)

structure Mirrors (l₀ : Link) (s : Station) (x : Line) : Prop where
  link : s.link = x.link
  phase : s.phase = x.phase
  key : x.link.key = l₀.key
  entry : s.entry = true → x.standing = true
  stopped : s.stopped = true → x.stopped = true
  loaned : x.loaned = 0
  inbound : ∀ a ∈ x.link.inbound, ∃ e, a = .envelope e

/-! ## Submitting -/

theorem advance_last {ops : List Op} {o : Op} (h : x.ops = ops ++ [o]) (s : Stage) :
    x.advance ops.length o s = ops ++ [o.moved s] := by
  simp [advance, h]

section submit

variable {c : Client} (waits : Bool) (uri : String) (header : List (String × String))
  (body : Option (List Char))

variable (v l₀) in
theorem steps_ready (hc : x.link.client = some c) :
    ∃ o : Op, o.envelope = c.nextEnvelope uri header body ∧ o.waits = waits ∧ o.Ready ∧
      Steps v l₀ x { x with link := x.link.withClient (c.readied waits), ops := x.ops ++ [o] } := by
  have hreserve : Steps v l₀ x _ := .single (.reserve waits uri header body hc)
  cases waits with
  | false => exact ⟨⟨false, c.nextEnvelope uri header body, .numbered⟩, rfl, rfl, rfl, hreserve⟩
  | true =>
    refine ⟨⟨true, c.nextEnvelope uri header body, .listed⟩, rfl, rfl, rfl, ?_⟩
    have hwait := hreserve.tail (.wait rfl List.getElem?_concat_length rfl rfl)
    rw [advance_last rfl] at hwait
    exact hwait

variable (v l₀) in
theorem steps_refused (hc : x.link.client = some c)
    (hpost : (x.link.withClient (c.readied waits)).post? (c.nextEnvelope uri header body) = none) :
    ∃ o : Op, o.waits = waits ∧ o.stage = .failed ∧
      Steps v l₀ x { x with link := x.link.withClient (c.refused waits), ops := x.ops ++ [o] } := by
  obtain ⟨o, henvelope, rfl, hready, hsteps⟩ := steps_ready v l₀ waits uri header body hc
  have hrefuse := hsteps.tail (.refuse List.getElem?_concat_length hready (henvelope ▸ hpost))
  rw [advance_last rfl] at hrefuse
  refine ⟨o.moved .failed, rfl, rfl, ?_⟩
  unfold Client.refused
  cases hw : o.waits with
  | false =>
    rw [hw] at hrefuse
    exact hrefuse
  | true =>
    rw [hw] at hrefuse
    have hrid : (o.moved .refused).rid = c.reserve.1 := congrArg Envelope.rid henvelope
    have hwithdraw := hrefuse.tail (.withdraw rfl List.getElem?_concat_length rfl)
    rw [advance_last rfl, if_pos rfl, hrid] at hwithdraw
    exact hwithdraw

variable (v l₀) in
/-- The request is sent, or the caller is told that the connection is closed. -/
theorem steps_submitted (hc : x.link.client = some c)
    (hinbound : ∀ a ∈ x.link.inbound, ∃ e, a = .envelope e) :
    ∃ o : Op, o.waits = waits ∧ (o.stage = .sent ∨ o.stage = .failed) ∧
      Steps v l₀ x { x with link := x.link.submitted c waits uri header body, ops := x.ops ++ [o] } ∧
      ∀ a ∈ (x.link.submitted c waits uri header body).inbound, ∃ e, a = .envelope e := by
  unfold Link.submitted
  cases hpost : (x.link.withClient (c.readied waits)).post? (c.nextEnvelope uri header body) with
  | some l =>
    obtain ⟨o, henvelope, hwaits, hready, hsteps⟩ := steps_ready v l₀ waits uri header body hc
    have hsend := hsteps.tail (.send List.getElem?_concat_length hready (henvelope ▸ hpost))
    rw [advance_last rfl] at hsend
    refine ⟨o.moved .sent, hwaits, .inl rfl, hsend, ?_⟩
    obtain ⟨_, rfl⟩ := post?_eq hpost
    intro a ha
    rcases List.mem_append.mp ha with ha | ha
    · exact hinbound a ha
    · exact ⟨_, List.mem_singleton.mp ha⟩
  | none =>
    obtain ⟨o, hwaits, hstage, hsteps⟩ := steps_refused v l₀ waits uri header body hc hpost
    exact ⟨o, hwaits, .inr hstage, hsteps, hinbound⟩

end submit

/-! ## Acts at the station of a line -/

/-- Others push only with a sender that they borrow from the entry. -/
theorem Mirrors.beside (hx : Mirrors l₀ s x)
    (hb : s.link.Beside False s.entry s.phase l) :
    ∃ y, Steps v l₀ x y ∧ Mirrors l₀ { s with link := l } y := by
  have hkey := hb.kept.1
  rw [hx.link, hx.key] at hkey
  rw [hx.link, hx.phase] at hb
  cases hb with
  | put hentry he hput =>
    obtain ⟨uri, value, rfl⟩ := he.resolve_left id
    have hlend : Steps v l₀ x _ := .single (.lend (hx.entry hentry))
    have hpush := hlend.tail (.push uri value (Nat.succ_pos _) hput)
    have hback := hpush.tail .giveBack
    obtain ⟨_, rfl⟩ := put?_eq hput
    exact ⟨_, hback, { hx with link := rfl }⟩
  | hear _ ho => exact ho.elim
  | submit waits uri header body hc =>
    obtain ⟨o, -, -, hsteps, hinbound⟩ :=
      steps_submitted v l₀ waits uri header body hc hx.inbound
    exact ⟨_, hsteps, { hx with link := rfl, key := hkey, inbound := hinbound }⟩
  | hangUp => exact ⟨_, .single .hangUp, { hx with link := rfl }⟩
  | @deliver c e rest hc hrec hqueue =>
    have hinbound : ∀ a ∈ (x.link.handOn c e rest).inbound, ∃ e, a = .envelope e := by
      rw [(Link.handOn_kept x.link c e rest).2.2]
      exact hx.inbound
    cases htake : c.take e with
    | some c' =>
      exact ⟨_, .single (.handOn hc hrec hqueue htake),
        { hx with link := rfl, key := hkey, inbound := hinbound }⟩
    | none =>
      exact ⟨_, .single (.breakOff hc hrec hqueue htake),
        { hx with link := rfl, key := hkey, inbound := hinbound }⟩
  | finish hc hrec hqueue hentry hover =>
    -- the entry of the line may stand for longer than that of the link
    have hexpel : Steps v l₀ x { x with standing := false } := .single .expel
    refine ⟨_, hexpel.tail (.finish hc hrec hqueue ?_), { hx with link := rfl, entry := ?_ }⟩
    · simp [HasSender, hx.loaned, hover]
    · simp [hentry]

theorem Mirrors.loop (hx : Mirrors l₀ s x) {p : LoopPhase}
    (hl : Link.Loops v s.stopped s.link s.phase l p) :
    ∃ y, Steps v l₀ x y ∧ Mirrors l₀ { s with link := l, phase := p } y := by
  have hread {a : Arrival} {rest : List Arrival} (hin : x.link.inbound = a :: rest) :
      (∃ e, a = .envelope e) ∧ ∀ b ∈ rest, ∃ e, b = .envelope e :=
    List.forall_mem_cons.mp (hin ▸ hx.inbound)
  have hname : x.link.method = l₀.method ∧ x.link.id = l₀.id :=
    ⟨congrArg Key.method hx.key, congrArg Key.id hx.key⟩
  generalize hphase : s.phase = p₀ at hl
  rw [hx.phase] at hphase
  rw [hx.link] at hl
  cases hl with
  | start hready => exact ⟨_, .single (.start hready), { hx with link := rfl, phase := hphase.symm }⟩
  | read hin hrid =>
    exact ⟨_, .single (.read hphase hin hrid),
      { hx with link := rfl, phase := rfl, inbound := (hread hin).2 }⟩
  | skip hin hrid =>
    exact ⟨_, .single (.skip hphase hin hrid),
      { hx with link := rfl, phase := hphase.symm, inbound := (hread hin).2 }⟩
  | discard hin =>
    obtain ⟨_, he⟩ := (hread hin).1
    cases he
  | lose hin ha =>
    obtain ⟨_, rfl⟩ := (hread hin).1
    simp at ha
  | reply hserved hput =>
    have hreply : Step v l₀ x _ := .reply hphase (hserved.congr hname) hput
    obtain ⟨_, rfl⟩ := put?_eq hput
    exact ⟨_, .single hreply, { hx with link := rfl, phase := rfl }⟩
  | unheard hserved hput =>
    exact ⟨_, .single (.unheard hphase (hserved.congr hname) hput), { hx with link := rfl, phase := rfl }⟩
  | quit hend =>
    exact ⟨_, .single (.quit hphase (hend.imp_right (Or.imp_left hx.stopped))),
      { hx with link := rfl, phase := rfl }⟩
  | close =>
    have hleave : Steps v l₀ x _ := .single (.leave hphase)
    exact ⟨_, (hleave.tail (.deafen rfl)).tail (.close rfl),
      { hx with link := rfl, phase := rfl, inbound := nofun }⟩

theorem Mirrors.act (hx : Mirrors l₀ s x) (ha : Station.Act v False s s') :
    ∃ y, Steps v l₀ x y ∧ Mirrors l₀ s' y := by
  cases ha with
  | beside hb => exact hx.beside hb
  | loop _ hl => exact hx.loop hl
  | cancel => exact ⟨_, .single .cancel, { hx with link := congrArg Link.cancel hx.link }⟩
  | expel => exact ⟨x, .refl, { hx with entry := nofun }⟩
  | stop stopped =>
    cases stopped with
    | false => exact ⟨x, .refl, { hx with stopped := nofun }⟩
    | true => exact ⟨_, .single .stop, { hx with stopped := fun _ => rfl }⟩

/-! ## Runs -/

theorem mirrors_attach {subject name : String} {callback : Callback} {h h' : Hub} {stopped : Bool}
    (hok : h.attach .call subject name (some { callback }) = (h', .ok i)) :
    ∃ s x, Scene.station? ⟨h', stopped, none⟩ i = some s ∧ Reach v subject name callback x ∧
      Mirrors (opened subject name callback).link s x := by
  have hlink := Hub.link?_attach_new (k := ⟨.call, subject, name⟩) hok
  have hopened : Mirrors (opened subject name callback).link
      ⟨_, h'.hasEntry i, false, .reading⟩ (opened subject name callback) :=
    ⟨rfl, rfl, rfl, fun _ => rfl, nofun, rfl, nofun⟩
  obtain ⟨x, hx, hmirrors⟩ := hopened.act (v := v) (.stop stopped)
  exact ⟨_, x, Scene.station?_eq (c := ⟨h', stopped, none⟩) hlink, hx, hmirrors⟩

theorem mirrors_connect {subject : String} {id : Option String} {callback : Callback}
    (h : u.connect subject id callback = (u', .ok i)) :
    ∃ name s x, u'.scene.station? i = some s ∧ Reach v subject name callback x ∧
      Mirrors (opened subject name callback).link s x := by
  cases id with
  | some name =>
    obtain ⟨rfl, hok⟩ := Prod.mk.inj h
    exact ⟨name, mirrors_attach (Prod.ext rfl hok)⟩
  | none =>
    obtain ⟨rfl, hok⟩ := Prod.mk.inj h
    exact ⟨u.world.freshId.1, mirrors_attach (Prod.ext rfl hok)⟩

/-- Whatever happens after a client has been connected, its link is that of a line on which calls and
replies belong together, and its calls return what they do on the line. -/
theorem run_correlated (hv : v.Tame) {subject : String} {id : Option String}
    {callback : Callback} {w : Running ε} (hconnect : u.connect subject id callback = (u', .ok i))
    (hrun : Running.Run v depth u' w) :
    ∃ name x, w.hub.link? i = some x.link ∧ Reach v subject name callback x ∧
      (∀ o ∈ x.ops, o.stage = .sent → w.callResult? i o.rid = x.outcome o) ∧
      (x.ops.length < 2 ^ 64 → Correlated v (opened subject name callback).link callback x) := by
  obtain ⟨name, s, x, hs, hx, hmirrors⟩ := mirrors_connect (v := v) hconnect
  obtain ⟨s', y, hs', hxy, hy⟩ := Deeds.follow Mirrors.act (hrun.deeds hv) hs hmirrors
  have hlink : w.hub.link? i = some y.link := (Scene.link_of_station hs').trans (congrArg some hy.link)
  refine ⟨name, y, hlink, hx.trans hxy, fun o _ hsent => ?_, fun hbound => ?_⟩
  · simp only [Running.callResult?, hlink, Option.bind_some, outcome, hsent]
  obtain ⟨c, hc⟩ := Reach.correct (hx.trans hxy) hbound
  exact hc.correlated

/-! A call that is answered after a push to its own connection. -/

def joined : Running Unit := (({} : Running Unit).connect "/s" (some "a") .collect).1

def pinging : Running Unit := (joined.submit 0 true "/ping" [] none).1

example : ∃ w, Running.settle pinged 1 8 pinging = some w ∧
    (w.callResult? 0 1).bind Except.toOption = some { rid := 1, uri := "/ping" } ∧
    ∃ name x, w.hub.link? 0 = some x.link ∧ Reach pinged "/s" name .collect x ∧
      (∀ o ∈ x.ops, o.stage = .sent → w.callResult? 0 o.rid = x.outcome o) ∧
      (x.ops.length < 2 ^ 64 → Correlated pinged (opened "/s" name .collect).link .collect x) := by
  have htame : pinged.Tame := by
    refine Service.tame_empty.add _ _ (.bind (.push _ _ _ _ _) fun _ => .modify fun s => ?_) (by simp)
    exact Service.hub_step s _ ▸ .refl
  have hreply : (Running.settle pinged 1 8 pinging).bind
      (fun w => (w.callResult? 0 1).bind Except.toOption) =
        some { rid := 1, uri := "/ping" } := by decide +kernel
  obtain ⟨w, hw, hreply⟩ := Option.bind_eq_some_iff.mp hreply
  have hconnect : ({} : Running Unit).connect "/s" (some "a") .collect = (joined, .ok 0) := rfl
  have hrun : Running.Run pinged 1 joined w :=
    (Running.run_settle hw).head (.submit 0 true "/ping" [] none)
  exact ⟨w, hw, hreply, run_correlated htame hconnect hrun⟩

end Line

end Switchboard
