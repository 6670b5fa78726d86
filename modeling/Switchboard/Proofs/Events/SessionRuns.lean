import Switchboard.Proofs.Events.Session
import Switchboard.Proofs.Events.Turns

/-!
# Sessions of a running service

Whatever happens while a service runs, the link of a connection is that of a session: what comes in over a
WebSocket or from a client, what others put into the queue, and what the loop and the one who takes the
messages do.
-/

namespace Switchboard

variable {ε : Type}

namespace Session

variable {v : Service ε} {depth : Nat} {h : Hub} {l : Link} {u : Running ε} {i : Nat} {x : Session}
  {s s' : Station}

open Link (put?_eq post?_eq handOn_some handOn_none)

structure Shows (s : Station) (x : Session) : Prop where
  link : s.link = x.link
  phase : s.phase = x.phase
  stopped : s.stopped = true → x.stopped = true

/-! ## Acts at the station of a session -/

theorem Shows.beside {o : Prop} (hx : Shows s x) (hb : s.link.Beside o s.entry s.phase l) :
    ∃ y, Steps v x y ∧ Shows { s with link := l } y := by
  rw [hx.link, hx.phase] at hb
  cases hb with
  | put _ _ hput => exact ⟨_, .single (.push hput), { hx with link := rfl }⟩
  | hear f =>
    by_cases hloop : x.link.loop = .ended
    · exact ⟨x, .refl, { hx with link := if_pos hloop }⟩
    · exact ⟨_, .single (.frame f hloop), { hx with link := if_neg hloop }⟩
  | @submit c waits uri header body hc =>
    unfold Link.submitted
    cases hpost : (x.link.withClient (c.readied waits)).post? (c.nextEnvelope uri header body) with
    | some l =>
      have hready : Steps v x _ := .single (.client (c.readied waits))
      exact ⟨_, hready.tail (.post hpost), { hx with link := rfl }⟩
    | none => exact ⟨_, .single (.client (c.refused waits)), { hx with link := rfl }⟩
  | hangUp => exact ⟨_, .single .hangUp, { hx with link := rfl }⟩
  | @deliver c e rest _ hrec hqueue =>
    cases htake : c.take e with
    | some c' =>
      have htaken : Steps v x _ := .single (.handOn hrec hqueue)
      exact ⟨_, htaken.tail (.client c'), { hx with link := handOn_some htake }⟩
    | none => exact ⟨_, .single .breakOff, { hx with link := handOn_none htake }⟩
  | @finish c _ _ hqueue =>
    have hended : Steps v x _ := .single .breakOff
    refine ⟨_, hended.tail (.client c.giveUp), { hx with link := ?_ }⟩
    simp only [Link.finish, Link.withClient, hqueue]

theorem Shows.loop (hx : Shows s x) {p : LoopPhase}
    (hl : Link.Loops v s.stopped s.link s.phase l p) :
    ∃ y, Steps v x y ∧ Shows { s with link := l, phase := p } y := by
  generalize hphase : s.phase = p₀ at hl
  rw [hx.phase] at hphase
  rw [hx.link] at hl
  cases hl with
  | start hready => exact ⟨_, .single (.start hready), { hx with link := rfl, phase := hphase.symm }⟩
  | read hin hrid =>
    exact ⟨_, .single (.read hphase hin hrid), { hx with link := rfl, phase := rfl }⟩
  | skip hin hrid =>
    exact ⟨_, .single (.skip hphase hin hrid), { hx with link := rfl, phase := hphase.symm }⟩
  | discard hin =>
    exact ⟨_, .single (.discard hphase hin), { hx with link := rfl, phase := hphase.symm }⟩
  | lose hin ha => exact ⟨_, .single (.lose hphase hin ha), { hx with link := rfl, phase := rfl }⟩
  | reply hserved hput =>
    exact ⟨_, .single (.reply hphase hserved hput), { hx with link := rfl, phase := rfl }⟩
  | unheard hserved hput =>
    exact ⟨_, .single (.unheard hphase hserved hput), { hx with link := rfl, phase := rfl }⟩
  | quit hend =>
    exact ⟨_, .single (.quit hphase (hend.imp_right (Or.imp_left hx.stopped))),
      { hx with link := rfl, phase := rfl }⟩
  | close =>
    have hleave : Steps v x _ := .single (.leave hphase)
    exact ⟨_, (hleave.tail (.deafen rfl)).tail (.close rfl), { hx with link := rfl, phase := rfl }⟩

theorem Shows.act {o : Prop} (hx : Shows s x) (ha : Station.Act v o s s') :
    ∃ y, Steps v x y ∧ Shows s' y := by
  cases ha with
  | beside hb => exact hx.beside hb
  | loop _ hl => exact hx.loop hl
  | cancel => exact ⟨_, .single .cancel, { hx with link := congrArg Link.cancel hx.link }⟩
  | expel => exact ⟨x, .refl, { hx with }⟩
  | stop stopped =>
    cases stopped with
    | false => exact ⟨x, .refl, { hx with stopped := nofun }⟩
    | true => exact ⟨_, .single .stop, { hx with stopped := fun _ => rfl }⟩

/-! ## Runs -/

/-- Whatever happens after a connection has joined, its link is that of a session that has come there in
steps. -/
theorem run_reach (hv : v.Tame) {key : Key} {client : Option Client} {w : Running ε}
    (hjoin : u.hub.attach key.method key.path key.id client = (h, .ok i))
    (hrun : Relation.ReflTransGen (Running.Event v depth) (u.withHub h) w) :
    ∃ x, w.hub.link? i = some x.link ∧ Reach v key client x := by
  have hopened : Shows ⟨(opened key client).link, h.hasEntry i, false, .reading⟩ (opened key client) :=
    ⟨rfl, rfl, nofun⟩
  obtain ⟨x, hx, hshows⟩ := hopened.act (v := v) (o := True) (.stop (u.world.stop != .running))
  have hstation := Scene.station?_eq (c := (u.withHub h).scene) (Hub.link?_attach_new hjoin)
  obtain ⟨s, y, hs, hxy, hy⟩ := Deeds.follow Shows.act (Running.deeds_events hv hrun) hstation hshows
  exact ⟨y, (Scene.link_of_station hs).trans (congrArg some hy.link), hx.trans hxy⟩

end Session

end Switchboard
