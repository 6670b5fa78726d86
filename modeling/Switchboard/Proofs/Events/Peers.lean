import Mathlib.Data.List.Nodup
import Switchboard.Proofs.Events.Turns

/-!
# Peers

Whatever a service does with its connections comes down to three edits: a link changes, a connection
leaves, or a new one joins. So the entries of a subject have an id and a link each for themselves.
-/

namespace Switchboard

namespace Hub

/-- Links keep the key under which they have joined. -/
inductive Edit : Hub → Hub → Prop
  | link {h : Hub} (i : Nat) (f : Link → Link) :
    (∀ l, h.link? i = some l → (f l).key = l.key) → Edit h (h.modifyLink i f)
  | remove {h : Hub} (k : Key) : Edit h (h.remove k.method k.path k.id)
  | attach {h : Hub} (k : Key) (client : Option Client) :
    Edit h (h.attach k.method k.path k.id client).1

abbrev Edits : Hub → Hub → Prop := Relation.ReflTransGen Edit

theorem edits_modifyLink (h : Hub) (i : Nat) {f : Link → Link} (hf : ∀ l, (f l).key = l.key) :
    Edits h (h.modifyLink i f) := .single (.link i f fun l _ => hf l)

theorem Edit.set {h : Hub} {i : Nat} {l l' : Link} (hl : h.link? i = some l) (hkey : l'.key = l.key) :
    Edit h (h.modifyLink i fun _ => l') := by
  refine .link i _ fun k hk => ?_
  obtain rfl : l = k := Option.some.inj (hl.symm.trans hk)
  exact hkey

theorem Stir.edit {o : Prop} {phase : Nat → Link → LoopPhase} {h h' : Hub} (hs : h.Stir o phase h') :
    Edit h h' := by
  cases hs with
  | beside hl hb => exact .set hl hb.kept.1
  | remove key => exact .remove key
  | attach key client => exact .attach key client

end Hub

theorem Deeds.edits {ε : Type} {v : Service ε} {o : Prop} {c c' : Scene} (hd : Deeds v o c c') :
    Hub.Edits c.hub c'.hub := by
  induction hd with
  | refl => exact .refl
  | tail _ hd ih =>
    cases hd with
    | stir hs => exact ih.tail hs.edit
    | loop hl _ _ hp => exact ih.tail (.set hl hp.key)
    | stop => exact ih

/-! ## What every edit keeps -/

namespace Hub

/-- Each subject can be found, no two of its entries have the same id, and each entry stands for the
link that has joined under its id. -/
structure Orderly (h : Hub) : Prop where
  found : ∀ s ∈ h.subjects, h.subject? s.method s.path = some s
  ids : ∀ s ∈ h.subjects, s.connections.Nodup
  entry : ∀ s ∈ h.subjects, ∀ p ∈ s.peers,
    ∃ l, h.link? p.2 = some l ∧ l.key = ⟨s.method, s.path, p.1⟩

theorem orderly_empty : ({} : Hub).Orderly where
  found _ hs := nomatch hs
  ids _ hs := nomatch hs
  entry _ hs := nomatch hs

namespace Orderly

variable {h : Hub} (H : h.Orderly)
include H

theorem places {s : Subject} (hs : s ∈ h.subjects) : (s.peers.map Prod.snd).Nodup := by
  have hids := H.ids s hs
  refine hids.of_map.map_on fun p hp q hq hpq => ?_
  obtain ⟨l, hl, hkey⟩ := H.entry s hs p hp
  obtain ⟨l', hl', hkey'⟩ := H.entry s hs q hq
  rw [hpq, hl'] at hl
  cases hl
  rw [hkey] at hkey'
  exact Prod.ext (congrArg Key.id hkey') hpq

theorem of_links {h' : Hub} (hsubjects : h'.subjects = h.subjects)
    (hlinks : ∀ i l, h.link? i = some l → ∃ l', h'.link? i = some l' ∧ l'.key = l.key) :
    h'.Orderly := by
  have hsubject : ∀ m path, h'.subject? m path = h.subject? m path := by
    intro m path
    rw [subject?, hsubjects]
    rfl
  refine ⟨fun s hs => ?_, fun s hs => H.ids s (hsubjects ▸ hs), fun s hs p hp => ?_⟩
  · rw [hsubject]
    exact H.found s (hsubjects ▸ hs)
  · obtain ⟨l, hl, hkey⟩ := H.entry s (hsubjects ▸ hs) p hp
    obtain ⟨l', hl', hkey'⟩ := hlinks p.2 l hl
    exact ⟨l', hl', hkey'.trans hkey⟩

theorem modifyLink {i : Nat} {f : Link → Link}
    (hf : ∀ l, h.link? i = some l → (f l).key = l.key) : (h.modifyLink i f).Orderly := by
  refine H.of_links rfl fun j l hl => ?_
  rw [link?_modifyLink, hl]
  split
  · rename_i hj
    exact ⟨f l, rfl, hf l (hj ▸ hl)⟩
  · exact ⟨l, rfl, rfl⟩

theorem modifySubject {m : Method} {path : String} {f : Subject → Subject}
    (hname : ∀ s, (f s).method = s.method ∧ (f s).path = s.path)
    (hids : ∀ s, h.subject? m path = some s → (f s).connections.Nodup)
    (hentry : ∀ s, h.subject? m path = some s → ∀ p ∈ (f s).peers,
      ∃ l, h.link? p.2 = some l ∧ l.key = ⟨m, path, p.1⟩) :
    (h.modifySubject m path f).Orderly := by
  have hfound : ∀ s ∈ h.subjects, s.isFor m path = true → h.subject? m path = some s := by
    intro s hs hfor
    obtain ⟨rfl, rfl⟩ := Subject.isFor_iff.mp hfor
    exact H.found s hs
  refine ⟨fun s' hs' => ?_, fun s' hs' => ?_, fun s' hs' => ?_⟩
  all_goals obtain ⟨s, hs, rfl⟩ := List.mem_map.mp hs'
  · rw [subject?_modifySubject h m _ path _ hname]
    split
    · rename_i hfor
      rw [(hname s).1, (hname s).2, H.found s hs, Option.map_some, if_pos hfor]
    · rename_i hfor
      rw [H.found s hs, Option.map_some, if_neg hfor]
  · split
    · rename_i hfor
      exact hids s (hfound s hs hfor)
    · exact H.ids s hs
  · split
    · rename_i hfor
      rw [(hname s).1, (hname s).2, (Subject.isFor_iff.mp hfor).1, (Subject.isFor_iff.mp hfor).2]
      exact hentry s (hfound s hs hfor)
    · exact H.entry s hs

theorem openSubject (m : Method) (path : String) : (h.openSubject m path).Orderly := by
  unfold Hub.openSubject
  split
  · exact H
  · rename_i hno
    have hnone := Option.not_isSome_iff_eq_none.mp hno
    have hsubject : ∀ m' path',
        Hub.subject? { h with subjects := h.subjects ++ [{ method := m, path }] } m' path' =
          (h.subject? m' path').or ([{ method := m, path }].find? (·.isFor m' path')) :=
      fun m' path' => List.find?_append
    refine ⟨fun s hs => ?_, fun s hs => ?_, fun s hs => ?_⟩
    all_goals rcases List.mem_append.mp hs with hs | hs
    · rw [hsubject, H.found s hs, Option.some_or]
    · rw [List.mem_singleton.mp hs, hsubject, hnone]
      simp [Subject.isFor]
    · exact H.ids s hs
    · rw [List.mem_singleton.mp hs]
      exact List.nodup_nil
    · exact H.entry s hs
    · rw [List.mem_singleton.mp hs]
      exact fun p hp => absurd hp List.not_mem_nil

theorem remove (k : Key) : (h.remove k.method k.path k.id).Orderly := by
  rw [remove_eq]
  split
  · have hleft : (h.modifySubject k.method k.path fun s => s.without k.id).Orderly := by
      refine H.modifySubject (fun _ => ⟨rfl, rfl⟩) (fun s hs => ?_) fun s hs p hp => ?_
      · have hsub : (s.without k.id).peers.Sublist s.peers := List.filter_sublist
        exact (H.ids s (List.mem_of_find?_eq_some hs)).sublist (hsub.map Prod.fst)
      · obtain ⟨l, hl, hkey⟩ :=
          H.entry s (List.mem_of_find?_eq_some hs) p (List.mem_of_mem_filter hp)
        rw [(subject?_isFor hs).1, (subject?_isFor hs).2] at hkey
        exact ⟨l, hl, hkey⟩
    exact hleft.modifyLink fun _ _ => rfl
  · exact H

theorem attach (k : Key) (client : Option Client) :
    (h.attach k.method k.path k.id client).1.Orderly := by
  have hopen := H.openSubject k.method k.path
  unfold Hub.attach
  dsimp only
  generalize h.openSubject k.method k.path = o at hopen ⊢
  split
  · rename_i s hs
    split
    · exact hopen
    · rename_i hfree
      let l : Link := { method := k.method, path := k.path, id := k.id, client }
      have hlinks : ∀ i l', o.link? i = some l' →
          Hub.link? { o with links := o.links ++ [l] } i = some l' := by
        intro i l' hl'
        exact (List.getElem?_append_left (List.getElem?_eq_some_iff.mp hl').1).trans hl'
      have hjoined : Orderly { o with links := o.links ++ [l] } :=
        hopen.of_links rfl fun i l' hl' => ⟨l', hlinks i l' hl', rfl⟩
      refine hjoined.modifySubject (f := (·.joined k.id o.links.length)) (fun _ => ⟨rfl, rfl⟩)
        (fun s' hs' => ?_) fun s' hs' p hp => ?_
      all_goals obtain rfl : s' = s := Option.some.inj (hs'.symm.trans hs)
      · have hids := hopen.ids s' (List.mem_of_find?_eq_some hs)
        have hnew : k.id ∉ s'.connections := by
          intro hmem
          obtain ⟨p, hp, hid⟩ := List.mem_map.mp hmem
          exact hfree (List.any_eq_true.mpr ⟨p, hp, beq_iff_eq.mpr hid⟩)
        have hconnections : (s'.joined k.id o.links.length).connections =
            s'.connections.concat k.id := by
          rw [List.concat_eq_append]
          exact List.map_append
        exact hconnections ▸ List.Nodup.concat hnew hids
      · rcases List.mem_append.mp hp with hp | hp
        · obtain ⟨l', hl', hkey⟩ := hopen.entry s' (List.mem_of_find?_eq_some hs) p hp
          rw [(subject?_isFor hs).1, (subject?_isFor hs).2] at hkey
          exact ⟨l', hlinks p.2 l' hl', hkey⟩
        · rw [List.mem_singleton.mp hp]
          exact ⟨l, List.getElem?_concat_length, rfl⟩
  · exact hopen

end Orderly

theorem Orderly.edit {h h' : Hub} (H : h.Orderly) (he : Edit h h') : h'.Orderly := by
  cases he with
  | link i f hf => exact H.modifyLink hf
  | remove k => exact H.remove k
  | attach k client => exact H.attach k client

theorem Orderly.edits {h h' : Hub} (H : h.Orderly) (he : Edits h h') : h'.Orderly := by
  induction he with
  | refl => exact H
  | tail _ he ih => exact ih.edit he

end Hub

/-- Whatever happens while a service runs, its subjects stay in order. -/
theorem Running.orderly_run {ε : Type} {v : Service ε} (hv : v.Tame) {depth : Nat}
    {u u' : Running ε} (H : u.hub.Orderly)
    (hrun : Relation.ReflTransGen (Event v depth) u u') : u'.hub.Orderly :=
  H.edits (deeds_events hv hrun).edits

end Switchboard
