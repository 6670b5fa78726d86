import Switchboard.Events.Hub

/-!
# Entries of subjects

A subject knows a connection by its id alone. What joining and leaving do is told here by one function,
the position that stands under a key, and by what they leave of each link.
-/

namespace Switchboard

structure Key where
  method : Method
  path : String
  id : String
deriving DecidableEq

def Link.key (l : Link) : Key := ⟨l.method, l.path, l.id⟩

def Link.cancel (l : Link) : Link := { l with cancelled := true }

namespace Subject

def without (s : Subject) (id : String) : Subject :=
  { s with peers := s.peers.filter (·.1 != id) }

def joined (s : Subject) (id : String) (i : Nat) : Subject :=
  { s with peers := s.peers ++ [(id, i)] }

theorem isFor_iff {s : Subject} {m : Method} {path : String} :
    s.isFor m path = true ↔ s.method = m ∧ s.path = path := by
  simp [isFor]

theorem contains_iff {s : Subject} {id : String} :
    s.contains id = true ↔ ∃ i, s.peers.lookup id = some i := by
  rw [contains]
  induction s.peers with
  | nil => simp
  | cons p ps ih =>
    rw [List.any_cons, Bool.or_eq_true, ih, List.lookup_cons]
    by_cases hp : p.1 = id
    · simp [hp]
    · simp [hp, beq_eq_false_iff_ne.mpr (Ne.symm hp)]

end Subject

theorem lookup_filter_ne {β : Type} (id id' : String) : ∀ ps : List (String × β),
    (ps.filter (·.1 != id)).lookup id' = if id' = id then none else ps.lookup id'
  | [] => by simp
  | p :: ps => by
    have ih := lookup_filter_ne id id' ps
    by_cases hp : p.1 = id
    · rw [List.filter_cons_of_neg (by simp [hp]), ih, List.lookup_cons]
      by_cases hid : id' = id
      · rw [if_pos hid, if_pos hid]
      · rw [if_neg hid, if_neg hid, beq_eq_false_iff_ne.mpr (hp ▸ hid)]
    · rw [List.filter_cons_of_pos (by simp [hp]), List.lookup_cons, List.lookup_cons, ih]
      by_cases hid : id' = p.1
      · have hne : id' ≠ id := fun e => hp (hid.symm.trans e)
        simp only [beq_iff_eq.mpr hid, if_neg hne]
      · rw [beq_eq_false_iff_ne.mpr hid]

namespace Hub

def standing? (h : Hub) (k : Key) : Option Nat :=
  (h.subject? k.method k.path).bind fun s => s.peers.lookup k.id

theorem subject?_isFor {h : Hub} {m : Method} {path : String} {s : Subject}
    (hs : h.subject? m path = some s) : s.method = m ∧ s.path = path := by
  have hp := List.find?_some hs
  exact Subject.isFor_iff.mp hp

theorem subject?_modifySubject (h : Hub) (m m' : Method) (path path' : String)
    {f : Subject → Subject} (hf : ∀ s, (f s).method = s.method ∧ (f s).path = s.path) :
    (h.modifySubject m path f).subject? m' path' =
      (h.subject? m' path').map fun s => if s.isFor m path then f s else s := by
  rw [subject?, modifySubject, List.find?_map]
  refine congrArg _ (congrArg (fun p => h.subjects.find? p) (funext fun s => ?_))
  show (if s.isFor m path then f s else s).isFor m' path' = s.isFor m' path'
  split
  · rw [Subject.isFor, (hf s).1, (hf s).2]
    rfl
  · rfl

theorem standing?_modifySubject (h : Hub) (m : Method) (path : String) {f : Subject → Subject}
    (hf : ∀ s, (f s).method = s.method ∧ (f s).path = s.path) (k : Key) :
    (h.modifySubject m path f).standing? k =
      (h.subject? k.method k.path).bind fun s =>
        if k.method = m ∧ k.path = path then (f s).peers.lookup k.id else s.peers.lookup k.id := by
  rw [standing?, subject?_modifySubject h m k.method path k.path hf]
  cases hs : h.subject? k.method k.path with
  | none => rfl
  | some s =>
    have hk := subject?_isFor hs
    have hiff : s.isFor m path = true ↔ k.method = m ∧ k.path = path := by
      rw [Subject.isFor_iff, hk.1, hk.2]
    by_cases hfor : k.method = m ∧ k.path = path
    · simp [hiff.mpr hfor, hfor]
    · have := mt hiff.mp hfor
      simp [this, hfor]

@[simp] theorem standing?_modifyLink (h : Hub) (i : Nat) (f : Link → Link) (k : Key) :
    (h.modifyLink i f).standing? k = h.standing? k := rfl

theorem link?_modifyLink (h : Hub) (i j : Nat) (f : Link → Link) :
    (h.modifyLink i f).link? j = if j = i then (h.link? j).map f else h.link? j := by
  simp only [link?, modifyLink, List.getElem?_modify]
  by_cases hj : j = i
  · simp [hj]
  · simp [hj, Ne.symm hj]

/-! ## Leaving -/

/-- Leaving takes out what stands under the key, whoever has put it there, and asks its loop to
stop. -/
theorem remove_eq (h : Hub) (k : Key) : h.remove k.method k.path k.id =
    match h.standing? k with
    | some i =>
      (h.modifySubject k.method k.path fun s => s.without k.id).modifyLink i Link.cancel
    | none => h := rfl

theorem standing?_remove (h : Hub) (k k' : Key) :
    (h.remove k.method k.path k.id).standing? k' = if k' = k then none else h.standing? k' := by
  rw [remove_eq]
  cases hk : h.standing? k with
  | none =>
    show h.standing? k' = _
    split
    · rename_i e
      rw [e, hk]
    · rfl
  | some i =>
    show ((h.modifySubject k.method k.path fun s => s.without k.id).modifyLink i _).standing? k' = _
    rw [standing?_modifyLink, standing?_modifySubject h _ _ (f := (·.without k.id)) fun _ => ⟨rfl, rfl⟩,
      standing?]
    cases h.subject? k'.method k'.path with
    | none => simp
    | some s =>
      obtain ⟨m, path, id⟩ := k
      obtain ⟨m', path', id'⟩ := k'
      simp only [Option.bind_some, Subject.without, lookup_filter_ne, Key.mk.injEq]
      by_cases hfor : m' = m ∧ path' = path
      · simp [hfor]
      · rw [if_neg hfor, if_neg fun e => hfor ⟨e.1, e.2.1⟩]

theorem link?_remove (h : Hub) (k : Key) (j : Nat) :
    (h.remove k.method k.path k.id).link? j =
      if h.standing? k = some j then (h.link? j).map Link.cancel else h.link? j := by
  rw [remove_eq]
  cases hk : h.standing? k with
  | none => simp
  | some i =>
    show ((h.modifySubject k.method k.path _).modifyLink i Link.cancel).link? j = _
    rw [link?_modifyLink]
    simp only [Option.some.injEq, eq_comm]
    rfl

theorem disconnect_eq (h : Hub) (k : Key) :
    (h.disconnect k.method k.path k.id).1 = h.remove k.method k.path k.id := by
  unfold disconnect
  cases hs : h.subject? k.method k.path with
  | none => simp [remove_eq, standing?, hs]
  | some s =>
    by_cases hc : s.contains k.id = true
    · simp [hc]
    · have hnone : s.peers.lookup k.id = none := by
        cases hl : s.peers.lookup k.id with
        | none => rfl
        | some i => exact absurd (Subject.contains_iff.mpr ⟨i, hl⟩) hc
      simp [hc, remove_eq, standing?, hs, hnone]

/-! ## Joining -/

theorem subject?_openSubject_isSome (h : Hub) (m : Method) (path : String) :
    ((h.openSubject m path).subject? m path).isSome = true := by
  unfold openSubject
  split
  · assumption
  · simp [subject?, List.find?_append, Subject.isFor]

theorem standing?_openSubject (h : Hub) (m : Method) (path : String) (k : Key) :
    (h.openSubject m path).standing? k = h.standing? k := by
  unfold openSubject
  split
  · rfl
  · rename_i hno
    simp only [standing?, subject?, List.find?_append]
    cases hs : h.subjects.find? (·.isFor k.method k.path) with
    | some s => rfl
    | none =>
      cases hf : [{ method := m, path : Subject }].find? (·.isFor k.method k.path) with
      | none => rfl
      | some s =>
        rw [List.mem_singleton.mp (List.mem_of_find?_eq_some hf)]
        rfl

@[simp] theorem link?_openSubject (h : Hub) (m : Method) (path : String) (i : Nat) :
    (h.openSubject m path).link? i = h.link? i := by
  unfold openSubject
  split <;> rfl

@[simp] theorem links_openSubject (h : Hub) (m : Method) (path : String) :
    (h.openSubject m path).links = h.links := by
  unfold openSubject
  split <;> rfl

theorem attach_taken {h : Hub} {k : Key} {i : Nat} (hk : h.standing? k = some i)
    (client : Option Client) :
    h.attach k.method k.path k.id client =
      (h.openSubject k.method k.path, .error (.duplicateConnection k.id)) := by
  have hopen := standing?_openSubject h k.method k.path k
  rw [hk] at hopen
  obtain ⟨s, hs, hl⟩ := Option.bind_eq_some_iff.mp hopen
  have hc : s.contains k.id = true := Subject.contains_iff.mpr ⟨i, hl⟩
  simp only [attach]
  rw [hs]
  simp [hc]

theorem attach_free {h : Hub} {k : Key} (hk : h.standing? k = none) (client : Option Client) :
    ∃ h', h.attach k.method k.path k.id client = (h', .ok h.links.length) ∧
      (∀ j, h'.link? j =
        if j = h.links.length then some { method := k.method, path := k.path, id := k.id, client }
        else h.link? j) ∧
      ∀ k', h'.standing? k' = if k' = k then some h.links.length else h.standing? k' := by
  have hopen := standing?_openSubject h k.method k.path
  obtain ⟨s, hs⟩ := Option.isSome_iff_exists.mp (subject?_openSubject_isSome h k.method k.path)
  have hc : ¬ s.contains k.id = true := by
    rw [Subject.contains_iff]
    intro ⟨i, hl⟩
    have := hopen k
    rw [hk, standing?, hs, Option.bind_some, hl] at this
    cases this
  let o := h.openSubject k.method k.path
  let o' : Hub :=
    { o with links := o.links ++ [{ method := k.method, path := k.path, id := k.id, client }] }
  have hlinks : o.links = h.links := links_openSubject h k.method k.path
  refine ⟨o'.modifySubject k.method k.path (·.joined k.id o.links.length), ?_, fun j => ?_, fun k' => ?_⟩
  · have hattach : h.attach k.method k.path k.id client =
        (o'.modifySubject k.method k.path (·.joined k.id o.links.length), .ok o.links.length) := by
      simp only [attach]
      rw [hs]
      simp only [if_neg hc]
      rfl
    rw [hattach, hlinks]
  · show (o.links ++ [_])[j]? = _
    rw [hlinks, List.getElem?_append, link?]
    rcases Nat.lt_trichotomy j h.links.length with hj | hj | hj
    · rw [if_pos hj, if_neg (Nat.ne_of_lt hj)]
    · simp [hj]
    · rw [if_neg (Nat.not_lt.mpr (Nat.le_of_lt hj)), if_neg (Nat.ne_of_gt hj),
        List.getElem?_eq_none (Nat.le_of_lt hj), List.getElem?_eq_none]
      exact Nat.sub_pos_of_lt hj
  · rw [standing?_modifySubject o' _ _ (f := (·.joined k.id o.links.length)) fun _ => ⟨rfl, rfl⟩,
      hlinks, ← hopen k']
    show (o.subject? k'.method k'.path).bind _ = _
    by_cases hfor : k'.method = k.method ∧ k'.path = k.path
    · have hs' : o.subject? k'.method k'.path = some s := by rw [hfor.1, hfor.2]; exact hs
      have he : (h.openSubject k.method k.path).standing? k' = s.peers.lookup k'.id := by
        rw [standing?]
        exact congrArg (Option.bind · _) hs'
      simp only [he, hs', Option.bind_some, if_pos hfor, Subject.joined, List.lookup_append]
      by_cases hid : k'.id = k.id
      · have hkk : k' = k := by
          obtain ⟨m, path, id⟩ := k
          obtain ⟨m', path', id'⟩ := k'
          exact Key.mk.injEq .. ▸ ⟨hfor.1, hfor.2, hid⟩
        have hnone : s.peers.lookup k.id = none := by
          have := hopen k
          rwa [hk, standing?, hs, Option.bind_some] at this
        rw [if_pos hkk, hid, hnone, Option.none_or, List.lookup_cons, beq_self_eq_true]
      · rw [if_neg fun e => hid (congrArg Key.id e), List.lookup_cons, beq_eq_false_iff_ne.mpr hid]
        exact Option.or_none
    · rw [if_neg fun e => hfor ⟨congrArg Key.method e, congrArg Key.path e⟩]
      simp only [if_neg hfor]
      rfl

end Hub

end Switchboard
