import Mathlib.Data.List.Permutation
import Mathlib.Data.List.Induction
import Switchboard.Proofs.Route.Search

/-!
# Selection

What a lookup answers, told from the registrations alone: among the shapes that fit the path one goes
before the others, whatever the method, and the handlers of this shape answer, or those of the
catch-all right behind it.
-/

namespace Switchboard.Route

variable {α : Type}

/-- The shape that a path selects among those of `P`: it fits, and it goes before every other one that
fits. -/
structure Selected (P : List Char → Prop) (path s : List Char) : Prop where
  mem : P s
  fits : fits s path = true
  first : ∀ s', P s' → Route.fits s' path = true → s' = s ∨ outranks s s' = true

theorem Selected.unique {P : List Char → Prop} {path s s' : List Char} (h : Selected P path s)
    (h' : Selected P path s') : s' = s := by
  rcases h.first s' h'.mem h'.fits with e | hss'
  · exact e
  · rcases h'.first s h.mem h.fits with e | hs's
    · exact e.symm
    · rw [outranks_asymm hss'] at hs's
      cases hs's

def Payload.answer (p : Payload α) (m : Method) : Lookup α :=
  match p.handlers m with
  | some h => .matched h
  | none => .methodNotAllowed

def Payload.found (p : Payload α) (m : Method) (slots : List String) : Found α :=
  ⟨p.answer m, p.leaf.template, p.leaf.names, Tree.clearFrom p.leaf.names.length slots⟩

/-- The text whose routes answer when `s` is selected: a catch-all right behind it where it has no
handler for the method. -/
def answering (p : List Char → Payload α) (m : Method) (s : List Char) : List Char :=
  if (p s).handlers m = none ∧ (p (s ++ ['*'])).live then s ++ ['*'] else s

theorem answering_live {p : List Char → Payload α} {s : List Char} (h : (p s).live = true)
    (m : Method) : (p (answering p m s)).live = true := by
  unfold answering
  split
  · rename_i hstar
    exact hstar.2
  · exact h

namespace Tree

def Reachable (p : List Char → Payload α) (n : Nat) (s : List Char) : Prop :=
  (p s).live = true ∧ marks s ≤ n

theorem fallback?_of_some {t : Tree α} {i : Nat} {m : Method} {h : α}
    (hm : (t.node i).handlers m = some h) : t.fallback? i m = none := by
  simp [fallback?, outcome, hm]

theorem fallback?_of_none {t : Tree α} {i : Nat} {m : Method} (hm : (t.node i).handlers m = none) :
    t.fallback? i m = (t.childOfKind? i .any).filter fun c => (t.node c).hasHandlers := by
  unfold fallback? outcome
  rw [hm]
  by_cases h : (t.node i).hasHandlers = true
  · rw [if_pos h]
  · rw [if_neg h]

theorem outcome_eq_answer {n : Node α} (h : n.payload.live = true) (m : Method) :
    outcome n m = n.payload.answer m := by
  unfold outcome Payload.answer
  rw [n.hasHandlers_eq, if_pos h]
  rfl

section lookup

variable {t : Tree α} {text : Nat → List Char} {p : List Char → Payload α} (H : t.Holds text p)
include H

theorem Holds.meets_root {n : Nat} {path : List Char} {k : Nat} :
    t.Meets text n [] path root k ↔
      k < t.nodes.size ∧ Reachable p n (text k) ∧ fits (text k) path = true := by
  constructor
  · intro ⟨hk, hroutes, hslots, _, w, hw, hfit⟩
    rw [List.nil_append] at hw
    exact ⟨hk, ⟨H.hasHandlers hk ▸ hroutes, hslots⟩, hw ▸ hfit⟩
  · intro ⟨hk, ⟨hlive, hslots⟩, hfit⟩
    exact ⟨hk, (H.hasHandlers hk).trans hlive, hslots, H.layout.root_prefix k hk, _, rfl, hfit⟩

/-- The search from the root finds the node of the selected text, and none where no text fits. -/
theorem Holds.search_root (path : List Char) (slots : List String) :
    ((t.search t.nodes.size root path 0 slots).1 = none →
      ∀ s, Reachable p slots.length s → fits s path = false) ∧
    (∀ i, (t.search t.nodes.size root path 0 slots).1 = some i →
      i < t.nodes.size ∧ Selected (Reachable p slots.length) path (text i) ∧
        captures (text i) path <+: (t.search t.nodes.size root path 0 slots).2) ∧
    (t.search t.nodes.size root path 0 slots).2.length = slots.length := by
  have L := H.layout
  have hroot : (t.node root).kind = .param → path ≠ [] := fun h => by
    have htakes := L.takes L.root_lt
    rw [h] at htakes
    rcases L.root_stem with hr | hr
    · rw [show (t.node root).stem = [':'] from htakes] at hr
      cases hr
    · rw [hr.2] at h
      cases h
  have hfuel : (t.below text root).length ≤ t.nodes.size :=
    Nat.le_of_eq (by rw [L.below_root, List.length_range])
  have hv := L.search_visit H.stars (n := slots.length) t.nodes.size root [] (u := []) (s := path)
    L.root_lt hfuel L.root_text rfl List.nil_prefix rfl hroot
  refine ⟨fun hr s hs => ?_, fun i hr => ?_, hv.length⟩
  · obtain ⟨k, hk, rfl⟩ := H.exists_node hs.1
    by_contra hfit
    exact (hv.missed hr).2 k (H.meets_root.mpr ⟨hk, hs, eq_true_of_ne_false hfit⟩)
  · obtain ⟨hi, hcap, hfirst⟩ := hv.met i hr
    obtain ⟨hlt, hreach, hfit⟩ := H.meets_root.mp hi
    refine ⟨hlt, ⟨hreach, hfit, fun s hs hfs => ?_⟩, hcap⟩
    obtain ⟨k, hk, rfl⟩ := H.exists_node hs.1
    rcases hfirst k (H.meets_root.mpr ⟨hk, hs, hfs⟩) with rfl | h
    · exact Or.inl rfl
    · exact Or.inr h

theorem Holds.catchAll_node {i : Nat} (hi : i < t.nodes.size) :
    (∀ c, t.childOfKind? i .any = some c → c < t.nodes.size ∧ text c = text i ++ ['*'] ∧
      (t.node c).hasHandlers = true) ∧
    (t.childOfKind? i .any = none → (p (text i ++ ['*'])).live = false) := by
  have L := H.layout
  have hany : Kind.any ≠ .static := by decide
  refine ⟨fun c h => ?_, fun h => ?_⟩
  · obtain ⟨hc, hkind⟩ := (L.childOfKind?_eq hany).mp h
    have hlt := L.child_lt hc
    have htakes := L.takes hlt
    rw [hkind] at htakes
    rw [L.child_text hc, show (t.node c).stem = ['*'] from htakes]
    exact ⟨hlt, rfl, H.stars.hasHandlers L hlt hkind⟩
  · by_contra hlive
    obtain ⟨k, hk, hik⟩ := H.exists_node (eq_true_of_ne_false hlive)
    rcases L.prefix_cases hi hk (hik ▸ List.prefix_append _ _) with rfl | ⟨c, hc, hck⟩
    · exact List.cons_ne_nil _ _ (List.append_right_eq_self.mp hik.symm)
    · rw [hik, L.child_text hc, List.prefix_append_right_inj] at hck
      have hstem : (t.node c).stem = ['*'] :=
        (List.prefix_cons_iff.mp hck).elim (fun e => absurd e (L.child_stem hc)) fun ⟨x, e, hx⟩ =>
          by rw [e, List.prefix_nil.mp hx]
      have htakes := L.takes (L.child_lt hc)
      rw [hstem] at htakes
      have hkind : (t.node c).kind = .any := by
        cases hkind : (t.node c).kind with
        | static => rw [hkind] at htakes; exact absurd List.mem_cons_self htakes.2
        | param => rw [hkind] at htakes; cases htakes
        | any => rfl
      rw [(L.childOfKind?_eq hany).mpr ⟨hc, hkind⟩] at h
      cases h

/-- Where the search has met `i`, this node answers or the catch-all behind it. -/
theorem Holds.fallback {i : Nat} (hi : i < t.nodes.size) (m : Method) :
    (t.fallback? i m = none ∧ answering p m (text i) = text i) ∨
      ∃ c < t.nodes.size, t.fallback? i m = some c ∧ answering p m (text i) = text c ∧
        text c = text i ++ ['*'] := by
  have hhandlers : (t.node i).handlers = (p (text i)).handlers :=
    congrArg Payload.handlers (H.payload_node hi)
  cases hm : (p (text i)).handlers m with
  | some h =>
    refine Or.inl ⟨fallback?_of_some (hhandlers ▸ hm), ?_⟩
    rw [answering, if_neg (by simp [hm])]
  | none =>
    obtain ⟨hsome, hnone⟩ := H.catchAll_node hi
    rw [fallback?_of_none (hhandlers ▸ hm)]
    cases hc : t.childOfKind? i .any with
    | none =>
      refine Or.inl ⟨rfl, ?_⟩
      rw [answering, if_neg fun h => Bool.false_ne_true ((hnone hc).symm.trans h.2)]
    | some c =>
      obtain ⟨hlt, htext, hroutes⟩ := hsome c hc
      have hlive : (p (text i ++ ['*'])).live = true := by
        rw [← htext, ← H.hasHandlers hlt, hroutes]
      refine Or.inr ⟨c, hlt, ?_, ?_, htext⟩
      · rw [Option.filter_some, if_pos hroutes]
      · rw [answering, if_pos ⟨hm, hlive⟩, htext]

/-- What a lookup gives, told for the routes that find slots enough. -/
theorem Holds.find_spec (m : Method) {path : String} (hpath : path ≠ "") (slots : List String) :
    ((∀ s, Reachable p slots.length s → fits s path.toList = false) ∧
      t.find m path slots = ⟨.notFound, "", [], List.replicate slots.length ""⟩) ∨
    ∃ s slots', Selected (Reachable p slots.length) path.toList s ∧
      slots'.length = slots.length ∧ captures s path.toList <+: slots' ∧
      t.find m path slots = (p (answering p m s)).found m
        (if answering p m s = s then slots'
          else slots'.set ((p (answering p m s)).leaf.names.length - 1) "") := by
  have hs : path.toList ≠ [] := fun e => hpath (String.toList_inj.mp e)
  obtain ⟨hnone, hsome, hlen⟩ := H.search_root path.toList slots
  unfold find
  simp only [if_neg hs]
  rcases hr : t.search t.nodes.size root path.toList 0 slots with ⟨_ | i, slots'⟩
  · rw [hr] at hnone hlen
    refine Or.inl ⟨hnone rfl, ?_⟩
    simp only [clearFrom, List.take_zero, List.drop_zero, List.nil_append, List.map_const', hlen]
  · rw [hr] at hsome hlen
    obtain ⟨hi, hsel, hcap⟩ := hsome i rfl
    have hlive := answering_live hsel.mem.1 m
    refine Or.inr ⟨text i, slots', hsel, hlen, hcap, ?_⟩
    rcases H.fallback hi m with ⟨hc, ha⟩ | ⟨c, hlt, hc, ha, htext⟩
    · rw [ha, ← H.payload_node hi] at hlive ⊢
      rw [if_pos rfl]
      simp only [hc, outcome_eq_answer hlive m]
      rfl
    · have hne : text c ≠ text i := by
        rw [htext]
        exact fun e => List.cons_ne_nil _ _ (List.append_right_eq_self.mp e)
      rw [ha, ← H.payload_node hlt] at hlive ⊢
      rw [if_neg hne]
      simp only [hc, outcome_eq_answer hlive m]
      rfl

end lookup

end Tree

/-! ## The answer of a set of routes -/

def Routed (rs : List (Registration α)) (s : List Char) : Prop := ∃ r ∈ rs, r.shape = s

instance (rs : List (Registration α)) (s : List Char) : Decidable (Routed rs s) :=
  inferInstanceAs (Decidable (∃ r ∈ rs, r.shape = s))

def lastFor (rs : List (Registration α)) (m : Method) (s : List Char) : Option (Registration α) :=
  (rs.filter fun r => r.method = m ∧ r.shape = s).getLast?

def lastHandler (rs : List (Registration α)) (m : Method) (s : List Char) : Option α :=
  (lastFor rs m s).map Registration.handler

def answer (rs : List (Registration α)) (m : Method) (s : List Char) : Lookup α :=
  match lastHandler rs m s with
  | some h => .matched h
  | none =>
    if Routed rs (s ++ ['*']) then
      match lastHandler rs m (s ++ ['*']) with
      | some h => .matched h
      | none => .methodNotAllowed
    else .methodNotAllowed

theorem registered_concat (rs : List (Registration α)) (r : Registration α) (s : List Char) :
    registered (rs ++ [r]) s = r.place s (registered rs s) := by
  rw [registered, List.foldl_append]
  rfl

theorem registered_live (rs : List (Registration α)) (s : List Char) :
    (registered rs s).live = true ↔ Routed rs s := by
  induction rs using List.reverseRecOn with
  | nil => simp [registered, Routed, Payload.not_live_default]
  | append_singleton rs r ih =>
    rw [registered_concat, Registration.place]
    split
    · rename_i hs
      exact ⟨fun _ => ⟨r, by simp, hs⟩, fun _ => Payload.live_put _ _ _ _⟩
    · rename_i hs
      simp [ih, Routed, hs]

theorem registered_handlers (rs : List (Registration α)) (m : Method) (s : List Char) :
    (registered rs s).handlers m = lastHandler rs m s := by
  induction rs using List.reverseRecOn with
  | nil => rfl
  | append_singleton rs r ih =>
    rw [registered_concat, Registration.place, lastHandler, lastFor, List.filter_append]
    by_cases hs : r.shape = s
    · by_cases hm : m = r.method
      · simp [hs, hm, Payload.put]
      · simp [hs, hm, Ne.symm hm, Payload.put, ih, lastHandler, lastFor]
    · simp [hs, ih, lastHandler, lastFor]

theorem answer_eq (rs : List (Registration α)) (m : Method) (s : List Char) :
    (registered rs (answering (registered rs) m s)).answer m = answer rs m s := by
  have hlive := registered_live rs (s ++ ['*'])
  unfold answer Payload.answer
  rw [registered_handlers]
  cases hm : lastHandler rs m s with
  | some h =>
    rw [answering, if_neg (by simp [registered_handlers, hm]), hm]
  | none =>
    by_cases hr : Routed rs (s ++ ['*'])
    · rw [answering, if_pos ⟨(registered_handlers rs m s).trans hm, hlive.mpr hr⟩, if_pos hr]
    · rw [answering, if_neg fun h => hr (hlive.mp h.2), if_neg hr, hm]

theorem marks_le_maxParam {rs : List (Registration α)} {t : Tree α}
    (h : Tree.empty.addAll rs = (t, none)) {s : List Char} (hs : Routed rs s) :
    marks s ≤ t.maxParam := by
  obtain ⟨r, hr, rfl⟩ := hs
  rw [Tree.maxParam_of_registered h, Registration.shape, marks_shape]
  exact List.le_max?_getD_of_mem (List.mem_map_of_mem hr)

/-- With slots enough, what a lookup gives can be told from the registrations. -/
theorem find_spec {rs : List (Registration α)} {t : Tree α} (h : Tree.empty.addAll rs = (t, none))
    (m : Method) {path : String} (hpath : path ≠ "") {slots : List String}
    (hslots : t.maxParam ≤ slots.length) :
    ((∀ s, Routed rs s → fits s path.toList = false) ∧
      t.find m path slots = ⟨.notFound, "", [], List.replicate slots.length ""⟩) ∨
    ∃ s slots', Selected (Routed rs) path.toList s ∧
      slots'.length = slots.length ∧ captures s path.toList <+: slots' ∧
      t.find m path slots = (registered rs (answering (registered rs) m s)).found m
        (if answering (registered rs) m s = s then slots'
          else slots'.set ((registered rs (answering (registered rs) m s)).leaf.names.length - 1)
            "") := by
  obtain ⟨text, H⟩ := Tree.addAll_empty_holds h
  have hreach : Tree.Reachable (registered rs) slots.length = Routed rs := by
    funext s
    refine propext ⟨fun hs => (registered_live rs s).mp hs.1, fun hs => ?_⟩
    exact ⟨(registered_live rs s).mpr hs, Nat.le_trans (marks_le_maxParam h hs) hslots⟩
  have hfind := H.find_spec m hpath slots
  rwa [hreach] at hfind

/-- Lookups answer as the registrations say, whatever the tree has come to be: not found where no
shape fits, and otherwise as the selected shape answers to the method. -/
theorem find_outcome {rs : List (Registration α)} {t : Tree α}
    (h : Tree.empty.addAll rs = (t, none)) (m : Method) {path : String} (hpath : path ≠ "")
    {slots : List String} (hslots : t.maxParam ≤ slots.length) :
    ((t.find m path slots).outcome = .notFound ↔
      ∀ r ∈ rs, fits r.shape path.toList = false) ∧
    ((∃ r ∈ rs, fits r.shape path.toList = true) → ∃ s, Selected (Routed rs) path.toList s) ∧
    ∀ s, Selected (Routed rs) path.toList s →
      (t.find m path slots).outcome = answer rs m s := by
  have hne : ∀ s, answer rs m s ≠ .notFound := fun s => by
    unfold answer
    split
    · simp
    · split
      · split <;> simp
      · simp
  rcases find_spec h m hpath hslots with ⟨hnone, hfind⟩ | ⟨s, slots', hs, _, _, hfind⟩
  · refine ⟨⟨fun _ r hr => hnone _ ⟨r, hr, rfl⟩, fun _ => by rw [hfind]⟩, ?_, ?_⟩
    · intro ⟨r, hr, hfit⟩
      rw [hnone _ ⟨r, hr, rfl⟩] at hfit
      cases hfit
    · intro s hs
      have hfit := hs.fits
      rw [hnone s hs.mem] at hfit
      cases hfit
  · have hout : (t.find m path slots).outcome = answer rs m s := by
      rw [hfind]
      exact answer_eq rs m s
    refine ⟨⟨fun e => absurd (hout.symm.trans e) (hne s), fun hnone => ?_⟩, fun _ => ⟨s, hs⟩, ?_⟩
    · obtain ⟨r, hr, rfl⟩ := hs.mem
      have hfit := hs.fits
      rw [hnone r hr] at hfit
      cases hfit
    · intro s' hs'
      rw [hs.unique hs']
      exact hout

/-- A static route, a parameter and a catch-all that fit one path. -/
def userRoutes : List (Registration Nat) :=
  [⟨.get, "/users/:id", 0⟩, ⟨.post, "users/new", 1⟩, ⟨.get, "/users/*", 2⟩]

theorem find_outcome_userRoutes :
    ((Tree.empty.addAll userRoutes).1.find .get "/users/new" [""]).outcome =
      .methodNotAllowed := by
  have hadded : Tree.empty.addAll userRoutes = ((Tree.empty.addAll userRoutes).1, none) :=
    Prod.ext rfl (by cbv)
  have hslots : (Tree.empty.addAll userRoutes).1.maxParam = [""].length := by cbv
  have hselected : Selected (Routed userRoutes) "/users/new".toList "/users/new".toList := by
    refine ⟨⟨⟨.post, "users/new", 1⟩, by simp [userRoutes], by cbv⟩, by cbv, ?_⟩
    rintro _ ⟨r, hr, rfl⟩ _
    simp only [userRoutes, List.mem_cons, List.not_mem_nil, or_false] at hr
    rcases hr with rfl | rfl | rfl
    · exact Or.inr (by cbv)
    · exact Or.inl (by cbv)
    · exact Or.inr (by cbv)
  rw [(find_outcome hadded .get (by decide) (Nat.le_of_eq hslots)).2.2 _ hselected]
  cbv

end Switchboard.Route
