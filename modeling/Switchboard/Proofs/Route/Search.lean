import Switchboard.Route.Lookup
import Switchboard.Proofs.Route.Registration

/-!
# Search

What a visit below a node finds: among the nodes there that have routes, fit and find slots enough,
the one that goes before all others. Slots written on branches that lead nowhere are written again.
-/

namespace Switchboard.Route.Tree

variable {α : Type}

/-! ## Visits -/

/-- What a visit gives that looks for the nodes of `M`: the one that goes first, and its captures in
the slots behind `base`. -/
structure Visit (text : Nat → List Char) (n : Nat) (base : List String) (M : Nat → Prop)
    (cap : Nat → List String) (r : Option Nat × List String) : Prop where
  length : r.2.length = n
  missed : r.1 = none → base <+: r.2 ∧ ∀ k, ¬ M k
  met : ∀ j, r.1 = some j → M j ∧ base ++ cap j <+: r.2 ∧
    ∀ k, M k → k = j ∨ outranks (text j) (text k) = true

section visits

variable {text : Nat → List Char} {n : Nat} {base : List String}

theorem Visit.none {M : Nat → Prop} {cap : Nat → List String} {slots : List String}
    (hlen : slots.length = n) (hbase : base <+: slots) (hM : ∀ k, ¬ M k) :
    Visit text n base M cap (none, slots) :=
  ⟨hlen, fun _ => ⟨hbase, hM⟩, fun _ h => by cases h⟩

theorem Visit.some {M : Nat → Prop} {cap : Nat → List String} {slots : List String} {i : Nat}
    (hlen : slots.length = n) (hi : M i) (hcap : base ++ cap i <+: slots)
    (hM : ∀ k, M k → k = i ∨ outranks (text i) (text k) = true) :
    Visit text n base M cap (some i, slots) :=
  ⟨hlen, fun h => (by cases h), fun j h => by cases h; exact ⟨hi, hcap, hM⟩⟩

theorem Visit.congr {base' : List String} {M M' : Nat → Prop} {cap cap' : Nat → List String}
    {r : Option Nat × List String} (h : Visit text n base' M' cap' r) (hM : ∀ k, M k ↔ M' k)
    (hbase : base <+: base') (hcap : ∀ k, M k → base ++ cap k = base' ++ cap' k) :
    Visit text n base M cap r where
  length := h.length
  missed := fun hr => ⟨hbase.trans (h.missed hr).1, fun k hk => (h.missed hr).2 k ((hM k).mp hk)⟩
  met := fun j hr => by
    obtain ⟨hj, hpre, hfirst⟩ := h.met j hr
    have hj' := (hM j).mpr hj
    exact ⟨hj', hcap j hj' ▸ hpre, fun k hk => hfirst k ((hM k).mp hk)⟩

/-- Branches are tried one after the other; what an earlier one has goes before what a later one
has. -/
theorem firstOf_visit {cap : Nat → List String}
    {visit : Nat → List String → Option Nat × List String} (M : Nat → Nat → Prop) :
    ∀ (cs : List Nat) {slots : List String}, slots.length = n → base <+: slots →
      (∀ c ∈ cs, ∀ slots : List String, slots.length = n → base <+: slots →
        Visit text n base (M c) cap (visit c slots)) →
      (cs.Pairwise fun a b => ∀ j k, M a j → M b k → outranks (text j) (text k) = true) →
      Visit text n base (fun k => ∃ c ∈ cs, M c k) cap (firstOf visit cs slots)
  | [], slots, hlen, hbase, _, _ => Visit.none hlen hbase fun k ⟨c, hc, _⟩ => by cases hc
  | c :: cs, slots, hlen, hbase, hvisit, horder => by
    rw [List.pairwise_cons] at horder
    have hv := hvisit c List.mem_cons_self slots hlen hbase
    rw [firstOf]
    match visit c slots, hv with
    | (some j, slots'), hv =>
      obtain ⟨hj, hcap, hfirst⟩ := hv.met j rfl
      refine Visit.some hv.length ⟨c, List.mem_cons_self, hj⟩ hcap ?_
      intro k ⟨d, hd, hk⟩
      rcases List.mem_cons.mp hd with rfl | hd
      · exact hfirst k hk
      · exact Or.inr (horder.1 d hd j k hj hk)
    | (none, slots'), hv =>
      obtain ⟨hbase', hnone⟩ := hv.missed rfl
      have hrest := firstOf_visit M cs hv.length hbase'
        (fun d hd => hvisit d (List.mem_cons_of_mem c hd)) horder.2
      refine hrest.congr (fun k => ⟨?_, ?_⟩) (List.prefix_refl base) fun _ _ => rfl
      · intro ⟨d, hd, hk⟩
        rcases List.mem_cons.mp hd with rfl | hd
        · exact absurd hk (hnone k)
        · exact ⟨d, hd, hk⟩
      · intro ⟨d, hd, hk⟩
        exact ⟨d, List.mem_cons_of_mem c hd, hk⟩

end visits

/-! ## What a visit looks for -/

/-- A node below `i` that has routes, finds slots enough, and fits what is left behind `u`. -/
structure Meets (t : Tree α) (text : Nat → List Char) (n : Nat) (u s : List Char) (i k : Nat) :
    Prop where
  lt : k < t.nodes.size
  routes : (t.node k).hasHandlers = true
  slots : marks (text k) ≤ n
  below : text i <+: text k
  fit : ∃ w, text k = u ++ w ∧ fits w s = true

/-- What a node takes from a path is taken from the texts below it too. -/
theorem meets_step {t : Tree α} {text : Nat → List Char} {i k n : Nat} {u s rest : List Char}
    (hu : text i = u ++ (t.node i).stem)
    (hfits : ∀ w, fits ((t.node i).stem ++ w) s = true ↔ fits w rest = true) :
    t.Meets text n u s i k ↔ t.Meets text n (text i) rest i k := by
  constructor
  · intro ⟨hlt, hroutes, hslots, ⟨w, hw⟩, v, hv, hfit⟩
    refine ⟨hlt, hroutes, hslots, ⟨w, hw⟩, w, hw.symm, (hfits w).mp ?_⟩
    rw [← hw, hu, List.append_assoc] at hv
    rwa [List.append_cancel_left hv]
  · intro ⟨hlt, hroutes, hslots, hbelow, w, hw, hfit⟩
    exact ⟨hlt, hroutes, hslots, hbelow, _, by rw [hw, hu, List.append_assoc], (hfits w).mpr hfit⟩

section search

variable {t : Tree α} {text : Nat → List Char} (L : t.Layout text)
include L

theorem Layout.label_of_kind {c : Nat} (hc : c < t.nodes.size) :
    ((t.node c).kind = .param → (t.node c).label = firstOctet [':']) ∧
      ((t.node c).kind = .any → (t.node c).label = firstOctet ['*']) := by
  have htakes := L.takes hc
  rw [L.label hc]
  refine ⟨fun h => ?_, fun h => ?_⟩
  · rw [h] at htakes
    rw [show (t.node c).stem = [':'] from htakes]
  · rw [h] at htakes
    rw [show (t.node c).stem = ['*'] from htakes]

theorem Layout.rank_child {i c : Nat} (hc : c ∈ (t.node i).children) (s : List Char) :
    rank ((t.node c).stem ++ s) = (t.node c).kind.rank := by
  have htakes := L.takes (L.child_lt hc)
  cases hkind : (t.node c).kind with
  | static =>
    rw [hkind] at htakes
    cases hs : (t.node c).stem with
    | nil => exact absurd hs (L.child_stem hc)
    | cons a w =>
      rw [hs] at htakes
      have ha := (literal_cons.mp htakes).1
      simp [rank, ha.1, ha.2, Kind.rank]
  | param =>
    rw [hkind] at htakes
    rw [show (t.node c).stem = [':'] from htakes]
    rfl
  | any =>
    rw [hkind] at htakes
    rw [show (t.node c).stem = ['*'] from htakes]
    rfl

theorem Layout.childOfKind?_eq {i c : Nat} {kind : Kind} (hkind : kind ≠ .static) :
    t.childOfKind? i kind = some c ↔ c ∈ (t.node i).children ∧ (t.node c).kind = kind := by
  constructor
  · intro h
    have hp := List.find?_some h
    exact ⟨List.mem_of_find?_eq_some h, beq_iff_eq.mp hp⟩
  · intro ⟨hc, hk⟩
    cases h : t.childOfKind? i kind with
    | none => exact absurd (beq_iff_eq.mpr hk) (List.find?_eq_none.mp h c hc)
    | some d =>
      have hd := List.mem_of_find?_eq_some h
      have hp := List.find?_some h
      have hdk := beq_iff_eq.mp hp
      have hc' := L.label_of_kind (L.child_lt hc)
      have hd' := L.label_of_kind (L.child_lt hd)
      refine congrArg some (L.child_eq_of_label hd hc ?_)
      cases kind with
      | static => exact absurd rfl hkind
      | param => rw [hd'.1 hdk, hc'.1 hk]
      | any => rw [hd'.2 hdk, hc'.2 hk]

theorem Layout.child?_eq {i c : Nat} {label : UInt8} :
    t.child? i label .static = some c ↔
      c ∈ (t.node i).children ∧ (t.node c).label = label ∧ (t.node c).kind = .static := by
  constructor
  · intro h
    have hp := List.find?_some h
    rw [Bool.and_eq_true, beq_iff_eq, beq_iff_eq] at hp
    exact ⟨List.mem_of_find?_eq_some h, hp⟩
  · intro ⟨hc, hl, hk⟩
    cases h : t.child? i label .static with
    | none => exact absurd (by simp [hl, hk]) (List.find?_eq_none.mp h c hc)
    | some d =>
      have hp := List.find?_some h
      rw [Bool.and_eq_true, beq_iff_eq] at hp
      exact congrArg some
        (L.child_eq_of_label (List.mem_of_find?_eq_some h) hc (hp.1.trans hl.symm))

/-- Where a path may go on: with its first octet, with a parameter if something is left, or with a
catch-all. -/
theorem Layout.mem_candidates {i c : Nat} {rest : List Char} :
    c ∈ t.candidates i rest ↔ c ∈ (t.node i).children ∧
      ((rest ≠ [] ∧ (t.node c).label = firstOctet rest ∧ (t.node c).kind = .static) ∨
        (rest ≠ [] ∧ (t.node c).kind = .param) ∨ (t.node c).kind = .any) := by
  have hparam := L.childOfKind?_eq (i := i) (c := c) (show Kind.param ≠ .static by decide)
  have hany := L.childOfKind?_eq (i := i) (c := c) (show Kind.any ≠ .static by decide)
  unfold candidates
  by_cases hrest : rest = []
  · simp [hrest, hany]
  · simp only [if_neg hrest, List.mem_append, Option.mem_toList, hparam, hany, L.child?_eq]
    simp only [ne_eq, hrest, not_false_eq_true, true_and]
    rw [← and_or_left, ← and_or_left, or_assoc]

theorem Layout.candidates_ranks (i : Nat) (rest : List Char) :
    (t.candidates i rest).Pairwise fun a b => (t.node a).kind.rank < (t.node b).kind.rank := by
  have hone : ∀ (o : Option Nat) (R : Nat → Nat → Prop), o.toList.Pairwise R := fun o R => by
    cases o <;> simp
  have hkind : ∀ {kind c}, t.childOfKind? i kind = some c → (t.node c).kind = kind := fun h => by
    have hp := List.find?_some h
    exact beq_iff_eq.mp hp
  unfold candidates
  refine List.pairwise_append.mpr ⟨?_, hone _ _, fun a ha b hb => ?_⟩
  · split
    · exact List.Pairwise.nil
    · refine List.pairwise_append.mpr ⟨hone _ _, hone _ _, fun a ha b hb => ?_⟩
      rw [(L.child?_eq.mp (Option.mem_toList.mp ha)).2.2, hkind (Option.mem_toList.mp hb)]
      decide
  · rw [hkind (Option.mem_toList.mp hb)]
    split at ha
    · cases ha
    · rcases List.mem_append.mp ha with ha | ha
      · rw [(L.child?_eq.mp (Option.mem_toList.mp ha)).2.2]
        decide
      · rw [hkind (Option.mem_toList.mp ha)]
        decide

/-- Below a node the search looks behind those children where the path may go on. -/
theorem Layout.meets_iff {i k n : Nat} (hi : i < t.nodes.size) {rest : List Char} :
    t.Meets text n (text i) rest i k ∧ k ≠ i ↔
      ∃ c ∈ t.candidates i rest, t.Meets text n (text i) rest c k := by
  constructor
  · intro ⟨hk, hne⟩
    rcases L.prefix_cases hi hk.lt hk.below with rfl | ⟨c, hc, hck⟩
    · exact absurd rfl hne
    refine ⟨c, L.mem_candidates.mpr ⟨hc, ?_⟩, hk.lt, hk.routes, hk.slots, hck, hk.fit⟩
    obtain ⟨w, hw, hfit⟩ := hk.fit
    obtain ⟨y, hy⟩ := hck
    rw [L.child_text hc, List.append_assoc, hw] at hy
    obtain rfl := List.append_cancel_left hy
    have htakes := L.takes (L.child_lt hc)
    cases hkind : (t.node c).kind with
    | static =>
      rw [hkind] at htakes
      rw [L.label (L.child_lt hc)]
      cases hs : (t.node c).stem with
      | nil => exact absurd hs (L.child_stem hc)
      | cons a x =>
        rw [hs] at htakes hfit
        obtain ⟨r, rfl, _⟩ := (fits_cons (literal_cons.mp htakes).1 _ _).mp hfit
        exact Or.inl ⟨List.cons_ne_nil _ _, rfl, rfl⟩
    | param =>
      rw [hkind] at htakes
      rw [show (t.node c).stem = [':'] from htakes] at hfit
      exact Or.inr (Or.inl ⟨((fits_colon _ _).mp hfit).1, rfl⟩)
    | any => exact Or.inr (Or.inr rfl)
  · intro ⟨c, hc, hk⟩
    have hc := (L.mem_candidates.mp hc).1
    refine ⟨⟨hk.lt, hk.routes, hk.slots, (L.child_prefix hc).trans hk.below, hk.fit⟩, ?_⟩
    rintro rfl
    have := hk.below.length_le
    have := L.child_length hc
    omega

theorem Layout.candidates_outranks {i n : Nat} {rest : List Char} :
    (t.candidates i rest).Pairwise fun a b => ∀ j k, t.Meets text n (text i) rest a j →
      t.Meets text n (text i) rest b k → outranks (text j) (text k) = true := by
  refine (L.candidates_ranks i rest).imp_of_mem fun {a b} ha hb hab j k hj hk => ?_
  have ha := (L.mem_candidates.mp ha).1
  have hb := (L.mem_candidates.mp hb).1
  obtain ⟨x, hx⟩ := hj.below
  obtain ⟨y, hy⟩ := hk.below
  rw [← hx, ← hy, L.child_text ha, L.child_text hb, List.append_assoc, List.append_assoc,
    outranks_append]
  refine outranks_of_rank ?_
  rwa [L.rank_child ha, L.rank_child hb]

/-- Behind the text of a node: the node itself if nothing is left and it has routes, or else its
children. -/
theorem Layout.visit_below {i n : Nat} (hi : i < t.nodes.size) {rest : List Char}
    {base slots : List String} (hlen : slots.length = n) (hbase : base <+: slots)
    (hmarks : marks (text i) ≤ n) {visit : Nat → List String → Option Nat × List String}
    (hvisit : ∀ c ∈ t.candidates i rest, ∀ slots : List String, slots.length = n → base <+: slots →
      Visit text n base (t.Meets text n (text i) rest c)
        (fun k => captures ((text k).drop (text i).length) rest) (visit c slots)) :
    Visit text n base (t.Meets text n (text i) rest i)
      (fun k => captures ((text k).drop (text i).length) rest)
      (if rest = [] ∧ (t.node i).hasHandlers then (some i, slots)
        else firstOf visit (t.candidates i rest) slots) := by
  by_cases h : rest = [] ∧ (t.node i).hasHandlers
  · rw [if_pos h]
    obtain ⟨rfl, hroutes⟩ := h
    have hself : t.Meets text n (text i) [] i i :=
      ⟨hi, hroutes, hmarks, List.prefix_refl _, [], (List.append_nil _).symm, rfl⟩
    refine Visit.some hlen hself ?_ fun k hk => ?_
    · rw [List.drop_length, captures, List.append_nil]
      exact hbase
    · obtain ⟨w, hw, hfit⟩ := hk.fit
      rcases fits_empty hfit with rfl | rfl
      · rw [List.append_nil] at hw
        exact Or.inl (L.text_inj hk.lt hi hw)
      · refine Or.inr ?_
        have := outranks_append (text i) [] ['*']
        rw [List.append_nil] at this
        rw [hw, this]
        rfl
  · rw [if_neg h]
    refine (firstOf_visit (t.Meets text n (text i) rest) _ hlen hbase hvisit
      L.candidates_outranks).congr (fun k => ?_) (List.prefix_refl _) fun _ _ => rfl
    rw [← L.meets_iff hi]
    refine ⟨fun hk => ⟨hk, ?_⟩, fun hk => hk.1⟩
    rintro rfl
    obtain ⟨w, hw, hfit⟩ := hk.fit
    obtain rfl : w = [] := List.append_right_eq_self.mp hw.symm
    exact h ⟨(fits_nil rest).mp hfit, hk.routes⟩

end search

theorem StarsLive.hasHandlers {t : Tree α} {text : Nat → List Char} (h : t.StarsLive text)
    (L : t.Layout text) {k : Nat} (hk : k < t.nodes.size) (hany : (t.node k).kind = .any) :
    (t.node k).hasHandlers = true := by
  rw [Node.hasHandlers_eq, ← L.payload_text hk]
  exact h k hk hany

theorem prefix_set {base slots : List String} (hbase : base <+: slots)
    (h : base.length < slots.length) (x : String) : base ++ [x] <+: slots.set base.length x := by
  obtain ⟨rest, rfl⟩ := hbase
  cases rest with
  | nil => simp at h
  | cons y rest => exact ⟨rest, by simp⟩

section visit

variable {t : Tree α} {text : Nat → List Char} (L : t.Layout text) {n i : Nat}
  (hi : i < t.nodes.size) {u s : List Char} (hu : text i = u ++ (t.node i).stem)
  {base slots : List String} (hlen : slots.length = n) (hbase : base <+: slots)
  (hnp : base.length = marks u)
include L hi hu hlen hbase hnp

theorem Layout.visit_any (hstars : t.StarsLive text) (hany : (t.node i).kind = .any) :
    Visit text n base (t.Meets text n u s i) (fun k => captures ((text k).drop u.length) s)
      (if base.length < slots.length then (some i, slots.set base.length (String.ofList s))
        else (none, slots)) := by
  have htakes := L.takes hi
  rw [hany] at htakes
  rw [show (t.node i).stem = ['*'] from htakes] at hu
  have hmarks : marks (text i) = base.length + 1 := by
    rw [hu, marks_append, hnp]
    rfl
  split
  · rename_i hlt
    have hself : t.Meets text n u s i i :=
      ⟨hi, hstars.hasHandlers L hi hany, by rw [hmarks, ← hlen]; exact hlt, List.prefix_refl _,
        ['*'], hu, fits_star s⟩
    refine Visit.some (by rw [List.length_set, hlen]) hself ?_ fun k hk => Or.inl ?_
    · rw [hu, List.drop_left]
      exact prefix_set hbase hlt _
    · rcases L.prefix_cases hi hk.lt hk.below with rfl | ⟨c, hc, _⟩
      · rfl
      · rw [L.any_children hany] at hc
        cases hc
  · rename_i hge
    refine Visit.none hlen hbase fun k hk => hge ?_
    obtain ⟨w, hw⟩ := hk.below
    have := hk.slots
    rw [← hw, marks_append, hmarks] at this
    omega

variable {next : List Char → Nat → List String → Option Nat × List String}
  (hnext : ∀ (rest : List Char) (base slots : List String), slots.length = n → base <+: slots →
    base.length = marks (text i) → Visit text n base (t.Meets text n (text i) rest i)
      (fun k => captures ((text k).drop (text i).length) rest) (next rest base.length slots))
include hnext

theorem Layout.visit_static (hstatic : (t.node i).kind = .static) :
    Visit text n base (t.Meets text n u s i) (fun k => captures ((text k).drop u.length) s)
      (match strip? (t.node i).stem s with
      | none => (none, slots)
      | some rest => next rest base.length slots) := by
  have hlit : Literal (t.node i).stem := by
    have htakes := L.takes hi
    rwa [hstatic] at htakes
  cases hs : strip? (t.node i).stem s with
  | none =>
    refine Visit.none hlen hbase fun k hk => ?_
    obtain ⟨w, hw, hfit⟩ := hk.fit
    obtain ⟨y, hy⟩ := hk.below
    rw [← hy, hu, List.append_assoc] at hw
    rw [← List.append_cancel_left hw, fits_append hlit, hs] at hfit
    obtain ⟨_, h, _⟩ := hfit
    cases h
  | some rest =>
    have hmarks : base.length = marks (text i) := by
      rw [hu, marks_append, marks_literal hlit, hnp, Nat.add_zero]
    have hfits : ∀ w, fits ((t.node i).stem ++ w) s = true ↔ fits w rest = true := fun w => by
      rw [fits_append hlit, hs]
      simp
    refine (hnext rest base slots hlen hbase hmarks).congr (fun k => meets_step hu hfits)
      (List.prefix_refl _) fun k hk => ?_
    obtain ⟨y, hy⟩ := hk.below
    rw [← hy, List.drop_left, hu, List.append_assoc, List.drop_left, strip?_eq_some.mp hs,
      captures_append hlit]

theorem Layout.visit_param (hparam : (t.node i).kind = .param) (hs : s ≠ []) :
    Visit text n base (t.Meets text n u s i) (fun k => captures ((text k).drop u.length) s)
      (if base.length < slots.length then
        next (s.dropWhile (· != '/')) (base.length + 1)
          (slots.set base.length (String.ofList (s.takeWhile (· != '/'))))
      else (none, slots)) := by
  have hstem : (t.node i).stem = [':'] := by
    have htakes := L.takes hi
    rwa [hparam] at htakes
  have hmarks : marks (text i) = base.length + 1 := by
    rw [hu, hstem, marks_append, hnp]
    rfl
  split
  · rename_i hlt
    let x := String.ofList (s.takeWhile (· != '/'))
    have hfits : ∀ w, fits ((t.node i).stem ++ w) s = true ↔
        fits w (s.dropWhile (· != '/')) = true := fun w => by
      rw [hstem]
      exact (fits_colon w s).trans (and_iff_right hs)
    have h := hnext (s.dropWhile (· != '/')) (base ++ [x]) (slots.set base.length x)
      (by rw [List.length_set, hlen]) (prefix_set hbase hlt x) (by rw [hmarks, List.length_append]; rfl)
    rw [List.length_append, List.length_singleton] at h
    refine h.congr (fun k => meets_step hu hfits) (List.prefix_append _ _) fun k hk => ?_
    obtain ⟨y, hy⟩ := hk.below
    rw [← hy, List.drop_left, hu, hstem, List.append_assoc, List.drop_left, List.append_assoc]
    rfl
  · rename_i hge
    refine Visit.none hlen hbase fun k hk => hge ?_
    obtain ⟨w, hw⟩ := hk.below
    have := hk.slots
    rw [← hw, marks_append, hmarks] at this
    omega

end visit

theorem Layout.search_visit {t : Tree α} {text : Nat → List Char} (L : t.Layout text)
    (hstars : t.StarsLive text) {n : Nat} : ∀ (fuel i : Nat) (base : List String)
    {u s : List Char} {slots : List String}, i < t.nodes.size → (t.below text i).length ≤ fuel →
    text i = u ++ (t.node i).stem → slots.length = n → base <+: slots → base.length = marks u →
    ((t.node i).kind = .param → s ≠ []) →
    Visit text n base (t.Meets text n u s i) (fun k => captures ((text k).drop u.length) s)
      (t.search fuel i s base.length slots)
  | 0, i, _, _, _, _, hi, hfuel, _, _, _, _, _ => by
    have h := List.length_pos_of_mem (mem_below.mpr ⟨hi, List.prefix_refl (text i)⟩)
    omega
  | fuel + 1, i, base, u, s, slots, hi, hfuel, hu, hlen, hbase, hnp, hs => by
    let next (rest : List Char) (np : Nat) (slots : List String) :=
      if rest = [] ∧ (t.node i).hasHandlers then (some i, slots)
      else firstOf (fun c slots => t.search fuel c rest np slots) (t.candidates i rest) slots
    have hnext : ∀ (rest : List Char) (base slots : List String), slots.length = n →
        base <+: slots → base.length = marks (text i) →
        Visit text n base (t.Meets text n (text i) rest i)
          (fun k => captures ((text k).drop (text i).length) rest) (next rest base.length slots) := by
      -- every child has fewer nodes below it than `i`, so the fuel that is left is enough
      intro rest base slots hlen hbase hnp
      have hmarks : marks (text i) ≤ n := by
        rw [← hnp, ← hlen]
        exact hbase.length_le
      refine L.visit_below hi hlen hbase hmarks fun c hc slots hlen hbase => ?_
      have hcand := L.mem_candidates.mp hc
      refine L.search_visit hstars fuel c base (L.child_lt hcand.1) ?_ (L.child_text hcand.1) hlen hbase
        hnp fun hparam => ?_
      · have := L.length_below_lt hcand.1
        omega
      · rcases hcand.2 with h | h | h
        · exact h.1
        · exact h.1
        · rw [hparam] at h
          cases h
    cases hkind : (t.node i).kind with
    | static =>
      have h := L.visit_static (s := s) hi hu hlen hbase hnp hnext hkind
      rw [search, if_neg (by simp [hkind])]
      simp only [consume, hkind]
      cases hstrip : strip? (t.node i).stem s with
      | none => rwa [hstrip] at h
      | some rest => rwa [hstrip] at h
    | param =>
      have h := L.visit_param hi hu hlen hbase hnp hnext hkind (hs hkind)
      rw [search, if_neg (by simp [hkind])]
      simp only [consume, hkind]
      by_cases hlt : base.length < slots.length
      · rw [if_pos hlt] at h ⊢
        exact h
      · rw [if_neg hlt] at h ⊢
        exact h
    | any =>
      have h := L.visit_any (s := s) hi hu hlen hbase hnp hstars hkind
      rwa [search, if_pos hkind]

end Switchboard.Route.Tree
