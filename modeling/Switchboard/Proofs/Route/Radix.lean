import Switchboard.Proofs.Route.Inventory
import Switchboard.Proofs.Route.Refusal

/-!
# The radix tree

What holds of the table of nodes itself after any run of registrations, some of which may have been
refused: it is one tree below the root, its children are in order and told apart by their first octets,
and the texts on the way to a route spell the shape of its pattern. A split gives new positions to old
children, so that a search ends cannot be read off the positions; it ends because every node has fewer
nodes below it than its parent.
-/

namespace Switchboard.Route

namespace Tree

variable {α : Type}

/-! ## A search without a bound -/

/-- What is to be done in a search: to match a text from a node on, or from the first candidate on that
leads somewhere. -/
inductive Quest where
  | visit (i : Nat) (s : List Char) (np : Nat)
  | choose (cs : List Nat) (s : List Char) (np : Nat)

/-- A search that ends, and what it ends with, told without a bound on its depth. -/
inductive Ends (t : Tree α) : Quest → List String → Option Nat × List String → Prop
  | catchAll {i np : Nat} {s : List Char} {slots : List String} : (t.node i).kind = .any →
      np < slots.length → Ends t (.visit i s np) slots (some i, slots.set np (String.ofList s))
  | full {i np : Nat} {s : List Char} {slots : List String} : (t.node i).kind = .any →
      slots.length ≤ np → Ends t (.visit i s np) slots (none, slots)
  | astray {i np : Nat} {s : List Char} {slots : List String} : (t.node i).kind ≠ .any →
      consume (t.node i) s np slots = none → Ends t (.visit i s np) slots (none, slots)
  | here {i np np' : Nat} {s : List Char} {slots slots' : List String} : (t.node i).kind ≠ .any →
      consume (t.node i) s np slots = some ([], np', slots') → (t.node i).hasHandlers = true →
      Ends t (.visit i s np) slots (some i, slots')
  | deeper {i np np' : Nat} {s rest : List Char} {slots slots' : List String}
      {r : Option Nat × List String} : (t.node i).kind ≠ .any →
      consume (t.node i) s np slots = some (rest, np', slots') →
      ¬ (rest = [] ∧ (t.node i).hasHandlers = true) →
      Ends t (.choose (t.candidates i rest) rest np') slots' r → Ends t (.visit i s np) slots r
  | exhausted {np : Nat} {s : List Char} {slots : List String} :
      Ends t (.choose [] s np) slots (none, slots)
  | found {c j np : Nat} {cs : List Nat} {s : List Char} {slots slots' : List String} :
      Ends t (.visit c s np) slots (some j, slots') →
      Ends t (.choose (c :: cs) s np) slots (some j, slots')
  | next {c np : Nat} {cs : List Nat} {s : List Char} {slots slots' : List String}
      {r : Option Nat × List String} : Ends t (.visit c s np) slots (none, slots') →
      Ends t (.choose cs s np) slots' r → Ends t (.choose (c :: cs) s np) slots r

theorem Ends.unique {t : Tree α} {q : Quest} {slots : List String} {r r' : Option Nat × List String}
    (h : t.Ends q slots r) (h' : t.Ends q slots r') : r' = r := by
  induction h generalizing r' with
  | catchAll hany hroom =>
    cases h' with
    | catchAll => rfl
    | full _ hfull => omega
    | astray hne | here hne | deeper hne => exact absurd hany hne
  | full hany hfull =>
    cases h' with
    | catchAll _ hroom => omega
    | full => rfl
    | astray hne | here hne | deeper hne => exact absurd hany hne
  | astray hne hnone =>
    cases h' with
    | catchAll hany | full hany => exact absurd hany hne
    | astray => rfl
    | here _ hsome | deeper _ hsome =>
      rw [hnone] at hsome
      cases hsome
  | here hne hsome hroutes =>
    cases h' with
    | catchAll hany | full hany => exact absurd hany hne
    | astray _ hnone =>
      rw [hnone] at hsome
      cases hsome
    | here _ hsome' =>
      rw [hsome] at hsome'
      cases hsome'
      rfl
    | deeper _ hsome' hnot =>
      rw [hsome] at hsome'
      cases hsome'
      exact absurd ⟨rfl, hroutes⟩ hnot
  | deeper hne hsome hnot _ ih =>
    cases h' with
    | catchAll hany | full hany => exact absurd hany hne
    | astray _ hnone =>
      rw [hnone] at hsome
      cases hsome
    | here _ hsome' hroutes =>
      rw [hsome] at hsome'
      cases hsome'
      exact absurd ⟨rfl, hroutes⟩ hnot
    | deeper _ hsome' _ h' =>
      rw [hsome] at hsome'
      cases hsome'
      exact ih h'
  | exhausted =>
    cases h'
    rfl
  | found _ ih =>
    cases h' with
    | found h' => exact ih h'
    | next h' _ => cases ih h'
  | next _ _ ihvisit ihrest =>
    cases h' with
    | found h' => cases ihvisit h'
    | next hvisit hrest =>
      cases ihvisit hvisit
      exact ihrest hrest

/-- Candidates are tried as `firstOf` tries them, as long as each visit ends. -/
theorem ends_firstOf {t : Tree α} {visit : Nat → List String → Option Nat × List String}
    {s : List Char} {np : Nat} {cs : List Nat} {slots : List String}
    (hvisit : ∀ c ∈ cs, ∀ slots, t.Ends (.visit c s np) slots (visit c slots)) :
    t.Ends (.choose cs s np) slots (firstOf visit cs slots) := by
  induction cs generalizing slots with
  | nil => exact .exhausted
  | cons c cs ih =>
    obtain ⟨hc, hcs⟩ := List.forall_mem_cons.mp hvisit
    have hends := hc slots
    rw [firstOf]
    rcases hvisited : visit c slots with ⟨_ | j, slots'⟩ <;> rw [hvisited] at hends
    · exact .next hends (ih hcs)
    · exact .found hends

section layout

variable {t : Tree α} {text : Nat → List Char} (L : t.Layout text)
include L

/-- With fuel for all that stands below a node, a search from there is never cut off. -/
theorem Layout.ends_search {fuel i : Nat} (hi : i < t.nodes.size)
    (hfuel : (t.below text i).length ≤ fuel) (s : List Char) (np : Nat) (slots : List String) :
    t.Ends (.visit i s np) slots (t.search fuel i s np slots) := by
  induction fuel generalizing i s np slots with
  | zero =>
    have h := List.length_pos_of_mem (mem_below.mpr ⟨hi, List.prefix_refl (text i)⟩)
    omega
  | succ fuel ih =>
    rw [search]
    by_cases hany : (t.node i).kind = .any
    · rw [if_pos hany]
      split
      · rename_i hroom
        exact .catchAll hany hroom
      · rename_i hfull
        exact .full hany (Nat.le_of_not_lt hfull)
    · rw [if_neg hany]
      rcases hconsume : consume (t.node i) s np slots with _ | ⟨rest, np', slots'⟩
      · exact .astray hany hconsume
      · by_cases hhere : rest = [] ∧ (t.node i).hasHandlers = true
        · obtain ⟨rfl, hroutes⟩ := hhere
          simp only [hroutes, and_self, if_true]
          exact .here hany hconsume hroutes
        · simp only [if_neg hhere]
          refine .deeper hany hconsume hhere (ends_firstOf fun c hc slots => ?_)
          -- a candidate is a child, and has fewer nodes below it
          have hchild := (L.mem_candidates.mp hc).1
          have hlt := L.length_below_lt hchild
          exact ih (L.child_lt hchild) (by omega) rest np' slots

theorem Layout.ends_iff {i : Nat} (hi : i < t.nodes.size) (s : List Char) (np : Nat)
    (slots : List String) (r : Option Nat × List String) :
    t.Ends (.visit i s np) slots r ↔ r = t.search t.nodes.size i s np slots := by
  have hfuel : (t.below text i).length ≤ t.nodes.size := by
    rw [← List.length_range (n := t.nodes.size)]
    exact List.length_filter_le _ _
  have hends := L.ends_search hi hfuel s np slots
  exact ⟨fun h => hends.unique h, fun e => e ▸ hends⟩

end layout

/-! ## The shape of the tree -/

/-- The nodes from the root down to a node, each one a child of the one before it. -/
inductive Way (t : Tree α) : List Nat → Nat → Prop
  | root : Way t [root] root
  | child {way : List Nat} {i c : Nat} : Way t way i → c ∈ (t.node i).children → Way t (way ++ [c]) c

structure Radix (t : Tree α) : Prop where
  root_parent : (t.node root).parent = none
  root_not_child : ∀ k, root ∉ (t.node k).children
  child_lt : ∀ k, ∀ c ∈ (t.node k).children, c < t.nodes.size
  /-- Every other node stands once among the children of its parent, and nowhere else. -/
  parent : ∀ c < t.nodes.size, c ≠ root → ∃ i < t.nodes.size, (t.node c).parent = some i ∧
    ∀ k, (t.node k).children.count c = if k = i then 1 else 0
  reached : ∀ i < t.nodes.size, ∃ way, t.Way way i
  ordered : ∀ i, (t.node i).children.Pairwise fun a b => (t.node a).kind.rank ≤ (t.node b).kind.rank
  labels : ∀ i, (t.node i).children.Pairwise fun a b => (t.node a).label ≠ (t.node b).label
  /-- One parameter and one catch-all at most. -/
  marked_unique : ∀ i, ∀ a ∈ (t.node i).children, ∀ b ∈ (t.node i).children,
    (t.node a).kind = (t.node b).kind → (t.node a).kind ≠ .static → a = b
  /-- Only the tree into which nothing has been put has a node without a text. -/
  label : t.nodes = (empty : Tree α).nodes ∨
    ∀ i < t.nodes.size, (t.node i).stem ≠ [] ∧ (t.node i).label = firstOctet (t.node i).stem
  static_stem : ∀ i < t.nodes.size, (t.node i).kind = .static →
    ':' ∉ (t.node i).stem ∧ '*' ∉ (t.node i).stem
  param_stem : ∀ i < t.nodes.size, (t.node i).kind = .param → (t.node i).stem = [':']
  any_stem : ∀ i < t.nodes.size, (t.node i).kind = .any → (t.node i).stem = ['*']
  any_children : ∀ i, (t.node i).kind = .any → (t.node i).children = []
  /-- The texts on the way to a route spell its shape, and there are as many names as marks on it. -/
  routes : ∀ way i, t.Way way i → (t.node i).hasHandlers = true →
    (way.flatMap fun k => (t.node k).stem) = shape (t.node i).leaf.template.toList ∧
    (t.node i).leaf.names.length = way.countP fun k => (t.node k).kind ≠ .static

theorem marks_of_takes {kind : Kind} {s : List Char} (h : kind.Takes s) :
    marks s = if kind = .static then 0 else 1 := by
  cases kind with
  | static => exact marks_literal h
  | param => rw [show s = [':'] from h]; rfl
  | any => rw [show s = ['*'] from h]; rfl

section layout

variable {t : Tree α} {text : Nat → List Char} (L : t.Layout text)
include L

theorem Layout.takes_of_kind {i : Nat} (hi : i < t.nodes.size) {kind : Kind}
    (hkind : (t.node i).kind = kind) : kind.Takes (t.node i).stem := hkind ▸ L.takes hi

theorem Layout.exists_way : ∀ i < t.nodes.size, ∃ way, t.Way way i :=
  L.descend ⟨[root], .root⟩ fun _ c hc _ ⟨way, hway⟩ => ⟨way ++ [c], hway.child hc⟩

theorem Layout.way_text {way : List Nat} {i : Nat} (h : t.Way way i) :
    i < t.nodes.size ∧ (way.flatMap fun k => (t.node k).stem) = text i ∧
      marks (text i) = way.countP fun k => (t.node k).kind ≠ .static := by
  have hone : ∀ k < t.nodes.size,
      marks (t.node k).stem = [k].countP fun k => (t.node k).kind ≠ .static := fun k hk => by
    rw [marks_of_takes (L.takes hk), List.countP_singleton]
    by_cases hstatic : (t.node k).kind = .static <;> simp [hstatic]
  induction h with
  | root =>
    refine ⟨L.root_lt, ?_, ?_⟩
    · rw [List.flatMap_singleton, L.root_text]
    · rw [L.root_text, hone _ L.root_lt]
  | child _ hc ih =>
    obtain ⟨_, htext, hmarks⟩ := ih
    refine ⟨L.child_lt hc, ?_, ?_⟩
    · rw [List.flatMap_append, htext, List.flatMap_singleton, L.child_text hc]
    · rw [L.child_text hc, marks_append, hmarks, hone _ (L.child_lt hc), List.countP_append]

theorem Layout.count_children {i c : Nat} (hc : c ∈ (t.node i).children) (k : Nat) :
    (t.node k).children.count c = if k = i then 1 else 0 := by
  split
  · rename_i hk
    rw [hk]
    exact List.count_eq_one_of_mem (L.nodup_children i) hc
  · rename_i hk
    exact List.count_eq_zero.mpr fun hmem => hk (L.child_unique hmem hc)

theorem Layout.marked_unique {i a b : Nat} (ha : a ∈ (t.node i).children)
    (hb : b ∈ (t.node i).children) (hkind : (t.node a).kind = (t.node b).kind)
    (hmarked : (t.node a).kind ≠ .static) : a = b := by
  have ha' := (L.childOfKind?_eq hmarked).mpr ⟨ha, rfl⟩
  rw [(L.childOfKind?_eq hmarked).mpr ⟨hb, hkind.symm⟩] at ha'
  exact (Option.some.inj ha').symm

theorem Layout.labelled : t.nodes = (empty : Tree α).nodes ∨
    ∀ i < t.nodes.size, (t.node i).stem ≠ [] ∧ (t.node i).label = firstOctet (t.node i).stem := by
  by_cases hroot : (t.node root).stem = []
  · obtain ⟨hsize, hnode⟩ := L.fresh hroot
    refine Or.inl (Array.ext hsize fun i hi hi' => ?_)
    obtain rfl : i = root := Nat.lt_one_iff.mp (hsize ▸ hi)
    rw [node, Array.getElem?_eq_getElem hi, Option.getD_some] at hnode
    exact hnode
  · refine Or.inr fun i hi => ⟨?_, L.label hi⟩
    by_cases hr : i = root
    · rwa [hr]
    · obtain ⟨k, _, hk⟩ := L.has_parent hi hr
      exact L.child_stem hk

end layout

/-- A table that holds the routes of some registrations is a radix tree. -/
theorem Holds.radix {t : Tree α} {text : Nat → List Char} {rs : List (Registration α)}
    (H : t.Holds text (registered rs)) : t.Radix where
  root_parent := H.layout.root_parent
  root_not_child := fun _ => H.layout.root_not_child
  child_lt := fun _ _ => H.layout.child_lt
  parent := fun c hc hr => by
    obtain ⟨i, hi, hmem⟩ := H.layout.has_parent hc hr
    exact ⟨i, hi, H.layout.child_parent hmem, H.layout.count_children hmem⟩
  reached := H.layout.exists_way
  ordered := fun _ => H.layout.ranks
  labels := fun _ => H.layout.labels
  marked_unique := fun _ _ ha _ hb => H.layout.marked_unique ha hb
  label := H.layout.labelled
  static_stem := fun _ hi hkind => H.layout.takes_of_kind hi hkind
  param_stem := fun _ hi hkind => H.layout.takes_of_kind hi hkind
  any_stem := fun _ hi hkind => H.layout.takes_of_kind hi hkind
  any_children := fun _ => H.layout.any_children
  routes := fun way i hway hroutes => by
    obtain ⟨hi, htext, hmarks⟩ := H.layout.way_text hway
    have hrouted : Routed rs (text i) := by
      rw [← registered_live, ← H.hasHandlers hi, hroutes]
    have hleaf : (t.node i).leaf = (registered rs (text i)).leaf :=
      congrArg Payload.leaf (H.payload_node hi)
    obtain ⟨l, hl⟩ := exists_lastRoute hrouted
    refine ⟨?_, ?_⟩
    · rw [htext, hleaf, registered_template hl, shape_template, (lastRoute_shape hl).2]
    · rw [hleaf, length_registered_names hrouted, hmarks]

end Tree

/-- However often routes are registered, and whichever of the registrations are refused on the way, the
nodes are a radix tree. So every search ends, from whatever node, and so does the listing, each with what
the bounded one gives. -/
theorem tryAll_radix {α : Type} (rs : List (Registration α)) :
    let t := Tree.empty.tryAll rs
    t.Radix ∧
      (∀ i < t.nodes.size, ∀ (s : List Char) (np : Nat) (slots : List String)
        (r : Option Nat × List String),
        t.Ends (.visit i s np) slots r ↔ r = t.search t.nodes.size i s np slots) ∧
      ∀ out, t.Listed [Tree.root] out ↔ out = t.routes := by
  have hempty : (Tree.empty : Tree α).Holds (fun _ => []) (registered []) := Tree.empty_holds
  obtain ⟨text, H⟩ := Tree.tryAll_holds rs hempty
  have hlisted := H.layout.listed_routes
  exact ⟨H.radix, fun i hi => H.layout.ends_iff hi, fun out =>
    ⟨fun h => hlisted.unique h, fun e => e ▸ hlisted⟩⟩

end Switchboard.Route
