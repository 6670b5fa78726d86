import Switchboard.Proofs.Route.Registration

/-!
# Listing

The listing walks over every node of the tree once, whatever splits have done to the numbers of the
nodes, so it tells exactly what is registered at each text.
-/

namespace Switchboard.Route

def Payload.lines {α : Type} (p : Payload α) : List (Method × String) :=
  (Method.all.filter fun m => (p.handlers m).isSome).map fun m => (m, p.leaf.template)

theorem Payload.mem_lines {α : Type} {p : Payload α} {m : Method} {pattern : String} :
    (m, pattern) ∈ p.lines ↔ (p.handlers m).isSome = true ∧ pattern = p.leaf.template := by
  rw [lines, List.mem_map]
  constructor
  · intro ⟨k, hk, e⟩
    cases e
    exact ⟨(List.mem_filter.mp hk).2, rfl⟩
  · rintro ⟨hm, rfl⟩
    exact ⟨m, List.mem_filter.mpr ⟨m.mem_all, hm⟩, rfl⟩

namespace Tree

variable {α : Type}

def walk (t : Tree α) : Nat → List Nat → List Nat
  | 0, _ => []
  | _, [] => []
  | fuel + 1, i :: stack => i :: t.walk fuel ((t.node i).children ++ stack)

theorem listFrom_eq (t : Tree α) : ∀ (fuel : Nat) (stack : List Nat),
    t.listFrom fuel stack = (t.walk fuel stack).flatMap fun i => (t.node i).payload.lines
  | 0, _ => rfl
  | _ + 1, [] => rfl
  | fuel + 1, i :: stack => by
    rw [listFrom, walk, List.flatMap_cons, listFrom_eq t fuel]
    rfl

section walk

variable {t : Tree α} {text : Nat → List Char} (L : t.Layout text)
include L

/-- A walk with fuel for all that stands below its stack meets all of it, each node once. -/
theorem Layout.walk_perm : ∀ (fuel : Nat) (stack : List Nat), (∀ i ∈ stack, i < t.nodes.size) →
    (stack.flatMap (t.below text)).length ≤ fuel →
    (t.walk fuel stack).Perm (stack.flatMap (t.below text))
  | 0, stack, _, hfuel => by
    rw [List.length_eq_zero_iff.mp (Nat.le_zero.mp hfuel)]
    exact List.Perm.refl _
  | _ + 1, [], _, _ => List.Perm.refl _
  | fuel + 1, i :: stack, hstack, hfuel => by
    -- the node gives way to its children, below which there is one node less
    have hi := hstack i List.mem_cons_self
    have hbelow := L.below_perm hi
    have hlen := hbelow.length_eq
    rw [List.length_cons] at hlen
    rw [List.flatMap_cons, List.length_append] at hfuel
    have hrest := walk_perm fuel ((t.node i).children ++ stack)
      (fun k hk => (List.mem_append.mp hk).elim L.child_lt fun hk =>
        hstack k (List.mem_cons_of_mem i hk))
      (by rw [List.flatMap_append, List.length_append]; omega)
    rw [List.flatMap_append] at hrest
    rw [walk, List.flatMap_cons]
    exact (hrest.cons i).trans (hbelow.symm.append_right _)

theorem Layout.routes_perm :
    t.routes.Perm ((List.range t.nodes.size).flatMap fun i => (t.node i).payload.lines) := by
  have hroot : [root].flatMap (t.below text) = List.range t.nodes.size := by
    rw [List.flatMap_singleton, L.below_root]
  have h := L.walk_perm t.nodes.size [root]
    (fun i hi => by rw [List.mem_singleton.mp hi]; exact L.root_lt)
    (Nat.le_of_eq (by rw [hroot, List.length_range]))
  rw [hroot] at h
  rw [routes, listFrom_eq]
  exact h.flatMap_right _

end walk

/-- The listing has, for each text and each method that it has a handler for, the pattern that stands
there. -/
theorem Holds.mem_routes {t : Tree α} {text : Nat → List Char} {p : List Char → Payload α}
    (H : t.Holds text p) {m : Method} {pattern : String} :
    (m, pattern) ∈ t.routes ↔
      ∃ s, ((p s).handlers m).isSome = true ∧ pattern = (p s).leaf.template := by
  rw [H.layout.routes_perm.mem_iff, List.mem_flatMap]
  constructor
  · intro ⟨i, hi, h⟩
    rw [H.payload_node (List.mem_range.mp hi)] at h
    exact ⟨text i, Payload.mem_lines.mp h⟩
  · intro ⟨s, h⟩
    obtain ⟨i, hi, rfl⟩ := H.exists_node (Payload.live_iff.mpr ⟨m, h.1⟩)
    refine ⟨i, List.mem_range.mpr hi, ?_⟩
    rw [H.payload_node hi]
    exact Payload.mem_lines.mpr h

end Tree

end Switchboard.Route
