import Switchboard.Proofs.Route.Listing

/-!
# Traversal

The listing takes nodes off a stack until nothing is left on it. Told so, without a bound on its length,
it ends on every tree that has a layout, with what `routes` gives. A node without routes adds nothing to
it, wherever it stands.
-/

namespace Switchboard.Route

namespace Tree

variable {α : Type}

inductive Listed (t : Tree α) : List Nat → List (Method × String) → Prop
  | done : Listed t [] []
  | visit {i : Nat} {stack : List Nat} {out : List (Method × String)} :
    Listed t ((t.node i).children ++ stack) out →
    Listed t (i :: stack) ((t.node i).payload.lines ++ out)

theorem Listed.unique {t : Tree α} {stack : List Nat} {out out' : List (Method × String)}
    (h : t.Listed stack out) (h' : t.Listed stack out') : out' = out := by
  induction h generalizing out' with
  | done =>
    cases h'
    rfl
  | visit _ ih =>
    cases h' with
    | visit h' => rw [ih h']

section layout

variable {t : Tree α} {text : Nat → List Char} (L : t.Layout text)
include L

/-- With fuel for all that stands below the stack, the listing takes everything off it. -/
theorem Layout.listed : ∀ (fuel : Nat) (stack : List Nat), (∀ i ∈ stack, i < t.nodes.size) →
    (stack.flatMap (t.below text)).length ≤ fuel → t.Listed stack (t.listFrom fuel stack)
  | fuel, [], _, _ => by
    cases fuel <;> exact .done
  | 0, i :: stack, hstack, hfuel => by
    have hi := List.length_pos_of_mem
      (mem_below.mpr ⟨hstack i List.mem_cons_self, List.prefix_refl (text i)⟩)
    rw [List.flatMap_cons, List.length_append] at hfuel
    omega
  | fuel + 1, i :: stack, hstack, hfuel => by
    -- the node gives way to its children, below which there is one node less
    have hlen := (L.below_perm (hstack i List.mem_cons_self)).length_eq
    rw [List.length_cons] at hlen
    rw [List.flatMap_cons, List.length_append] at hfuel
    refine .visit (Layout.listed fuel ((t.node i).children ++ stack) (fun k hk => ?_) ?_)
    · exact (List.mem_append.mp hk).elim L.child_lt fun hk => hstack k (List.mem_cons_of_mem i hk)
    · rw [List.flatMap_append, List.length_append]
      omega

/-- The listing ends by itself: its bound on the number of nodes is never met. -/
theorem Layout.listed_routes : t.Listed [root] t.routes := by
  refine L.listed t.nodes.size [root] (fun i hi => ?_) ?_
  · rw [List.mem_singleton.mp hi]
    exact L.root_lt
  · exact Nat.le_of_eq (by rw [List.flatMap_singleton, L.below_root, List.length_range])

end layout

/-! ## Nodes without routes -/

theorem Listed.congr {t t' : Tree α} {stack : List Nat} {out : List (Method × String)}
    (hchildren : ∀ k, (t'.node k).children = (t.node k).children)
    (hpayload : ∀ k, (t'.node k).payload = (t.node k).payload) (h : t.Listed stack out) :
    t'.Listed stack out := by
  induction h with
  | done => exact .done
  | @visit i stack out _ ih =>
    rw [← hchildren i] at ih
    rw [← hpayload i]
    exact .visit ih

/-- A node that has no routes and no children can stand anywhere in the stack. -/
theorem Listed.silent {t : Tree α} {j : Nat} (hchildren : (t.node j).children = [])
    (hlines : (t.node j).payload.lines = []) {before after : List Nat}
    {out : List (Method × String)} (h : t.Listed (before ++ after) out) :
    t.Listed (before ++ j :: after) out := by
  generalize hstack : before ++ after = stack at h
  induction h generalizing before with
  | done =>
    obtain ⟨rfl, rfl⟩ := List.append_eq_nil_iff.mp hstack
    have hj : t.Listed ((t.node j).children ++ []) [] := by
      rw [hchildren]
      exact .done
    have := Listed.visit hj
    rwa [hlines] at this
  | @visit i stack out h ih =>
    cases before with
    | nil =>
      subst hstack
      have hj : t.Listed ((t.node j).children ++ i :: stack) ((t.node i).payload.lines ++ out) := by
        rw [hchildren]
        exact .visit h
      have := Listed.visit hj
      rwa [hlines] at this
    | cons k before =>
      cases hstack
      have h' : t.Listed (((t.node i).children ++ before) ++ j :: after) _ :=
        ih (List.append_assoc _ _ _)
      rw [List.append_assoc] at h'
      exact .visit h'

theorem insertChild_eq (t : Tree α) (kind : Kind) (j : Nat) (l : List Nat) :
    ∃ before after, l = before ++ after ∧ t.insertChild kind j l = before ++ j :: after := by
  induction l with
  | nil => exact ⟨[], [], rfl, rfl⟩
  | cons b l ih =>
    rw [insertChild]
    split
    · exact ⟨[], b :: l, rfl, rfl⟩
    · obtain ⟨before, after, rfl, h⟩ := ih
      exact ⟨b :: before, after, rfl, by rw [h]; rfl⟩

section steps

variable {t : Tree α} {text : Nat → List Char} (L : t.Layout text) {i : Nat}
  (hi : i < t.nodes.size)
include L hi

/-- What is cut off a node stands in its place, with all that it had. -/
theorem Listed.split (keep rest : List Char) {stack : List Nat} {out : List (Method × String)}
    (h : t.Listed stack out) (hstack : ∀ k ∈ stack, k < t.nodes.size) :
    (t.split i keep rest).Listed stack out := by
  have hkids : ∀ c ∈ (t.node i).children, c < t.nodes.size ∧ c ≠ i := fun c hc =>
    ⟨L.child_lt hc, L.child_ne hc⟩
  induction h with
  | done => exact .done
  | @visit k stack out _ ih =>
    obtain ⟨hk, hstack⟩ := List.forall_mem_cons.mp hstack
    have ih := ih (List.forall_mem_append.mpr ⟨fun c hc => L.child_lt hc, hstack⟩)
    by_cases hki : k = i
    · subst hki
      have hself := node_split_self keep rest hk hkids
      have hlast := node_split_last keep rest hk hkids
      have htail : (t.split k keep rest).Listed (t.nodes.size :: stack)
          ((t.node k).payload.lines ++ out) := by
        have h := Listed.visit (i := t.nodes.size) (by rw [hlast]; exact ih)
        rwa [hlast] at h
      have h := Listed.visit (i := k) (by rw [hself]; exact htail)
      rwa [hself] at h
    · have hold := node_split_of_ne keep rest hi hkids hk hki
      have h := Listed.visit (i := k) (by rw [hold]; exact ih)
      rwa [hold] at h

theorem Listed.newLeaf (kind : Kind) (stem : List Char) (m : Method) {stack : List Nat}
    {out : List (Method × String)} (h : t.Listed stack out)
    (hstack : ∀ k ∈ stack, k < t.nodes.size) :
    (t.newLeaf i kind stem m none none).Listed stack out := by
  have hnode := node_newLeaf t i kind stem m none none hi
  have hnew := node_newLeaf_self t i kind stem m none none hi
  induction h with
  | done => exact .done
  | @visit k stack out _ ih =>
    obtain ⟨hk, hstack⟩ := List.forall_mem_cons.mp hstack
    have ih := ih (List.forall_mem_append.mpr ⟨fun c hc => L.child_lt hc, hstack⟩)
    have hpayload : ((t.newLeaf i kind stem m none none).node k).payload = (t.node k).payload := by
      rw [node_newLeaf_of_lt t i kind stem m none none hi hk]
      rfl
    rw [← hpayload]
    refine .visit ?_
    rw [hnode, if_neg (Nat.ne_of_lt hk)]
    by_cases hki : k = i
    · subst hki
      rw [if_pos rfl]
      obtain ⟨before, after, hold, hmore⟩ :=
        insertChild_eq (t.push (leafNode k kind stem m none none)) kind t.nodes.size (t.node k).children
      rw [hold, List.append_assoc] at ih
      rw [hmore, List.append_assoc]
      refine Listed.silent ?_ ?_ ih
      · rw [hnew]
        rfl
      · rw [hnew]
        rfl
    · rwa [if_neg hki]

end steps

end Tree

end Switchboard.Route
