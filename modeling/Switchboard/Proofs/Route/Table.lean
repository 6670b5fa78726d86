import Mathlib.Data.List.Basic
import Mathlib.Data.List.Perm.Basic
import Switchboard.Route.Register

/-!
# The node table

What each step on the table leaves at each position. Later proofs read nodes through these equations
and open none of the steps.
-/

namespace Switchboard.Route

namespace Node

variable {α : Type}

@[simp] theorem offer_kind (n : Node α) (m : Method) (h : Option α) : (n.offer m h).kind = n.kind := by
  cases h <;> rfl

@[simp] theorem offer_label (n : Node α) (m : Method) (h : Option α) :
    (n.offer m h).label = n.label := by
  cases h <;> rfl

@[simp] theorem offer_stem (n : Node α) (m : Method) (h : Option α) : (n.offer m h).stem = n.stem := by
  cases h <;> rfl

@[simp] theorem offer_parent (n : Node α) (m : Method) (h : Option α) :
    (n.offer m h).parent = n.parent := by
  cases h <;> rfl

@[simp] theorem offer_children (n : Node α) (m : Method) (h : Option α) :
    (n.offer m h).children = n.children := by
  cases h <;> rfl

@[simp] theorem describe_kind (n : Node α) (l : Option Leaf) : (n.describe l).kind = n.kind := by
  cases l <;> rfl

@[simp] theorem describe_label (n : Node α) (l : Option Leaf) : (n.describe l).label = n.label := by
  cases l <;> rfl

@[simp] theorem describe_stem (n : Node α) (l : Option Leaf) : (n.describe l).stem = n.stem := by
  cases l <;> rfl

@[simp] theorem describe_parent (n : Node α) (l : Option Leaf) : (n.describe l).parent = n.parent := by
  cases l <;> rfl

@[simp] theorem describe_children (n : Node α) (l : Option Leaf) :
    (n.describe l).children = n.children := by
  cases l <;> rfl

end Node

namespace Tree

variable {α : Type} (t : Tree α)

theorem node_of_size_le {i : Nat} (h : t.nodes.size ≤ i) : t.node i = Node.new .static [] none := by
  simp [node, h]

theorem lt_size_of_mem_children {i c : Nat} (h : c ∈ (t.node i).children) : i < t.nodes.size := by
  rcases Nat.lt_or_ge i t.nodes.size with hi | hi; exact hi
  rw [node_of_size_le t hi] at h
  cases h

@[simp] theorem size_modify (i : Nat) (f : Node α → Node α) :
    (t.modify i f).nodes.size = t.nodes.size := by
  simp [modify]

theorem node_modify (i k : Nat) (f : Node α → Node α) :
    (t.modify i f).node k = if k = i ∧ i < t.nodes.size then f (t.node i) else t.node k := by
  unfold node modify
  rw [Array.getElem?_modify]
  by_cases hk : i = k
  · subst hk
    by_cases hi : i < t.nodes.size
    · simp [hi]
    · simp [hi]
  · simp [hk, Ne.symm hk]

theorem node_modify_self {i : Nat} (hi : i < t.nodes.size) (f : Node α → Node α) :
    (t.modify i f).node i = f (t.node i) := by
  rw [node_modify, if_pos ⟨rfl, hi⟩]

theorem node_modify_ne {i k : Nat} (h : k ≠ i) (f : Node α → Node α) :
    (t.modify i f).node k = t.node k := by
  rw [node_modify, if_neg fun e => h e.1]

@[simp] theorem size_push (n : Node α) : (t.push n).nodes.size = t.nodes.size + 1 := by
  simp [push]

theorem node_push (n : Node α) (k : Nat) :
    (t.push n).node k = if k = t.nodes.size then n else t.node k := by
  unfold node push
  rw [Array.getElem?_push]
  split <;> simp

/-! ## Children -/

theorem mem_insertChild {kind : Kind} {j c : Nat} {l : List Nat} :
    c ∈ t.insertChild kind j l ↔ c = j ∨ c ∈ l := by
  induction l with
  | nil => simp [insertChild]
  | cons b l ih =>
    rw [insertChild]
    split
    · simp
    · simp only [List.mem_cons, ih]
      exact or_left_comm

theorem insertChild_perm (kind : Kind) (j : Nat) (l : List Nat) :
    (t.insertChild kind j l).Perm (j :: l) := by
  induction l with
  | nil => exact List.Perm.refl _
  | cons b l ih =>
    rw [insertChild]
    split
    · exact List.Perm.refl _
    · exact (ih.cons b).trans (List.Perm.swap j b l)

theorem insertChild_ranks {kind : Kind} {j : Nat} {l : List Nat} (hj : (t.node j).kind = kind)
    (hl : l.Pairwise fun a b => (t.node a).kind.rank ≤ (t.node b).kind.rank) :
    (t.insertChild kind j l).Pairwise fun a b => (t.node a).kind.rank ≤ (t.node b).kind.rank := by
  subst hj
  induction l with
  | nil => simp [insertChild]
  | cons b l ih =>
    rw [List.pairwise_cons] at hl
    rw [insertChild]
    split
    · rename_i hb
      refine List.pairwise_cons.mpr ⟨fun a ha => ?_, List.pairwise_cons.mpr hl⟩
      cases ha with
      | head => exact Nat.le_of_lt hb
      | tail _ ha => exact Nat.le_trans (Nat.le_of_lt hb) (hl.1 a ha)
    · rename_i hb
      refine List.pairwise_cons.mpr ⟨fun a ha => ?_, ih hl.2⟩
      rcases (mem_insertChild t).mp ha with rfl | ha
      · exact Nat.le_of_not_lt hb
      · exact hl.1 a ha

@[simp] theorem size_addChild (i j : Nat) : (t.addChild i j).nodes.size = t.nodes.size := by
  simp [addChild]

theorem node_addChild {i : Nat} (hi : i < t.nodes.size) (j k : Nat) :
    (t.addChild i j).node k =
      if k = i then
        { t.node i with children := t.insertChild (t.node j).kind j (t.node i).children }
      else t.node k := by
  unfold addChild
  by_cases hk : k = i
  · subst hk
    simp [node_modify_self t hi]
  · simp [node_modify_ne t hk, hk]

/-! ## New leaves -/

def leafNode (parent : Nat) (kind : Kind) (stem : List Char) (m : Method) (handler : Option α)
    (leaf : Option Leaf) : Node α :=
  ((Node.new kind stem (some parent)).offer m handler).describe leaf

variable (i : Nat) (kind : Kind) (stem : List Char) (m : Method) (handler : Option α)
  (leaf : Option Leaf)

@[simp] theorem size_newLeaf :
    (t.newLeaf i kind stem m handler leaf).nodes.size = t.nodes.size + 1 := by
  simp [newLeaf]

theorem node_newLeaf (hi : i < t.nodes.size) (k : Nat) :
    (t.newLeaf i kind stem m handler leaf).node k =
      if k = t.nodes.size then leafNode i kind stem m handler leaf
      else if k = i then
        { t.node i with
          children := (t.push (leafNode i kind stem m handler leaf)).insertChild kind t.nodes.size
            (t.node i).children }
      else t.node k := by
  have hi' : i < (t.push (leafNode i kind stem m handler leaf)).nodes.size := by
    rw [size_push]; exact Nat.lt_succ_of_lt hi
  have hne : i ≠ t.nodes.size := Nat.ne_of_lt hi
  have hkind : (leafNode i kind stem m handler leaf).kind = kind := by simp [leafNode, Node.new]
  show ((t.push (leafNode i kind stem m handler leaf)).addChild i t.nodes.size).node k = _
  rw [node_addChild _ hi']
  simp only [node_push, if_neg hne, if_true, hkind]
  by_cases hk : k = i
  · subst hk; simp [hne]
  · by_cases hk' : k = t.nodes.size
    · simp [hk', Ne.symm hne]
    · simp [hk, hk']

theorem node_newLeaf_self (hi : i < t.nodes.size) :
    (t.newLeaf i kind stem m handler leaf).node t.nodes.size =
      leafNode i kind stem m handler leaf := by
  rw [node_newLeaf t i kind stem m handler leaf hi, if_pos rfl]

theorem node_newLeaf_of_lt (hi : i < t.nodes.size) {k : Nat} (hk : k < t.nodes.size) :
    (t.newLeaf i kind stem m handler leaf).node k =
      { t.node k with
        children := ((t.newLeaf i kind stem m handler leaf).node k).children } := by
  rw [node_newLeaf t i kind stem m handler leaf hi, if_neg (Nat.ne_of_lt hk)]
  by_cases hki : k = i
  · subst hki
    simp
  · simp [hki]

theorem newLeaf_children_perm (hi : i < t.nodes.size) (k : Nat) :
    ((t.newLeaf i kind stem m handler leaf).node k).children.Perm
      (if k = i then t.nodes.size :: (t.node k).children else (t.node k).children) := by
  rw [node_newLeaf t i kind stem m handler leaf hi]
  by_cases hk : k = t.nodes.size
  · subst hk
    have hne : t.nodes.size ≠ i := (Nat.ne_of_lt hi).symm
    simp [leafNode, Node.new, node_of_size_le t (Nat.le_refl _), hne]
  · rw [if_neg hk]
    by_cases hki : k = i
    · subst hki
      simpa using insertChild_perm _ kind _ _
    · simp [hki]

theorem mem_children_newLeaf (hi : i < t.nodes.size) {k c : Nat} :
    c ∈ ((t.newLeaf i kind stem m handler leaf).node k).children ↔
      c ∈ (t.node k).children ∨ (k = i ∧ c = t.nodes.size) := by
  rw [(newLeaf_children_perm t i kind stem m handler leaf hi k).mem_iff]
  by_cases hki : k = i
  · simp [hki, or_comm]
  · simp [hki]

/-! ## Splitting -/

theorem node_adopt (j k : Nat) : ∀ (l : List Nat) (t : Tree α),
    (l.foldl (fun t c => t.modify c fun n => { n with parent := some j }) t).node k =
        (if k ∈ l ∧ k < t.nodes.size then { t.node k with parent := some j } else t.node k) ∧
      (l.foldl (fun t c => t.modify c fun n => { n with parent := some j }) t).nodes.size =
        t.nodes.size
  | [], t => by simp
  | c :: l, t => by
    obtain ⟨hn, hs⟩ := node_adopt j k l (t.modify c fun n => { n with parent := some j })
    rw [List.foldl_cons, hn, hs, size_modify]
    refine ⟨?_, rfl⟩
    by_cases hk : k = c
    · subst hk
      by_cases hlt : k < t.nodes.size
      · simp [node_modify_self t hlt, hlt]
      · simp [node_modify, hlt]
    · simp [node_modify_ne t hk, hk]

@[simp] theorem size_split (keep rest : List Char) :
    (t.split i keep rest).nodes.size = t.nodes.size + 1 := by
  simp [split, (node_adopt _ 0 _ _).2]

def tailNode (n : Node α) (i : Nat) (rest : List Char) : Node α :=
  { n with stem := rest, label := firstOctet rest, parent := some i }

theorem node_split (keep rest : List Char) (hi : i < t.nodes.size)
    (hc : ∀ c ∈ (t.node i).children, c < t.nodes.size ∧ c ≠ i) (k : Nat) :
    (t.split i keep rest).node k =
      if k = t.nodes.size then tailNode (t.node i) i rest
      else if k = i then
        { Node.new .static keep (t.node i).parent with children := [t.nodes.size] }
      else if k ∈ (t.node i).children then { t.node k with parent := some t.nodes.size }
      else t.node k := by
  have hne : i ≠ t.nodes.size := Nat.ne_of_lt hi
  have hii : i ∉ (t.node i).children := fun h => (hc i h).2 rfl
  let t₁ := t.modify i fun _ => Node.new .static keep (t.node i).parent
  let t₂ := (t.node i).children.foldl
    (fun t' c => t'.modify c fun n => { n with parent := some t.nodes.size }) t₁
  have hs₁ : t₁.nodes.size = t.nodes.size := size_modify t i _
  have hs₂ : t₂.nodes.size = t.nodes.size := (node_adopt t.nodes.size 0 _ t₁).2.trans hs₁
  have hn₂ : ∀ k, t₂.node k =
      if k ∈ (t.node i).children ∧ k < t₁.nodes.size then
        { t₁.node k with parent := some t.nodes.size }
      else t₁.node k := fun k => (node_adopt t.nodes.size k _ t₁).1
  have hi₂ : t₂.node i = Node.new .static keep (t.node i).parent := by
    rw [hn₂, if_neg fun h => hii h.1]
    exact node_modify_self t hi _
  have hi₃ : i < (t₂.push (tailNode (t.node i) i rest)).nodes.size := by
    rw [size_push, hs₂]; exact Nat.lt_succ_of_lt hi
  show ((t₂.push (tailNode (t.node i) i rest)).addChild i t.nodes.size).node k = _
  rw [node_addChild _ hi₃]
  simp only [node_push, hs₂, if_neg hne, hi₂]
  by_cases hk : k = i
  · subst hk
    simp [hne, insertChild, Node.new]
  · rw [if_neg hk, if_neg hk]
    by_cases hk' : k = t.nodes.size
    · simp [hk']
    · rw [if_neg hk', if_neg hk', hn₂, hs₁]
      have h₁ : t₁.node k = t.node k := node_modify_ne t hk _
      by_cases hkc : k ∈ (t.node i).children
      · simp [hkc, (hc k hkc).1, h₁]
      · simp [hkc, h₁]

section split

variable {t i} (keep rest : List Char) (hi : i < t.nodes.size)
  (hc : ∀ c ∈ (t.node i).children, c < t.nodes.size ∧ c ≠ i)
include hi hc

theorem node_split_last : (t.split i keep rest).node t.nodes.size = tailNode (t.node i) i rest := by
  rw [node_split t i keep rest hi hc, if_pos rfl]

theorem node_split_self :
    (t.split i keep rest).node i =
      { Node.new .static keep (t.node i).parent with children := [t.nodes.size] } := by
  rw [node_split t i keep rest hi hc, if_neg (Nat.ne_of_lt hi), if_pos rfl]

theorem node_split_of_ne {k : Nat} (hk : k < t.nodes.size) (hki : k ≠ i) :
    (t.split i keep rest).node k =
      { t.node k with
        parent := if k ∈ (t.node i).children then some t.nodes.size else (t.node k).parent } := by
  rw [node_split t i keep rest hi hc, if_neg (Nat.ne_of_lt hk), if_neg hki]
  split <;> rfl

theorem mem_children_split {k c : Nat} :
    c ∈ ((t.split i keep rest).node k).children ↔
      (k = t.nodes.size ∧ c ∈ (t.node i).children) ∨ (k = i ∧ c = t.nodes.size) ∨
        (k ≠ i ∧ c ∈ (t.node k).children) := by
  rw [node_split t i keep rest hi hc]
  by_cases hk : k = t.nodes.size
  · subst hk
    have hne : t.nodes.size ≠ i := (Nat.ne_of_lt hi).symm
    simp [tailNode, node_of_size_le t (Nat.le_refl _), Node.new, hne]
  · rw [if_neg hk]
    by_cases hki : k = i
    · subst hki
      simp [hk]
    · rw [if_neg hki]
      split <;> simp [hk, hki]

end split

/-! ## The number of parameters -/

@[simp] theorem maxParam_modify (f : Node α → Node α) : (t.modify i f).maxParam = t.maxParam := rfl

@[simp] theorem maxParam_newLeaf :
    (t.newLeaf i kind stem m handler leaf).maxParam = t.maxParam := rfl

@[simp] theorem maxParam_split (keep rest : List Char) :
    (t.split i keep rest).maxParam = t.maxParam := by
  have h : ∀ (l : List Nat) (t : Tree α) (j : Nat),
      (l.foldl (fun t c => t.modify c fun n => { n with parent := some j }) t).maxParam =
        t.maxParam := by
    intro l
    induction l with
    | nil => exact fun _ _ => rfl
    | cons c l ih => exact fun t j => ih _ j
  exact h _ _ _

@[simp] theorem maxParam_update : (t.update i m handler leaf).maxParam = t.maxParam := by
  cases handler <;> rfl

/-! ## Nodes that are there -/

theorem size_fillRoot (path : List Char) :
    (t.fillRoot kind path m handler leaf).nodes.size = t.nodes.size := by
  simp [fillRoot]

end Tree

end Switchboard.Route
