import Switchboard.Proofs.Route.Layout

/-!
# Steps on a laid out tree

The three steps that put a text into the tree: a new leaf, a split, and a route on a node that is
there. Each leaves a tree that has a layout again.
-/

namespace Switchboard.Route

structure Payload (α : Type) where
  handlers : Method → Option α := fun _ => none
  leaf : Leaf := ⟨"", []⟩

namespace Payload

variable {α : Type}

/-- A further route: the pattern is the last one, the names stay the first ones. -/
def put (p : Payload α) (m : Method) (h : α) (l : Leaf) : Payload α :=
  { handlers := fun k => if k = m then some h else p.handlers k
    leaf := ⟨l.template, if p.leaf.names.isEmpty then l.names else p.leaf.names⟩ }

def offer (p : Payload α) (m : Method) : Option (α × Leaf) → Payload α
  | some (h, l) => p.put m h l
  | none => p

end Payload

namespace Node

variable {α : Type}

def payload (n : Node α) : Payload α := ⟨n.handlers, n.leaf⟩

def bear (n : Node α) (p : Payload α) : Node α := { n with handlers := p.handlers, leaf := p.leaf }

end Node

namespace Tree

variable {α : Type}

/-- What is registered at a text; nothing where there is no node. -/
def payload (t : Tree α) (text : Nat → List Char) (w : List Char) : Payload α :=
  match (List.range t.nodes.size).find? fun i => text i == w with
  | some i => (t.node i).payload
  | none => {}

theorem payload_of_forall_ne {t : Tree α} {text : Nat → List Char} {w : List Char}
    (h : ∀ i < t.nodes.size, text i ≠ w) : t.payload text w = {} := by
  have hnone : (List.range t.nodes.size).find? (fun i => text i == w) = none := by
    rw [List.find?_eq_none]
    intro i hi e
    exact h i (List.mem_range.mp hi) (beq_iff_eq.mp e)
  rw [payload, hnone]

namespace Layout

variable {t : Tree α} {text : Nat → List Char} (L : t.Layout text)
include L

theorem payload_text {i : Nat} (hi : i < t.nodes.size) :
    t.payload text (text i) = (t.node i).payload := by
  unfold payload
  cases hf : (List.range t.nodes.size).find? fun k => text k == text i with
  | none =>
    rw [List.find?_eq_none] at hf
    exact absurd (beq_self_eq_true _) (hf i (List.mem_range.mpr hi))
  | some k =>
    have hk := List.mem_range.mp (List.mem_of_find?_eq_some hf)
    have he := List.find?_some hf
    rw [L.text_inj hk hi (beq_iff_eq.mp he)]

theorem payload_ext {F : List Char → Payload α}
    (hnode : ∀ k < t.nodes.size, (t.node k).payload = F (text k))
    (hnone : ∀ w, (∀ k < t.nodes.size, text k ≠ w) → F w = {}) (w : List Char) :
    t.payload text w = F w := by
  by_cases h : ∃ k < t.nodes.size, text k = w
  · obtain ⟨k, hk, rfl⟩ := h
    rw [L.payload_text hk, hnode k hk]
  · have hw : ∀ k < t.nodes.size, text k ≠ w := fun k hk e => h ⟨k, hk, e⟩
    rw [payload_of_forall_ne hw, hnone w hw]

/-- A text that shares part of the stem of a node goes through this node. -/
theorem enters {i k : Nat} (hi : i < t.nodes.size) (hk : k < t.nodes.size) {u w : List Char}
    (hu : text i = u ++ (t.node i).stem) (hw : w <+: text i) (hlen : u.length < w.length)
    (hwk : w <+: text k) : text i <+: text k := by
  by_cases hr : i = root
  · exact hr ▸ L.root_prefix k hk
  obtain ⟨p, hp, hpi⟩ := L.has_parent hi hr
  have hup : text p = u := List.append_cancel_right ((L.child_text hpi).symm.trans hu)
  have huw : u <+: w := List.prefix_of_prefix_length_le ⟨_, hu.symm⟩ hw (Nat.le_of_lt hlen)
  rcases L.prefix_cases hp hk (hup ▸ huw.trans hwk) with rfl | ⟨c, hc, hck⟩
  · have := hwk.length_le
    rw [hup] at this
    omega
  · -- both children carry the first octet of what `w` has after `u`
    obtain ⟨s, rfl⟩ := huw
    cases s with
    | nil => simp at hlen
    | cons a s =>
      obtain ⟨x, hx⟩ := hw
      obtain ⟨y, hy⟩ := hwk
      have hi' : (t.node i).label = firstOctet (a :: (s ++ x)) :=
        L.label_of_prefix hpi (by rw [hup, ← hx]; simp)
      have hc' : (t.node c).label = firstOctet (a :: (s ++ y)) :=
        L.label_of_prefix hc (by rw [hup]; rw [← hy] at hck; simpa using hck)
      rwa [L.child_eq_of_label hpi hc (hi'.trans hc'.symm)]

theorem fresh (h : (t.node root).stem = []) :
    t.nodes.size = 1 ∧ t.node root = Node.new .static [] none := by
  rcases L.root_stem with hr | hr
  · rw [h] at hr
    cases hr
  · exact hr

/-- Once a node has a text of its own the root starts with a slash. -/
theorem slash {i : Nat} (hi : i < t.nodes.size) (h : (t.node i).stem ≠ []) :
    (t.node root).stem.head? = some '/' := by
  rcases L.root_stem with hr | ⟨hs, hr⟩
  · exact hr
  · rw [hs] at hi
    have : i = root := Nat.lt_one_iff.mp hi
    rw [this, hr] at h
    exact absurd rfl h

end Layout

/-! ## A new leaf -/

/-- The texts of the nodes when one more stands at the end of the table. -/
def extend (t : Tree α) (text : Nat → List Char) (w : List Char) (k : Nat) : List Char :=
  if k = t.nodes.size then w else text k

theorem extend_self (t : Tree α) (text : Nat → List Char) (w : List Char) :
    t.extend text w t.nodes.size = w := if_pos rfl

theorem extend_of_lt {t : Tree α} {k : Nat} (h : k < t.nodes.size) (text : Nat → List Char)
    (w : List Char) : t.extend text w k = text k := if_neg (Nat.ne_of_lt h)

section newLeaf

variable {t : Tree α} {text : Nat → List Char} (L : t.Layout text) {i : Nat}
  (hi : i < t.nodes.size) (kind : Kind) (stem : List Char) (m : Method) (handler : Option α)
  (leaf : Option Leaf)
include L hi

theorem Layout.newLeaf_ranks (k : Nat) :
    ((t.newLeaf i kind stem m handler leaf).node k).children.Pairwise fun a b =>
      ((t.newLeaf i kind stem m handler leaf).node a).kind.rank ≤
        ((t.newLeaf i kind stem m handler leaf).node b).kind.rank := by
  let p := t.push (leafNode i kind stem m handler leaf)
  have hlt : ∀ {c}, c < t.nodes.size → p.node c = t.node c := fun h => by
    rw [node_push, if_neg (Nat.ne_of_lt h)]
  have hlast : p.node t.nodes.size = leafNode i kind stem m handler leaf := by
    rw [node_push, if_pos rfl]
  have hkind : ∀ c, ((t.newLeaf i kind stem m handler leaf).node c).kind = (p.node c).kind := by
    intro c
    rw [node_newLeaf t i kind stem m handler leaf hi, node_push]
    split
    · rfl
    · split
      · rename_i h; rw [h]
      · rfl
  have hold : ∀ k, (t.node k).children.Pairwise fun a b =>
      (p.node a).kind.rank ≤ (p.node b).kind.rank := fun k =>
    L.ranks.imp_of_mem fun ha hb h => by rwa [hlt (L.child_lt ha), hlt (L.child_lt hb)]
  simp only [hkind]
  rw [node_newLeaf t i kind stem m handler leaf hi]
  split
  · simp [leafNode, Node.new]
  · split
    · exact insertChild_ranks p (by rw [hlast]; simp [leafNode, Node.new]) (hold i)
    · exact hold k

theorem Layout.newLeaf (hstem : stem ≠ []) (htakes : kind.Takes stem)
    (hany : (t.node i).kind ≠ .any) (hslash : (t.node i).stem ≠ [])
    (hlabel : ∀ c ∈ (t.node i).children, (t.node c).label ≠ firstOctet stem) :
    (t.newLeaf i kind stem m handler leaf).Layout (t.extend text (text i ++ stem)) := by
  have hsize := size_newLeaf t i kind stem m handler leaf
  have hnew := node_newLeaf_self t i kind stem m handler leaf hi
  have hold := fun k => node_newLeaf_of_lt t i kind stem m handler leaf hi (k := k)
  have hmem := fun k c => mem_children_newLeaf t i kind stem m handler leaf hi (k := k) (c := c)
  have hperm := newLeaf_children_perm t i kind stem m handler leaf hi
  have hranks := L.newLeaf_ranks hi kind stem m handler leaf
  generalize t.newLeaf i kind stem m handler leaf = t' at hsize hnew hold hmem hperm hranks ⊢
  have hkid : ∀ {k c}, c ∈ (t.node k).children → k < t.nodes.size ∧ c < t.nodes.size :=
    fun h => ⟨lt_size_of_mem_children t h, L.child_lt h⟩
  refine
    { root_lt := by rw [hsize]; exact Nat.lt_succ_of_lt L.root_lt
      root_text := by rw [extend_of_lt L.root_lt, hold _ L.root_lt]; exact L.root_text
      root_parent := by rw [hold _ L.root_lt]; exact L.root_parent
      root_stem := by rw [hold _ L.root_lt]; exact Or.inl (L.slash hi hslash)
      child_lt := ?child_lt
      child_parent := ?child_parent
      child_stem := ?child_stem
      child_text := ?child_text
      has_parent := ?has_parent
      label := ?label
      labels := ?labels
      ranks := ?ranks
      takes := ?takes
      any_children := ?any_children }
  case child_lt =>
    intro k c hc
    rw [hsize]
    rcases (hmem k c).mp hc with hc | ⟨_, rfl⟩
    · exact Nat.lt_succ_of_lt (hkid hc).2
    · exact Nat.lt_succ_self _
  case child_parent =>
    intro k c hc
    rcases (hmem k c).mp hc with hc | ⟨rfl, rfl⟩
    · rw [hold _ (hkid hc).2]
      exact L.child_parent hc
    · rw [hnew]
      simp [leafNode, Node.new]
  case child_stem =>
    intro k c hc
    rcases (hmem k c).mp hc with hc | ⟨rfl, rfl⟩
    · rw [hold _ (hkid hc).2]
      exact L.child_stem hc
    · rw [hnew]
      simpa [leafNode, Node.new] using hstem
  case child_text =>
    intro k c hc
    rcases (hmem k c).mp hc with hc | ⟨rfl, rfl⟩
    · rw [extend_of_lt (hkid hc).1, extend_of_lt (hkid hc).2, hold _ (hkid hc).2]
      exact L.child_text hc
    · rw [extend_self, extend_of_lt hi, hnew]
      simp [leafNode, Node.new]
  case has_parent =>
    intro c hc hr
    rw [hsize] at hc ⊢
    rcases Nat.lt_succ_iff_lt_or_eq.mp hc with hc | rfl
    · obtain ⟨k, hk, hck⟩ := L.has_parent hc hr
      exact ⟨k, Nat.lt_succ_of_lt hk, (hmem k c).mpr (Or.inl hck)⟩
    · exact ⟨i, Nat.lt_succ_of_lt hi, (hmem i _).mpr (Or.inr ⟨rfl, rfl⟩)⟩
  case label =>
    intro k hk
    rw [hsize] at hk
    rcases Nat.lt_succ_iff_lt_or_eq.mp hk with hk | rfl
    · rw [hold _ hk]
      exact L.label hk
    · rw [hnew]
      simp [leafNode, Node.new]
  case labels =>
    intro k
    have hk := (L.labels (i := k)).imp_of_mem
      (S := fun a b => (t'.node a).label ≠ (t'.node b).label) fun ha hb h => by
        rwa [hold _ (hkid ha).2, hold _ (hkid hb).2]
    rw [(hperm k).pairwise_iff Ne.symm]
    by_cases hki : k = i
    · subst hki
      rw [if_pos rfl]
      refine List.pairwise_cons.mpr ⟨fun c hc => ?_, hk⟩
      rw [hnew, hold _ (hkid hc).2]
      simpa [leafNode, Node.new] using (hlabel c hc).symm
    · rwa [if_neg hki]
  case ranks => exact hranks _
  case takes =>
    intro k hk
    rw [hsize] at hk
    rcases Nat.lt_succ_iff_lt_or_eq.mp hk with hk | rfl
    · rw [hold _ hk]
      exact L.takes hk
    · rw [hnew]
      simpa [leafNode, Node.new] using htakes
  case any_children =>
    intro k hk
    refine List.eq_nil_iff_forall_not_mem.mpr fun c hc => ?_
    rcases (hmem k c).mp hc with hc | ⟨rfl, rfl⟩
    · rw [hold _ (hkid hc).1] at hk
      rw [L.any_children hk] at hc
      cases hc
    · rw [hold _ hi] at hk
      exact hany hk

end newLeaf

/-! ## A split -/

def cut (t : Tree α) (text : Nat → List Char) (i : Nat) (w : List Char) : Nat → List Char :=
  t.extend (Function.update text i w) (text i)

theorem cut_last (t : Tree α) (text : Nat → List Char) (i : Nat) (w : List Char) :
    t.cut text i w t.nodes.size = text i := extend_self _ _ _

theorem cut_self {t : Tree α} {i : Nat} (hi : i < t.nodes.size) (text : Nat → List Char)
    (w : List Char) : t.cut text i w i = w := by
  rw [cut, extend_of_lt hi, Function.update_self]

theorem cut_of_ne {t : Tree α} {i k : Nat} (hk : k < t.nodes.size) (hki : k ≠ i)
    (text : Nat → List Char) (w : List Char) : t.cut text i w k = text k := by
  rw [cut, extend_of_lt hk, Function.update_of_ne hki]

section split

variable {t : Tree α} {text : Nat → List Char} (L : t.Layout text) {i : Nat}
  (hi : i < t.nodes.size) {u keep rest : List Char} (hu : text i = u ++ (t.node i).stem)
  (hstem : (t.node i).stem = keep ++ rest) (hkeep : keep ≠ []) (hrest : rest ≠ [])
include L hi hstem hkeep hrest

theorem Layout.static_of_split : (t.node i).kind = .static := by
  have h := L.takes hi
  have hlen := congrArg List.length hstem
  have hk := List.length_pos_iff.mpr hkeep
  have hr := List.length_pos_iff.mpr hrest
  rw [List.length_append] at hlen
  cases hkind : (t.node i).kind with
  | static => rfl
  | param =>
    rw [hkind] at h
    rw [show (t.node i).stem = [':'] from h, List.length_singleton] at hlen
    omega
  | any =>
    rw [hkind] at h
    rw [show (t.node i).stem = ['*'] from h, List.length_singleton] at hlen
    omega

include hu

theorem Layout.split : (t.split i keep rest).Layout (t.cut text i (u ++ keep)) := by
  have hkids : ∀ c ∈ (t.node i).children, c < t.nodes.size ∧ c ≠ i := fun c hc =>
    ⟨L.child_lt hc, L.child_ne hc⟩
  have hstatic := L.static_of_split hi hstem hkeep hrest
  have hlit : Literal keep ∧ Literal rest := by
    have h := L.takes hi
    rw [hstatic, hstem] at h
    exact literal_append.mp h
  have hslash : (t.node root).stem.head? = some '/' := L.slash hi (by simp [hstem, hkeep])
  have hsize := size_split t i keep rest
  have hnew := node_split_last keep rest hi hkids
  have hself := node_split_self keep rest hi hkids
  have hold := fun k => node_split_of_ne keep rest hi hkids (k := k)
  have hmem := fun k c => mem_children_split keep rest hi hkids (k := k) (c := c)
  have hchildren := node_split t i keep rest hi hkids
  generalize t.split i keep rest = t' at hsize hnew hself hold hmem hchildren ⊢
  -- what the order and the search among children read is kept by every node
  have hkind : ∀ c < t.nodes.size, (t'.node c).kind = (t.node c).kind := by
    intro c hc
    by_cases hci : c = i
    · subst hci
      rw [hself, hstatic]
      rfl
    · rw [hold c hc hci]
  have hlabel : ∀ c < t.nodes.size, (t'.node c).label = (t.node c).label := by
    intro c hc
    by_cases hci : c = i
    · subst hci
      rw [hself, L.label hc, hstem]
      cases keep with
      | nil => exact absurd rfl hkeep
      | cons a keep => rfl
    · rw [hold c hc hci]
  have hpair : ∀ {R : Nat → Nat → Prop} {k : Nat}, (∀ k, (t.node k).children.Pairwise R) →
      (t'.node k).children.Pairwise R := by
    intro R k h
    rw [hchildren k]
    split
    · exact h i
    · split
      · exact List.pairwise_singleton R _
      · split <;> exact h k
  refine
    { root_lt := by rw [hsize]; exact Nat.lt_succ_of_lt L.root_lt
      root_text := ?root_text
      root_parent := ?root_parent
      root_stem := ?root_stem
      child_lt := ?child_lt
      child_parent := ?child_parent
      child_stem := ?child_stem
      child_text := ?child_text
      has_parent := ?has_parent
      label := ?label
      labels := hpair fun k => L.labels.imp_of_mem fun ha hb h => by
        rwa [hlabel _ (L.child_lt ha), hlabel _ (L.child_lt hb)]
      ranks := hpair fun k => L.ranks.imp_of_mem fun ha hb h => by
        rwa [hkind _ (L.child_lt ha), hkind _ (L.child_lt hb)]
      takes := ?takes
      any_children := ?any_children }
  case root_text =>
    by_cases hr : root = i
    · subst hr
      have : u = [] := List.append_left_eq_self.mp (hu.symm.trans L.root_text)
      rw [cut_self hi, hself, this]
      rfl
    · rw [cut_of_ne L.root_lt hr, hold _ L.root_lt hr]
      exact L.root_text
  case root_parent =>
    by_cases hr : root = i
    · subst hr
      rw [hself]
      exact L.root_parent
    · rw [hold _ L.root_lt hr, if_neg L.root_not_child]
      exact L.root_parent
  case root_stem =>
    refine Or.inl ?_
    by_cases hr : root = i
    · subst hr
      rw [hstem, List.head?_append_of_ne_nil _ hkeep] at hslash
      rw [hself]
      exact hslash
    · rw [hold _ L.root_lt hr]
      exact hslash
  case child_lt =>
    intro k c h
    rw [hsize]
    rcases (hmem k c).mp h with ⟨_, hc⟩ | ⟨_, rfl⟩ | ⟨_, hc⟩
    · exact Nat.lt_succ_of_lt (L.child_lt hc)
    · exact Nat.lt_succ_self _
    · exact Nat.lt_succ_of_lt (L.child_lt hc)
  case child_parent =>
    intro k c h
    rcases (hmem k c).mp h with ⟨rfl, hc⟩ | ⟨rfl, rfl⟩ | ⟨hki, hc⟩
    · rw [hold _ (L.child_lt hc) (L.child_ne hc), if_pos hc]
    · rw [hnew]
      rfl
    · by_cases hci : c = i
      · subst hci
        rw [hself]
        exact L.child_parent hc
      · rw [hold _ (L.child_lt hc) hci, if_neg fun h => hki (L.child_unique hc h)]
        exact L.child_parent hc
  case child_stem =>
    intro k c h
    rcases (hmem k c).mp h with ⟨rfl, hc⟩ | ⟨rfl, rfl⟩ | ⟨hki, hc⟩
    · rw [hold _ (L.child_lt hc) (L.child_ne hc)]
      exact L.child_stem hc
    · rw [hnew]
      exact hrest
    · by_cases hci : c = i
      · subst hci
        rw [hself]
        exact hkeep
      · rw [hold _ (L.child_lt hc) hci]
        exact L.child_stem hc
  case child_text =>
    intro k c h
    rcases (hmem k c).mp h with ⟨rfl, hc⟩ | ⟨rfl, rfl⟩ | ⟨hki, hc⟩
    · rw [cut_last, cut_of_ne (L.child_lt hc) (L.child_ne hc),
        hold _ (L.child_lt hc) (L.child_ne hc)]
      exact L.child_text hc
    · rw [cut_last, cut_self hi, hnew, hu, hstem, List.append_assoc]
      rfl
    · rw [cut_of_ne (lt_size_of_mem_children t hc) hki]
      by_cases hci : c = i
      · subst hci
        have : text k = u := List.append_cancel_right ((L.child_text hc).symm.trans hu)
        rw [cut_self hi, hself, this]
        rfl
      · rw [cut_of_ne (L.child_lt hc) hci, hold _ (L.child_lt hc) hci]
        exact L.child_text hc
  case has_parent =>
    intro c hc hr
    rw [hsize] at hc ⊢
    rcases Nat.lt_succ_iff_lt_or_eq.mp hc with hc | rfl
    · obtain ⟨k, hk, hck⟩ := L.has_parent hc hr
      by_cases hki : k = i
      · subst hki
        exact ⟨_, Nat.lt_succ_self _, (hmem _ c).mpr (Or.inl ⟨rfl, hck⟩)⟩
      · exact ⟨k, Nat.lt_succ_of_lt hk, (hmem k c).mpr (Or.inr (Or.inr ⟨hki, hck⟩))⟩
    · exact ⟨i, Nat.lt_succ_of_lt hi, (hmem i _).mpr (Or.inr (Or.inl ⟨rfl, rfl⟩))⟩
  case label =>
    intro k hk
    rw [hsize] at hk
    rcases Nat.lt_succ_iff_lt_or_eq.mp hk with hk | rfl
    · by_cases hki : k = i
      · subst hki
        rw [hself]
        rfl
      · rw [hold _ hk hki]
        exact L.label hk
    · rw [hnew]
      rfl
  case takes =>
    intro k hk
    rw [hsize] at hk
    rcases Nat.lt_succ_iff_lt_or_eq.mp hk with hk | rfl
    · by_cases hki : k = i
      · subst hki
        rw [hself]
        exact hlit.1
      · rw [hold _ hk hki]
        exact L.takes hk
    · rw [hnew]
      show (t.node i).kind.Takes rest
      rw [hstatic]
      exact hlit.2
  case any_children =>
    intro k hk
    refine List.eq_nil_iff_forall_not_mem.mpr fun c hc => ?_
    rcases (hmem k c).mp hc with ⟨rfl, hc⟩ | ⟨rfl, rfl⟩ | ⟨hki, hc⟩
    · rw [hnew] at hk
      exact absurd (hstatic.symm.trans hk) (by decide)
    · rw [hself] at hk
      exact absurd hk (by simp [Node.new])
    · rw [hkind k (lt_size_of_mem_children t hc)] at hk
      rw [L.any_children hk] at hc
      cases hc

end split

/-! ## Other routes on the same nodes -/

theorem Layout.bear {t t' : Tree α} {text : Nat → List Char} (L : t.Layout text)
    (hslash : (t.node root).stem.head? = some '/') (hsize : t'.nodes.size = t.nodes.size)
    (h : ∀ k, ∃ p, t'.node k = (t.node k).bear p) : t'.Layout text := by
  have hkind : ∀ k, (t'.node k).kind = (t.node k).kind := fun k => by
    obtain ⟨p, hp⟩ := h k; rw [hp]; rfl
  have hlabel : ∀ k, (t'.node k).label = (t.node k).label := fun k => by
    obtain ⟨p, hp⟩ := h k; rw [hp]; rfl
  have hstem : ∀ k, (t'.node k).stem = (t.node k).stem := fun k => by
    obtain ⟨p, hp⟩ := h k; rw [hp]; rfl
  have hparent : ∀ k, (t'.node k).parent = (t.node k).parent := fun k => by
    obtain ⟨p, hp⟩ := h k; rw [hp]; rfl
  have hchildren : ∀ k, (t'.node k).children = (t.node k).children := fun k => by
    obtain ⟨p, hp⟩ := h k; rw [hp]; rfl
  constructor <;> simp only [hsize, hkind, hlabel, hstem, hparent, hchildren]
  · exact L.root_lt
  · exact L.root_text
  · exact L.root_parent
  · exact Or.inl hslash
  · exact L.child_lt
  · exact L.child_parent
  · exact L.child_stem
  · exact L.child_text
  · exact L.has_parent
  · exact L.label
  · exact L.labels
  · exact L.ranks
  · exact L.takes
  · exact L.any_children

theorem Layout.withMaxParam {t : Tree α} {text : Nat → List Char} (L : t.Layout text) (n : Nat) :
    { t with maxParam := n }.Layout text := { L with }

/-! ## The first text -/

theorem Layout.fillRoot {t : Tree α} {text : Nat → List Char} (L : t.Layout text)
    (hstem : (t.node root).stem = []) {path : List Char} (hpath : path.head? = some '/')
    (hlit : Literal path) (m : Method) (handler : Option α) (leaf : Option Leaf) :
    (t.fillRoot .static path m handler leaf).Layout fun _ => path := by
  have hfresh := L.fresh hstem
  have hsize : (t.fillRoot .static path m handler leaf).nodes.size = 1 :=
    (size_fillRoot t _ m handler leaf path).trans hfresh.1
  have hroot : ∃ p, (t.fillRoot .static path m handler leaf).node root =
      (Node.new .static path none).bear p := by
    unfold Tree.fillRoot
    rw [node_modify_self t L.root_lt, hfresh.2]
    cases handler with
    | none => exact ⟨{}, rfl⟩
    | some h => cases leaf <;> exact ⟨⟨_, _⟩, rfl⟩
  generalize t.fillRoot .static path m handler leaf = t' at hsize hroot ⊢
  obtain ⟨p, hroot⟩ := hroot
  have hnode : ∀ k, (t'.node k).children = [] := by
    intro k
    by_cases hk : k = root
    · rw [hk, hroot]
      rfl
    · have := node_of_size_le t' (i := k) (by rw [hsize]; exact Nat.one_le_iff_ne_zero.mpr hk)
      rw [this]
      rfl
  have honly : ∀ {k}, k < t'.nodes.size → k = root := fun h => by
    rw [hsize] at h
    exact Nat.lt_one_iff.mp h
  have hno : ∀ {k c}, c ∉ (t'.node k).children := fun h => by
    rw [hnode] at h
    cases h
  exact
    { root_lt := by rw [hsize]; exact Nat.one_pos
      root_text := by rw [hroot]; rfl
      root_parent := by rw [hroot]; rfl
      root_stem := Or.inl (by rw [hroot]; exact hpath)
      child_lt := fun h => absurd h hno
      child_parent := fun h => absurd h hno
      child_stem := fun h => absurd h hno
      child_text := fun h => absurd h hno
      has_parent := fun hc hr => absurd (honly hc) hr
      label := fun hk => by rw [honly hk, hroot]; rfl
      labels := by intro k; rw [hnode]; exact List.Pairwise.nil
      ranks := by intro k; rw [hnode]; exact List.Pairwise.nil
      takes := fun hk => by rw [honly hk, hroot]; exact hlit
      any_children := fun _ => hnode _ }

end Tree

end Switchboard.Route
