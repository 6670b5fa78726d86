import Mathlib.Data.List.Nodup
import Mathlib.Data.List.Pairwise
import Switchboard.Proofs.Route.Shape
import Switchboard.Proofs.Route.Table

/-!
# Layouts

A table of nodes is a tree when every node can be given the text that leads to it from the root. Such
a layout is unique to the nodes (`text_inj`): the way to a text goes down through exactly the nodes
whose texts it starts with (`prefix_cases`).
-/

namespace Switchboard.Route

def Kind.Takes : Kind → List Char → Prop
  | static, s => Literal s
  | param, s => s = [':']
  | any, s => s = ['*']

theorem Kind.Takes.suffix {kind : Kind} {x s : List Char} (h : kind.Takes (x ++ s)) (hs : s ≠ []) :
    kind.Takes s := by
  have hone : ∀ c : Char, x ++ s = [c] → s = [c] := fun c h => by
    rcases List.append_eq_singleton_iff.mp h with ⟨_, h⟩ | ⟨_, h⟩
    · exact h
    · exact absurd h hs
  cases kind with
  | static => exact (literal_append.mp h).2
  | param => exact hone _ h
  | any => exact hone _ h

namespace Tree

variable {α : Type}

/-- `text` gives each node of the table the text from the root to its end. -/
structure Layout (t : Tree α) (text : Nat → List Char) : Prop where
  root_lt : root < t.nodes.size
  root_text : text root = (t.node root).stem
  root_parent : (t.node root).parent = none
  root_stem : (t.node root).stem.head? = some '/' ∨
    (t.nodes.size = 1 ∧ t.node root = Node.new .static [] none)
  child_lt : ∀ {i c}, c ∈ (t.node i).children → c < t.nodes.size
  child_parent : ∀ {i c}, c ∈ (t.node i).children → (t.node c).parent = some i
  child_stem : ∀ {i c}, c ∈ (t.node i).children → (t.node c).stem ≠ []
  child_text : ∀ {i c}, c ∈ (t.node i).children → text c = text i ++ (t.node c).stem
  has_parent : ∀ {c}, c < t.nodes.size → c ≠ root → ∃ i < t.nodes.size, c ∈ (t.node i).children
  label : ∀ {i}, i < t.nodes.size → (t.node i).label = firstOctet (t.node i).stem
  labels : ∀ {i}, (t.node i).children.Pairwise fun a b => (t.node a).label ≠ (t.node b).label
  ranks : ∀ {i}, (t.node i).children.Pairwise fun a b =>
    (t.node a).kind.rank ≤ (t.node b).kind.rank
  takes : ∀ {i}, i < t.nodes.size → (t.node i).kind.Takes (t.node i).stem
  any_children : ∀ {i}, (t.node i).kind = .any → (t.node i).children = []

namespace Layout

variable {t : Tree α} {text : Nat → List Char} (L : t.Layout text)
include L

theorem root_not_child {i : Nat} : root ∉ (t.node i).children := fun h => by
  have := L.child_parent h
  rw [L.root_parent] at this
  cases this

theorem child_unique {i k c : Nat} (hi : c ∈ (t.node i).children) (hk : c ∈ (t.node k).children) :
    i = k :=
  Option.some.inj ((L.child_parent hi).symm.trans (L.child_parent hk))

theorem child_length {i c : Nat} (h : c ∈ (t.node i).children) :
    (text i).length < (text c).length := by
  have := List.length_pos_iff.mpr (L.child_stem h)
  rw [L.child_text h, List.length_append]
  omega

theorem child_ne {i c : Nat} (h : c ∈ (t.node i).children) : c ≠ i := fun e => by
  subst e
  exact Nat.lt_irrefl _ (L.child_length h)

theorem child_prefix {i c : Nat} (h : c ∈ (t.node i).children) : text i <+: text c :=
  ⟨_, (L.child_text h).symm⟩

theorem descend {P : Nat → Prop} (hroot : P root)
    (hchild : ∀ i c, c ∈ (t.node i).children → i < t.nodes.size → P i → P c) :
    ∀ k < t.nodes.size, P k := by
  have key : ∀ n, ∀ k < t.nodes.size, (text k).length ≤ n → P k := by
    intro n
    induction n with
    | zero =>
      intro k hk hn
      rcases Classical.em (k = root) with rfl | hr; exact hroot
      obtain ⟨i, _, hc⟩ := L.has_parent hk hr
      have := L.child_length hc
      omega
    | succ n ih =>
      intro k hk hn
      rcases Classical.em (k = root) with rfl | hr; exact hroot
      obtain ⟨i, hi, hc⟩ := L.has_parent hk hr
      have := L.child_length hc
      exact hchild i k hc hi (ih i hi (by omega))
  exact fun k hk => key _ k hk (Nat.le_refl _)

theorem root_prefix : ∀ k < t.nodes.size, text root <+: text k :=
  L.descend (List.prefix_refl _) fun _ _ hc _ ih => ih.trans (L.child_prefix hc)

theorem text_eq {k : Nat} (hk : k < t.nodes.size) : ∃ u, text k = u ++ (t.node k).stem := by
  by_cases hr : k = root
  · exact ⟨[], hr ▸ L.root_text⟩
  · obtain ⟨i, _, hi⟩ := L.has_parent hk hr
    exact ⟨text i, L.child_text hi⟩

theorem child_eq_of_label {i c d : Nat} (hc : c ∈ (t.node i).children)
    (hd : d ∈ (t.node i).children) (h : (t.node c).label = (t.node d).label) : c = d := by
  have : Std.Symm fun a b => (t.node a).label ≠ (t.node b).label := ⟨fun _ _ h => h.symm⟩
  by_cases hne : c = d
  · exact hne
  · exact absurd h (L.labels.forall hc hd hne)

theorem label_of_prefix {i c : Nat} (hc : c ∈ (t.node i).children) {s : List Char}
    (h : text c <+: text i ++ s) : (t.node c).label = firstOctet s := by
  rw [L.child_text hc, List.prefix_append_right_inj] at h
  obtain ⟨r, rfl⟩ := h
  rw [L.label (L.child_lt hc)]
  cases hs : (t.node c).stem with
  | nil => exact absurd hs (L.child_stem hc)
  | cons b _ => rfl

theorem child_eq_of_prefix {i c d : Nat} (hc : c ∈ (t.node i).children)
    (hd : d ∈ (t.node i).children) {w : List Char} (hcw : text c <+: w) (hdw : text d <+: w) :
    c = d := by
  obtain ⟨s, rfl⟩ := (L.child_prefix hc).trans hcw
  exact L.child_eq_of_label hc hd ((L.label_of_prefix hc hcw).trans (L.label_of_prefix hd hdw).symm)

/-- A node whose text starts with that of another is this node, or stands below one of its
children. -/
theorem prefix_cases {i k : Nat} (hi : i < t.nodes.size) (hk : k < t.nodes.size)
    (h : text i <+: text k) : i = k ∨ ∃ c ∈ (t.node i).children, text c <+: text k := by
  have key : ∀ n, ∀ i < t.nodes.size, ∀ k < t.nodes.size, (text i).length + (text k).length ≤ n →
      text i <+: text k → i = k ∨ ∃ c ∈ (t.node i).children, text c <+: text k := by
    intro n
    induction n with
    | zero =>
      intro i hi k hk hn h
      rcases Classical.em (k = root) with rfl | hkr
      · rcases Classical.em (i = root) with rfl | hir; exact Or.inl rfl
        obtain ⟨p, _, hp⟩ := L.has_parent hi hir
        have := L.child_length hp
        omega
      · obtain ⟨r, _, hr⟩ := L.has_parent hk hkr
        have := L.child_length hr
        omega
    | succ n ih =>
      intro i hi k hk hn h
      rcases Classical.em (k = root) with rfl | hkr
      · rcases Classical.em (i = root) with rfl | hir; exact Or.inl rfl
        obtain ⟨p, hp, hpi⟩ := L.has_parent hi hir
        have := L.child_length hpi
        have := (L.root_prefix p hp).length_le
        have := h.length_le
        omega
      obtain ⟨r, hr, hrk⟩ := L.has_parent hk hkr
      have hrk_len := L.child_length hrk
      rcases Nat.lt_or_ge (text r).length (text i).length with hlt | hle
      · -- the text of `i` ends inside the stem of `k`
        have hri : text r <+: text i :=
          List.prefix_of_prefix_length_le (L.child_prefix hrk) h (Nat.le_of_lt hlt)
        have hki : text k <+: text i := by
          rcases ih r hr i hi (by omega) hri with rfl | ⟨c, hc, hci⟩
          · exact absurd hlt (Nat.lt_irrefl _)
          · rwa [← L.child_eq_of_prefix hc hrk (hci.trans h) (List.prefix_refl _)]
        have hik : text i = text k := h.eq_of_length_le hki.length_le
        have hir : i ≠ root := by
          rintro rfl
          have := (L.root_prefix r hr).length_le
          omega
        obtain ⟨p, hp, hpi⟩ := L.has_parent hi hir
        have hpi_len := L.child_length hpi
        have hik_len := congrArg List.length hik
        have hpk : text p <+: text k := hik ▸ L.child_prefix hpi
        rcases Nat.le_total (text p).length (text r).length with hpr | hrp
        · have hpre := List.prefix_of_prefix_length_le hpk (L.child_prefix hrk) hpr
          rcases ih p hp r hr (by omega) hpre with rfl | ⟨c, hc, hcr⟩
          · exact Or.inl (L.child_eq_of_prefix hpi hrk h (List.prefix_refl _))
          · have := L.child_eq_of_prefix hc hpi (hcr.trans (L.child_prefix hrk)) h
            subst this
            have := hcr.length_le
            omega
        · have hpre := List.prefix_of_prefix_length_le (L.child_prefix hrk) hpk hrp
          rcases ih r hr p hp (by omega) hpre with rfl | ⟨c, hc, hcp⟩
          · exact Or.inl (L.child_eq_of_prefix hpi hrk h (List.prefix_refl _))
          · have := L.child_eq_of_prefix hc hrk (hcp.trans hpk) (List.prefix_refl _)
            subst this
            have := hcp.length_le
            omega
      · have hir : text i <+: text r :=
          List.prefix_of_prefix_length_le h (L.child_prefix hrk) hle
        rcases ih i hi r hr (by omega) hir with rfl | ⟨c, hc, hcr⟩
        · exact Or.inr ⟨k, hrk, List.prefix_refl _⟩
        · exact Or.inr ⟨c, hc, hcr.trans (L.child_prefix hrk)⟩
  exact key _ i hi k hk (Nat.le_refl _) h

theorem text_inj {i k : Nat} (hi : i < t.nodes.size) (hk : k < t.nodes.size)
    (h : text i = text k) : i = k := by
  rcases L.prefix_cases hi hk (h ▸ List.prefix_refl _) with e | ⟨c, hc, hck⟩
  · exact e
  · have := L.child_length hc
    have := hck.length_le
    rw [← h] at this
    omega

end Layout

/-! ## What stands below a node -/

def below (t : Tree α) (text : Nat → List Char) (i : Nat) : List Nat :=
  (List.range t.nodes.size).filter fun k => text i <+: text k

theorem mem_below {t : Tree α} {text : Nat → List Char} {i k : Nat} :
    k ∈ t.below text i ↔ k < t.nodes.size ∧ text i <+: text k := by
  rw [below, List.mem_filter, List.mem_range, decide_eq_true_eq]

theorem nodup_below (t : Tree α) (text : Nat → List Char) (i : Nat) : (t.below text i).Nodup :=
  List.nodup_range.filter _

namespace Layout

variable {t : Tree α} {text : Nat → List Char} (L : t.Layout text)
include L

theorem nodup_children (i : Nat) : (t.node i).children.Nodup :=
  L.labels.imp fun h e => h (congrArg (fun c => (t.node c).label) e)

theorem below_perm {i : Nat} (hi : i < t.nodes.size) :
    (t.below text i).Perm (i :: (t.node i).children.flatMap (t.below text)) := by
  have hnodup : (i :: (t.node i).children.flatMap (t.below text)).Nodup := by
    refine List.nodup_cons.mpr ⟨fun h => ?_, List.nodup_flatMap.mpr ⟨fun c _ => ?_, ?_⟩⟩
    · obtain ⟨c, hc, hk⟩ := List.mem_flatMap.mp h
      have := (mem_below.mp hk).2.length_le
      have := L.child_length hc
      omega
    · exact nodup_below t text c
    · refine (L.nodup_children i).imp_of_mem fun hc hd hne => ?_
      intro k hkc hkd
      exact hne (L.child_eq_of_prefix hc hd (mem_below.mp hkc).2 (mem_below.mp hkd).2)
  refine (List.perm_ext_iff_of_nodup (nodup_below t text i) hnodup).mpr fun k => ?_
  rw [mem_below, List.mem_cons, List.mem_flatMap]
  constructor
  · intro ⟨hk, hik⟩
    rcases L.prefix_cases hi hk hik with rfl | ⟨c, hc, hck⟩
    · exact Or.inl rfl
    · exact Or.inr ⟨c, hc, mem_below.mpr ⟨hk, hck⟩⟩
  · rintro (rfl | ⟨c, hc, hk⟩)
    · exact ⟨hi, List.prefix_refl _⟩
    · exact ⟨(mem_below.mp hk).1, (L.child_prefix hc).trans (mem_below.mp hk).2⟩

theorem length_below_lt {i c : Nat} (hc : c ∈ (t.node i).children) :
    (t.below text c).length < (t.below text i).length := by
  have h := List.sublist_flatten_of_mem (List.mem_map_of_mem (f := t.below text) hc)
  rw [(L.below_perm (lt_size_of_mem_children t hc)).length_eq, List.length_cons, List.flatMap_def]
  exact Nat.lt_succ_of_le h.length_le

theorem below_root : t.below text root = List.range t.nodes.size :=
  List.filter_eq_self.mpr fun k hk => decide_eq_true (L.root_prefix k (List.mem_range.mp hk))

end Layout

end Tree

end Switchboard.Route
