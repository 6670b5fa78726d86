import Switchboard.Proofs.Route.Steps

/-!
# Insertion

A text is put into the tree by at most one split and one new node. What is registered changes at this
text only, and a refused text leaves the tree as it was.
-/

namespace Switchboard.Route

namespace Tree

variable {α : Type}

/-- `t'` has come from `t` by putting in `path`, and `f` has changed what is registered there. -/
structure Grows (t : Tree α) (text : Nat → List Char) (path : List Char)
    (f : Payload α → Payload α) (t' : Tree α) (text' : Nat → List Char) : Prop where
  layout : t'.Layout text'
  keeps : ∀ k < t.nodes.size, text k ≠ [] → ∃ k' < t'.nodes.size, text' k' = text k
  texts : ∀ k < t'.nodes.size, text' k <+: path ∨ ∃ j < t.nodes.size, text' k <+: text j
  payload : ∀ w, t'.payload text' w = if w = path then f (t.payload text w) else t.payload text w

namespace Grows

theorem refl {t : Tree α} {text : Nat → List Char} (L : t.Layout text) (path : List Char) :
    t.Grows text path id t text where
  layout := L
  keeps := fun k hk _ => ⟨k, hk, rfl⟩
  texts := fun k hk => Or.inr ⟨k, hk, List.prefix_refl _⟩
  payload := fun w => by simp

theorem trans {t t₁ t₂ : Tree α} {text text₁ text₂ : Nat → List Char} {p₁ p : List Char}
    {f : Payload α → Payload α} (h₁ : t.Grows text p₁ id t₁ text₁) (hp : p₁ <+: p)
    (h₂ : t₁.Grows text₁ p f t₂ text₂) : t.Grows text p f t₂ text₂ where
  layout := h₂.layout
  keeps := fun k hk hne => by
    obtain ⟨k₁, hk₁, e₁⟩ := h₁.keeps k hk hne
    obtain ⟨k₂, hk₂, e₂⟩ := h₂.keeps k₁ hk₁ (e₁ ▸ hne)
    exact ⟨k₂, hk₂, e₂.trans e₁⟩
  texts := fun k hk => by
    rcases h₂.texts k hk with h | ⟨j, hj, h⟩
    · exact Or.inl h
    · rcases h₁.texts j hj with hj | ⟨j', hj', h'⟩
      · exact Or.inl (h.trans (hj.trans hp))
      · exact Or.inr ⟨j', hj', h.trans h'⟩
  payload := fun w => by
    have h : t₁.payload text₁ w = t.payload text w := by
      rw [h₁.payload w]
      exact ite_self _
    rw [h₂.payload w, h]

section steps

variable {t : Tree α} {text : Nat → List Char} (L : t.Layout text) {i : Nat}
  (hi : i < t.nodes.size)
include L hi

theorem newLeaf (kind : Kind) {stem : List Char} (m : Method) (placed : Option (α × Leaf))
    (hstem : stem ≠ []) (htakes : kind.Takes stem) (hany : (t.node i).kind ≠ .any)
    (hslash : (t.node i).stem ≠ [])
    (hlabel : ∀ c ∈ (t.node i).children, (t.node c).label ≠ firstOctet stem) :
    t.Grows text (text i ++ stem) (·.offer m placed)
      (t.newLeaf i kind stem m (placed.map Prod.fst) (placed.map Prod.snd))
      (t.extend text (text i ++ stem)) := by
  have hnew : ∀ k < t.nodes.size, text k ≠ text i ++ stem := by
    intro k hk e
    rcases L.prefix_cases hi hk (e ▸ List.prefix_append _ _) with rfl | ⟨c, hc, hck⟩
    · exact hstem (List.append_right_eq_self.mp e.symm)
    · exact hlabel c hc (L.label_of_prefix hc (e ▸ hck))
  have L' := L.newLeaf hi kind stem m (placed.map Prod.fst) (placed.map Prod.snd) hstem htakes hany
    hslash hlabel
  refine ⟨L', ?keeps, ?texts, L'.payload_ext ?node ?none⟩
  case keeps =>
    intro k hk _
    rw [size_newLeaf]
    exact ⟨k, Nat.lt_succ_of_lt hk, extend_of_lt hk _ _⟩
  case texts =>
    intro k hk
    rw [size_newLeaf] at hk
    rcases Nat.lt_succ_iff_lt_or_eq.mp hk with hk | rfl
    · exact Or.inr ⟨k, hk, by simp [extend_of_lt hk]⟩
    · exact Or.inl (by simp [extend_self])
  case node =>
    intro k hk
    rw [size_newLeaf] at hk
    rcases Nat.lt_succ_iff_lt_or_eq.mp hk with hk | rfl
    · rw [extend_of_lt hk, if_neg (hnew k hk), L.payload_text hk,
        node_newLeaf_of_lt t i kind stem m _ _ hi hk]
      rfl
    · rw [extend_self, if_pos rfl, payload_of_forall_ne hnew, node_newLeaf_self _ _ _ _ _ _ _ hi]
      cases placed <;> rfl
  case none =>
    intro w hw
    rw [size_newLeaf] at hw
    have hne : w ≠ text i ++ stem := fun e =>
      hw _ (Nat.lt_succ_self _) ((extend_self _ _ _).trans e.symm)
    rw [if_neg hne]
    refine payload_of_forall_ne fun k hk e => hw k (Nat.lt_succ_of_lt hk) ?_
    rwa [extend_of_lt hk]

theorem split {u keep rest : List Char} (hu : text i = u ++ (t.node i).stem)
    (hstem : (t.node i).stem = keep ++ rest) (hkeep : keep ≠ []) (hrest : rest ≠ []) :
    t.Grows text (u ++ keep) id (t.split i keep rest) (t.cut text i (u ++ keep)) := by
  have hkids : ∀ c ∈ (t.node i).children, c < t.nodes.size ∧ c ≠ i := fun c hc =>
    ⟨L.child_lt hc, L.child_ne hc⟩
  have hlen : (u ++ keep).length < (text i).length := by
    have := List.length_pos_iff.mpr hrest
    rw [hu, hstem]
    simp only [List.length_append]
    omega
  have hpre : u ++ keep <+: text i := by
    rw [hu, hstem, ← List.append_assoc]
    exact List.prefix_append _ _
  have hnew : ∀ k < t.nodes.size, text k ≠ u ++ keep := by
    intro k hk e
    have hlt : u.length < (u ++ keep).length := by
      have := List.length_pos_iff.mpr hkeep
      rw [List.length_append]
      omega
    have h := (L.enters hi hk hu hpre hlt (e ▸ List.prefix_refl _)).length_le
    rw [e] at h
    omega
  have L' := L.split hi hu hstem hkeep hrest
  refine ⟨L', ?keeps, ?texts, L'.payload_ext ?node ?none⟩
  case keeps =>
    intro k hk _
    rw [size_split]
    by_cases hki : k = i
    · subst hki
      exact ⟨_, Nat.lt_succ_self _, cut_last _ _ _ _⟩
    · exact ⟨k, Nat.lt_succ_of_lt hk, cut_of_ne hk hki _ _⟩
  case texts =>
    intro k hk
    rw [size_split] at hk
    rcases Nat.lt_succ_iff_lt_or_eq.mp hk with hk | rfl
    · by_cases hki : k = i
      · subst hki
        exact Or.inl (by simp [cut_self hk])
      · exact Or.inr ⟨k, hk, by simp [cut_of_ne hk hki]⟩
    · exact Or.inr ⟨i, hi, by simp [cut_last]⟩
  case node =>
    intro k hk
    rw [size_split] at hk
    simp only [id, ite_self]
    rcases Nat.lt_succ_iff_lt_or_eq.mp hk with hk | rfl
    · by_cases hki : k = i
      · subst hki
        rw [cut_self hk, payload_of_forall_ne hnew, node_split_self _ _ hk hkids]
        rfl
      · rw [cut_of_ne hk hki, L.payload_text hk, node_split_of_ne _ _ hi hkids hk hki]
        rfl
    · rw [cut_last, L.payload_text hi, node_split_last _ _ hi hkids]
      rfl
  case none =>
    intro w hw
    rw [size_split] at hw
    simp only [id, ite_self]
    refine payload_of_forall_ne fun k hk e => ?_
    by_cases hki : k = i
    · subst hki
      exact hw _ (Nat.lt_succ_self _) ((cut_last _ _ _ _).trans e)
    · exact hw k (Nat.lt_succ_of_lt hk) ((cut_of_ne hk hki _ _).trans e)

theorem modify {f : Payload α → Payload α} {g : Node α → Node α}
    (hg : g (t.node i) = (t.node i).bear (f (t.node i).payload)) (hslash : (t.node i).stem ≠ []) :
    t.Grows text (text i) f (t.modify i g) text := by
  have hsize := size_modify t i g
  have hbear : ∀ k, ∃ p, (t.modify i g).node k = (t.node k).bear p := by
    intro k
    by_cases hki : k = i
    · subst hki
      exact ⟨_, (node_modify_self t hi g).trans hg⟩
    · exact ⟨(t.node k).payload, node_modify_ne t hki g⟩
  have L' := L.bear (L.slash hi hslash) hsize hbear
  refine ⟨L', ?keeps, ?texts, L'.payload_ext ?node ?none⟩
  case keeps => exact fun k hk _ => ⟨k, by rwa [hsize], rfl⟩
  case texts => exact fun k hk => Or.inr ⟨k, by rwa [hsize] at hk, List.prefix_refl _⟩
  case node =>
    intro k hk
    rw [hsize] at hk
    by_cases hki : k = i
    · subst hki
      rw [if_pos rfl, L.payload_text hk, node_modify_self t hk, hg]
      rfl
    · rw [if_neg fun e => hki (L.text_inj hk hi e), L.payload_text hk, node_modify_ne t hki]
  case none =>
    intro w hw
    rw [hsize] at hw
    rw [if_neg fun e => hw i hi e.symm, payload_of_forall_ne hw]

end steps

theorem fillRoot {t : Tree α} {text : Nat → List Char} (L : t.Layout text) {path : List Char}
    (m : Method) (placed : Option (α × Leaf)) (hstem : (t.node root).stem = [])
    (hpath : path.head? = some '/') (hlit : Literal path) :
    t.Grows text path (·.offer m placed)
      (t.fillRoot .static path m (placed.map Prod.fst) (placed.map Prod.snd)) fun _ => path := by
  have hfresh := L.fresh hstem
  have honly : ∀ {k}, k < t.nodes.size → k = root := fun h => by
    rw [hfresh.1] at h
    exact Nat.lt_one_iff.mp h
  have hnone : ∀ w, t.payload text w = {} := by
    refine L.payload_ext (F := fun _ => {}) ?_ fun _ _ => rfl
    intro k hk
    rw [honly hk, hfresh.2]
    rfl
  have hsize := size_fillRoot t .static m (placed.map Prod.fst) (placed.map Prod.snd) path
  have L' := L.fillRoot hstem hpath hlit m (placed.map Prod.fst) (placed.map Prod.snd)
  refine ⟨L', ?keeps, ?texts, L'.payload_ext ?node ?none⟩
  case keeps =>
    intro k hk hne
    rw [honly hk, L.root_text, hstem] at hne
    exact absurd rfl hne
  case texts => exact fun k hk => Or.inl (List.prefix_refl _)
  case node =>
    intro k hk
    rw [hsize] at hk
    rw [if_pos rfl, hnone, honly hk]
    unfold Tree.fillRoot
    rw [node_modify_self t L.root_lt, hfresh.2]
    cases placed <;> rfl
  case none =>
    intro w hw
    rw [hsize] at hw
    rw [if_neg (hw root L.root_lt).symm, hnone]

end Grows

/-! ## The texts that are put in -/

/-- A text that may be put in: what stands before its last piece has a node, so that this piece is all
that a new node can take. -/
structure Admits (t : Tree α) (text : Nat → List Char) (kind : Kind) (path : List Char) : Prop where
  slash : path.head? = some '/'
  base : ∃ b tail, path = b ++ tail ∧ kind.Takes tail ∧ '*' ∉ b ∧
    (b = [] ∨ ∃ k < t.nodes.size, text k = b)

namespace Admits

variable {t : Tree α} {text : Nat → List Char} {kind : Kind} {path : List Char}
  (A : t.Admits text kind path)
include A

theorem takes_todo {w todo : List Char} (hpath : path = w ++ todo) (hw : w ≠ []) (htodo : todo ≠ [])
    (hgap : ∀ k < t.nodes.size, w <+: text k → text k <+: path → text k = w) : kind.Takes todo := by
  obtain ⟨b, tail, hb, htakes, _, hbase⟩ := A.base
  have hbp : b <+: path := ⟨tail, hb.symm⟩
  have hwp : w <+: path := ⟨todo, hpath.symm⟩
  suffices h : ∃ x, tail = x ++ todo by
    obtain ⟨x, rfl⟩ := h
    exact htakes.suffix htodo
  rcases Nat.le_total b.length w.length with hle | hle
  · obtain ⟨x, rfl⟩ := List.prefix_of_prefix_length_le hbp hwp hle
    refine ⟨x, ?_⟩
    rw [hb, List.append_assoc] at hpath
    exact List.append_cancel_left hpath
  · have hwb := List.prefix_of_prefix_length_le hwp hbp hle
    rcases hbase with rfl | ⟨k, hk, rfl⟩
    · exact absurd (List.prefix_nil.mp hwb) hw
    · have he := hgap k hk hwb hbp
      refine ⟨[], ?_⟩
      rw [hb, he] at hpath
      exact List.append_cancel_left hpath

theorem star_last {u todo : List Char} (hpath : path = u ++ '*' :: todo) : todo = [] := by
  obtain ⟨b, tail, hb, htakes, hstar, _⟩ := A.base
  suffices h : ∃ x, tail = x ++ '*' :: todo by
    obtain ⟨x, rfl⟩ := h
    have h := htakes.suffix (List.cons_ne_nil _ _)
    cases kind with
    | static => exact absurd List.mem_cons_self h.2
    | param => cases h
    | any => exact List.tail_eq_of_cons_eq h
  rw [hb] at hpath
  rcases List.append_eq_append_iff.mp hpath with ⟨x, _, h⟩ | ⟨x, rfl, h⟩
  · exact ⟨x, h⟩
  · cases x with
    | nil => exact ⟨[], h.symm⟩
    | cons c x =>
      cases h
      simp at hstar

theorem static_of_literal {u s : List Char} (hpath : path = u ++ s) (hs : s ≠ []) (hlit : Literal s) :
    kind = .static := by
  obtain ⟨b, tail, hb, htakes, _⟩ := A.base
  have hmem : ∀ c, tail = [c] → c ∈ s := by
    rintro c rfl
    have h := congrArg List.getLast? (hb.symm.trans hpath)
    rw [List.getLast?_append_of_ne_nil _ (List.cons_ne_nil _ _),
      List.getLast?_append_of_ne_nil _ hs] at h
    exact List.mem_of_getLast? h.symm
  cases kind with
  | static => rfl
  | param => exact absurd (hmem _ htakes) hlit.1
  | any => exact absurd (hmem _ htakes) hlit.2

end Admits

/-! ## The walk -/

theorem Layout.no_gap {t : Tree α} {text : Nat → List Char} (L : t.Layout text) {i : Nat}
    (hi : i < t.nodes.size) {path todo : List Char} (hpath : path = text i ++ todo)
    (hchild : ∀ c ∈ (t.node i).children, (t.node c).label ≠ firstOctet todo) {k : Nat}
    (hk : k < t.nodes.size) (hik : text i <+: text k) (hkp : text k <+: path) : text k = text i := by
  rcases L.prefix_cases hi hk hik with rfl | ⟨c, hc, hck⟩
  · rfl
  · exact absurd (L.label_of_prefix hc (hpath ▸ hck.trans hkp)) (hchild c hc)

theorem Admits.grow {t t' : Tree α} {text text' : Nat → List Char} {kind : Kind}
    {path p : List Char} {f : Payload α → Payload α} (A : t.Admits text kind path)
    (G : t.Grows text p f t' text') : t'.Admits text' kind path := by
  obtain ⟨b, tail, hb, htakes, hstar, hbase⟩ := A.base
  refine ⟨A.slash, b, tail, hb, htakes, hstar, ?_⟩
  by_cases hne : b = []
  · exact Or.inl hne
  · obtain ⟨k, hk, rfl⟩ := hbase.resolve_left hne
    exact Or.inr (G.keeps k hk hne)

theorem common_spec {as bs c x y : List Char} (h : common as bs = (c, x, y)) :
    as = c ++ x ∧ bs = c ++ y := by
  have := common_append as bs
  rw [h] at this
  exact ⟨this.1.symm, this.2.symm⟩

theorem firstOctet_ne_of_partInside {x y : List Char} (h : ¬ partInside x y = true) (hx : x ≠ [])
    (hy : y ≠ []) : firstOctet x ≠ firstOctet y := fun e => by
  simp [partInside, hx, hy, e] at h

def Inserted (t : Tree α) (text : Nat → List Char) (path : List Char)
    (f : Payload α → Payload α) : Tree α × Option Refusal → Prop
  | (t', none) => ∃ text', t.Grows text path f t' text' ∧ ∃ k < t'.nodes.size, text' k = path
  | (t', some _) => t'.nodes = t.nodes

section walk

variable {t : Tree α} {text : Nat → List Char} (L : t.Layout text) {kind : Kind} {path : List Char}
  (A : t.Admits text kind path) (m : Method) (placed : Option (α × Leaf))
include L

theorem insertAt_update {i : Nat} (hi : i < t.nodes.size) (hslash : (t.node i).stem ≠ [])
    (hpath : path = text i) :
    t.Inserted text path (·.offer m placed)
      (t.update i m (placed.map Prod.fst) (placed.map Prod.snd), none) := by
  cases placed with
  | none => exact ⟨text, Grows.refl L path, i, hi, hpath.symm⟩
  | some r =>
    have G := Grows.modify L hi (f := (·.offer m (some r)))
      (g := fun n =>
        { n.setHandler m r.1 with
          leaf := ⟨r.2.template, if n.leaf.names.isEmpty then r.2.names else n.leaf.names⟩ }) rfl hslash
    rw [← hpath] at G
    exact ⟨text, G, i, (size_modify t i _).symm ▸ hi, hpath.symm⟩

include A

theorem insertAt_newLeaf {i : Nat} (hi : i < t.nodes.size) {u todo : List Char}
    (hu : text i = u ++ (t.node i).stem) (hstem : (t.node i).stem ≠ []) (hpath : path = text i ++ todo)
    (htodo : todo ≠ []) (hchild : ∀ c ∈ (t.node i).children, (t.node c).label ≠ firstOctet todo) :
    t.Inserted text path (·.offer m placed)
      (t.newLeaf i kind todo m (placed.map Prod.fst) (placed.map Prod.snd), none) := by
  have htext : text i ≠ [] := by simp [hu, hstem]
  have htakes := A.takes_todo hpath htext htodo fun k hk => L.no_gap hi hpath hchild hk
  have hany : (t.node i).kind ≠ .any := by
    intro h
    have hs := L.takes hi
    rw [h] at hs
    rw [hu, show (t.node i).stem = ['*'] from hs, List.append_assoc] at hpath
    exact htodo (A.star_last hpath)
  have G := Grows.newLeaf L hi kind m placed htodo htakes hany hstem hchild
  rw [← hpath] at G
  refine ⟨_, G, t.nodes.size, ?_, extend_self _ _ _⟩
  rw [size_newLeaf]
  exact Nat.lt_succ_self _

section split

variable {i : Nat} (hi : i < t.nodes.size) {u keep rest : List Char}
  (hu : text i = u ++ (t.node i).stem) (hstem : (t.node i).stem = keep ++ rest) (hkeep : keep ≠ [])
  (hrest : rest ≠ [])
include hi hu hstem hkeep hrest

theorem insertAt_split_here (hpath : path = u ++ keep) :
    t.Inserted text path (·.offer m placed)
      ((t.split i keep rest).modify i fun n =>
        ({ n with kind }.offer m (placed.map Prod.fst)).describe (placed.map Prod.snd), none) := by
  have hkids : ∀ c ∈ (t.node i).children, c < t.nodes.size ∧ c ≠ i := fun c hc =>
    ⟨L.child_lt hc, L.child_ne hc⟩
  have hlit : Literal keep := by
    have h := L.takes hi
    rw [L.static_of_split hi hstem hkeep hrest, hstem] at h
    exact (literal_append.mp h).1
  have hkind := A.static_of_literal hpath hkeep hlit
  have G := Grows.split L hi hu hstem hkeep hrest
  have hi₁ : i < (t.split i keep rest).nodes.size := by
    rw [size_split]; exact Nat.lt_succ_of_lt hi
  have hself := node_split_self keep rest hi hkids
  have G₂ := Grows.modify G.layout hi₁ (f := (·.offer m placed))
    (g := fun n => ({ n with kind }.offer m (placed.map Prod.fst)).describe (placed.map Prod.snd))
    (by rw [hself, hkind]; cases placed <;> rfl) (by rw [hself]; exact hkeep)
  rw [cut_self hi, ← hpath] at G₂
  rw [← hpath] at G
  exact ⟨_, G.trans (List.prefix_refl _) G₂, i, by rwa [size_modify], cut_self hi _ _⟩

theorem insertAt_split_newLeaf {todo : List Char} (hpath : path = u ++ keep ++ todo)
    (htodo : todo ≠ []) (hne : firstOctet todo ≠ firstOctet rest) :
    t.Inserted text path (·.offer m placed)
      ((t.split i keep rest).newLeaf i kind todo m (placed.map Prod.fst) (placed.map Prod.snd),
        none) := by
  have hkids : ∀ c ∈ (t.node i).children, c < t.nodes.size ∧ c ≠ i := fun c hc =>
    ⟨L.child_lt hc, L.child_ne hc⟩
  have G := Grows.split L hi hu hstem hkeep hrest
  have hi₁ : i < (t.split i keep rest).nodes.size := by
    rw [size_split]; exact Nat.lt_succ_of_lt hi
  have hself := node_split_self keep rest hi hkids
  have hlast := node_split_last keep rest hi hkids
  have htext := cut_self hi text (u ++ keep)
  obtain ⟨text₂, G₂, hk⟩ := insertAt_newLeaf G.layout (A.grow G) m placed hi₁
    (by rw [htext, hself]; rfl) (by rw [hself]; exact hkeep) (by rw [htext, hpath]) htodo
    (by
      intro c hc
      rw [hself] at hc
      rw [List.mem_singleton.mp hc, hlast]
      exact hne.symm)
  exact ⟨text₂, G.trans (hpath ▸ List.prefix_append _ _) G₂, hk⟩

end split

theorem insertAt_fillRoot (hstem : (t.node root).stem = []) :
    t.Inserted text path (·.offer m placed)
      (t.fillRoot kind path m (placed.map Prod.fst) (placed.map Prod.snd), none) := by
  obtain ⟨b, tail, hb, htakes, _, hbase⟩ := A.base
  have hnil : b = [] := by
    rcases hbase with rfl | ⟨k, hk, rfl⟩
    · rfl
    · rw [(L.fresh hstem).1] at hk
      rw [Nat.lt_one_iff.mp hk, ← hstem]
      exact L.root_text
  subst hnil
  rw [List.nil_append] at hb
  subst hb
  have hslash := A.slash
  cases kind with
  | static =>
    refine ⟨_, Grows.fillRoot L m placed hstem hslash htakes, root, ?_, rfl⟩
    rw [size_fillRoot]
    exact L.root_lt
  | param => rw [show path = [':'] from htakes] at hslash; cases hslash
  | any => rw [show path = ['*'] from htakes] at hslash; cases hslash

theorem insertAt_inserted (i : Nat) (todo u : List Char) (hi : i < t.nodes.size)
    (hu : text i = u ++ (t.node i).stem) (hpath : path = u ++ todo) :
    t.Inserted text path (·.offer m placed)
      (t.insertAt path m (placed.map Prod.fst) kind (placed.map Prod.snd) i todo) := by
  -- `u` is what has been read before node `i`; it grows by the stem where the walk goes on
  fun_induction insertAt t path m (placed.map Prod.fst) kind (placed.map Prod.snd) i todo
    generalizing u with
  | case1 => rfl
  | case2 => rfl
  | case3 i todo n todo' stem' _ hroot _ =>
    simp only [not_or, not_not] at hroot
    obtain ⟨rfl, hstem, _⟩ := hroot
    exact insertAt_fillRoot L A m placed hstem
  | case4 i todo n shared stem' hshared hstem' t' hcommon _ =>
    obtain ⟨rfl, hstem⟩ := common_spec hcommon
    rw [List.append_nil] at hpath
    exact insertAt_split_here L A m placed hi hu hstem hshared hstem' hpath
  | case5 i todo n shared todo' stem' hcommon hpart hshared hstem' t' htodo' =>
    obtain ⟨rfl, hstem⟩ := common_spec hcommon
    rw [← List.append_assoc] at hpath
    exact insertAt_split_newLeaf L A m placed hi hu hstem hshared hstem' hpath htodo'
      (firstOctet_ne_of_partInside hpart htodo' hstem')
  | case6 i todo n shared todo' stem' hcommon _ hshared hstem' htodo' c hc ih =>
    obtain ⟨rfl, hstem⟩ := common_spec hcommon
    rw [not_not.mp hstem', List.append_nil] at hstem
    have hc := List.mem_of_find?_eq_some hc
    refine ih (text i) (L.child_lt hc) (L.child_text hc) ?_
    rw [hpath, hu, hstem, List.append_assoc]
  | case7 i todo n shared todo' stem' hcommon _ hshared hstem' htodo' hc =>
    obtain ⟨rfl, hstem⟩ := common_spec hcommon
    rw [not_not.mp hstem', List.append_nil] at hstem
    refine insertAt_newLeaf L A m placed hi hu (hstem ▸ hshared) ?_ htodo' ?_
    · rw [hpath, hu, hstem, List.append_assoc]
    · intro c hmem e
      exact List.find?_eq_none.mp hc c hmem (beq_iff_eq.mpr e)
  | case8 i todo n shared todo' stem' hcommon _ hshared hstem' htodo' =>
    obtain ⟨rfl, hstem⟩ := common_spec hcommon
    rw [not_not.mp hstem', List.append_nil] at hstem
    refine insertAt_update L m placed hi (hstem ▸ hshared) ?_
    rw [hpath, hu, hstem, not_not.mp htodo', List.append_nil]



theorem insert_inserted :
    t.Inserted text path (·.offer m placed)
      (t.insert path m (placed.map Prod.fst) kind (placed.map Prod.snd)) := by
  have h := fun n => insertAt_inserted (L.withMaxParam n) ⟨A.slash, A.base⟩ m placed root path []
    L.root_lt L.root_text rfl
  have hsame : ∀ n r, { t with maxParam := n }.Inserted text path (·.offer m placed) r →
      t.Inserted text path (·.offer m placed) r
    | n, (t', none), ⟨text', G, hk⟩ => ⟨text', ⟨G.layout, G.keeps, G.texts, G.payload⟩, hk⟩
    | n, (t', some _), h => h
  cases placed with
  | none => exact hsame t.maxParam _ (h t.maxParam)
  | some r => exact hsame _ _ (h _)

end walk

theorem maxParam_insertAt (t : Tree α) (path : List Char) (m : Method) (handler : Option α)
    (kind : Kind) (leaf : Option Leaf) (i : Nat) (todo : List Char) :
    (t.insertAt path m handler kind leaf i todo).1.maxParam = t.maxParam := by
  fun_induction insertAt t path m handler kind leaf i todo with
  | case1 | case2 | case3 | case7 => rfl
  | case4 i todo n shared stem' _ _ t' =>
    exact (maxParam_modify t' i _).trans (maxParam_split t i shared stem')
  | case5 i todo n shared todo' stem' _ _ _ _ t' =>
    exact (maxParam_newLeaf t' i kind todo' m handler leaf).trans (maxParam_split t i shared stem')
  | case6 => assumption
  | case8 => exact maxParam_update t _ m handler leaf

theorem maxParam_insert (t : Tree α) (path : List Char) (m : Method) (handler : Option α)
    (kind : Kind) (leaf : Option Leaf) :
    (t.insert path m handler kind leaf).1.maxParam =
      max t.maxParam ((leaf.map fun l => l.names.length).getD 0) := by
  unfold insert
  rw [maxParam_insertAt]
  cases leaf <;> simp

end Tree

end Switchboard.Route
