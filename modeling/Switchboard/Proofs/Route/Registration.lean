import Switchboard.Proofs.Route.Insertion

/-!
# Registration

A registration changes what is registered at the shape of its pattern and nowhere else, by whatever
splits its texts come into the tree. One that is refused changes nothing that is registered.
-/

namespace Switchboard.Route

structure Registration (α : Type) where
  method : Method
  pattern : String
  handler : α

namespace Registration

variable {α : Type} (r : Registration α)

def path : List Char := Tree.normalize r.pattern.toList

def shape : List Char := Route.shape r.path

/-- The pattern with a slash in front, and the names of its parameters. -/
def leaf : Leaf := ⟨String.ofList r.path, paramNames r.path⟩

end Registration

def Registration.place {α : Type} (r : Registration α) (w : List Char) (p : Payload α) : Payload α :=
  if r.shape = w then p.put r.method r.handler r.leaf else p

def registered {α : Type} (rs : List (Registration α)) (w : List Char) : Payload α :=
  rs.foldl (fun p r => r.place w p) {}

theorem normalize_slash (p : List Char) : ∃ rest, Tree.normalize p = '/' :: rest := by
  unfold Tree.normalize
  split
  · exact ⟨_, rfl⟩
  · exact ⟨p, rfl⟩

namespace Payload

variable {α : Type}

def live (p : Payload α) : Bool := Method.all.any fun m => (p.handlers m).isSome

theorem live_iff {p : Payload α} : p.live = true ↔ ∃ m, (p.handlers m).isSome := by
  simp [live, Method.mem_all]

theorem live_put (p : Payload α) (m : Method) (h : α) (l : Leaf) : (p.put m h l).live = true :=
  live_iff.mpr ⟨m, by simp [put]⟩

theorem not_live_default : ({} : Payload α).live = false := by
  simp [live]

end Payload

theorem Node.hasHandlers_eq {α : Type} (n : Node α) : n.hasHandlers = n.payload.live := rfl

namespace Tree

variable {α : Type}

/-! ## Texts with a star -/

theorem Layout.star_last {t : Tree α} {text : Nat → List Char} (L : t.Layout text) :
    ∀ k < t.nodes.size, ∀ u s, text k = u ++ '*' :: s → s = [] ∧ (t.node k).kind = .any := by
  have hstem : ∀ k < t.nodes.size, ∀ u s, (t.node k).stem = u ++ '*' :: s →
      s = [] ∧ (t.node k).kind = .any := by
    intro k hk u s h
    have htakes := L.takes hk
    cases hkind : (t.node k).kind with
    | static =>
      rw [hkind, h] at htakes
      exact absurd (List.mem_append_right u List.mem_cons_self) htakes.2
    | param =>
      rw [hkind, h] at htakes
      exact absurd (htakes.suffix (List.cons_ne_nil _ _)) (by simp [Kind.Takes])
    | any =>
      rw [hkind, h] at htakes
      exact ⟨List.tail_eq_of_cons_eq (htakes.suffix (List.cons_ne_nil _ _)), rfl⟩
  refine L.descend ?root ?child
  case root =>
    intro u s h
    rw [L.root_text] at h
    exact hstem _ L.root_lt u s h
  case child =>
    intro i c hc hi ih u s h
    rw [L.child_text hc] at h
    rcases List.append_eq_append_iff.mp h with ⟨x, _, h⟩ | ⟨x, hx, h⟩
    · exact hstem c (L.child_lt hc) x s h
    · cases x with
      | nil => exact hstem c (L.child_lt hc) [] s h.symm
      | cons a x =>
        cases h
        have := L.any_children (ih u x hx).2
        rw [this] at hc
        cases hc

def StarsLive (t : Tree α) (text : Nat → List Char) : Prop :=
  ∀ k < t.nodes.size, (t.node k).kind = .any → (t.payload text (text k)).live = true

theorem Grows.starsLive {t t' : Tree α} {text text' : Nat → List Char} {path : List Char}
    {f : Payload α → Payload α} (G : t.Grows text path f t' text') (L : t.Layout text)
    (hstars : t.StarsLive text) (hstar : ∀ u s, path = u ++ '*' :: s → s = [])
    (hf : ∀ p, p.live = true → (f p).live = true)
    (hpath : '*' ∈ path → ∀ p, (f p).live = true) : t'.StarsLive text' := by
  intro k hk hany
  have htakes := G.layout.takes hk
  rw [hany] at htakes
  obtain ⟨u, hu⟩ := G.layout.text_eq hk
  rw [show (t'.node k).stem = ['*'] from htakes] at hu
  rw [G.payload]
  rcases G.texts k hk with ⟨s, hs⟩ | ⟨j, hj, s, hs⟩
  · rw [hu, List.append_assoc] at hs
    obtain rfl := hstar u s hs.symm
    rw [List.append_nil] at hs
    have hin : '*' ∈ path := hs ▸ List.mem_append_right u List.mem_cons_self
    rw [hu, if_pos hs]
    exact hpath hin _
  · rw [hu, List.append_assoc] at hs
    obtain ⟨rfl, hj'⟩ := L.star_last j hj u s hs.symm
    have hlive := hstars j hj hj'
    rw [List.append_nil] at hs
    rw [hu, hs]
    split
    · exact hf _ hlive
    · exact hlive

/-! ## One registration -/

/-- What a registration has done: all of it, or nothing that can be told from the routes. -/
def Added (t : Tree α) (text : Nat → List Char) (path : List Char) (f : Payload α → Payload α) :
    Tree α × Option Refusal → Prop
  | (t', none) => ∃ text', t.Grows text path f t' text' ∧ t'.StarsLive text'
  | (t', some _) => ∃ text', t.Grows text path id t' text' ∧ t'.StarsLive text'

theorem Grows.of_nodes_eq {t t' : Tree α} {text : Nat → List Char} (L : t.Layout text)
    (hstars : t.StarsLive text) (h : t'.nodes = t.nodes) (path : List Char) :
    t.Grows text path id t' text ∧ t'.StarsLive text := by
  obtain ⟨nodes, n⟩ := t'
  obtain rfl := h
  have G := Grows.refl L path
  exact ⟨⟨L.withMaxParam n, G.keeps, G.texts, G.payload⟩, hstars⟩

theorem Admits.no_star {t : Tree α} {text : Nat → List Char} {path : List Char}
    (A : t.Admits text .static path) : '*' ∉ path := by
  obtain ⟨b, tail, rfl, htakes, hstar, _⟩ := A.base
  rw [List.mem_append, not_or]
  exact ⟨hstar, htakes.2⟩

theorem Admits.snoc {t : Tree α} {text : Nat → List Char} {path : List Char}
    (A : t.Admits text .static path) {c : Char} (hc : c ≠ ':' ∧ c ≠ '*') :
    t.Admits text .static (path ++ [c]) := by
  obtain ⟨b, tail, hb, htakes, hstar, hbase⟩ := A.base
  have hlit : Literal [c] := literal_cons.mpr ⟨hc, literal_nil⟩
  refine ⟨?_, b, tail ++ [c], ?_, literal_append.mpr ⟨htakes, hlit⟩, hstar, hbase⟩
  · rw [List.head?_append, A.slash]
    rfl
  · rw [hb, List.append_assoc]

theorem Admits.mark {t : Tree α} {text : Nat → List Char} {path : List Char}
    (A : t.Admits text .static path) (h : ∃ k < t.nodes.size, text k = path) {kind : Kind} {c : Char}
    (hc : kind.Takes [c]) : t.Admits text kind (path ++ [c]) := by
  refine ⟨?_, path, [c], rfl, hc, A.no_star, Or.inr h⟩
  rw [List.head?_append, A.slash]
  rfl

theorem Admits.behind {t : Tree α} {text : Nat → List Char} {path : List Char}
    (hslash : path.head? = some '/') (hstar : '*' ∉ path)
    (h : ∃ k < t.nodes.size, text k = path) : t.Admits text .static path :=
  ⟨hslash, path, [], (List.append_nil _).symm, literal_nil, hstar, Or.inr h⟩

theorem Added.after {t t₁ : Tree α} {text text₁ : Nat → List Char} {p path : List Char}
    {f : Payload α → Payload α} (G : t.Grows text p id t₁ text₁) (hp : p <+: path) :
    ∀ {r}, t₁.Added text₁ path f r → t.Added text path f r
  | (_, none), ⟨text', G', hstars⟩ => ⟨text', G.trans hp G', hstars⟩
  | (_, some _), ⟨text', G', hstars⟩ => ⟨text', G.trans hp G', hstars⟩

section step

variable {t : Tree α} {text : Nat → List Char} (L : t.Layout text) (hstars : t.StarsLive text)
  {kind : Kind} {p path : List Char} (A : t.Admits text kind p) (m : Method)
include L hstars A

theorem added_insert (h : α) (l : Leaf) :
    t.Added text p (·.put m h l) (t.insert p m (some h) kind (some l)) := by
  have hi := insert_inserted L A m (some (h, l))
  match t.insert p m (some h) kind (some l), hi with
  | (t', none), ⟨text', G, _⟩ =>
    refine ⟨text', G, G.starsLive L hstars (fun _ _ => A.star_last) ?_ ?_⟩
    · exact fun p _ => p.live_put m h l
    · exact fun _ p => p.live_put m h l
  | (t', some _), hnodes =>
    obtain ⟨G, hstars'⟩ := Grows.of_nodes_eq L hstars hnodes p
    exact ⟨text, G, hstars'⟩

theorem added_andThen (hp : p <+: path) (hstar : '*' ∉ p) {f : Payload α → Payload α}
    {g : Tree α → Tree α × Option Refusal}
    (hg : ∀ t' text', t.Grows text p id t' text' → t'.StarsLive text' →
      (∃ k < t'.nodes.size, text' k = p) → t'.Added text' path f (g t')) :
    t.Added text path f (andThen (t.insert p m none kind none) g) := by
  have hi := insert_inserted L A m none
  match t.insert p m none kind none, hi with
  | (t', none), ⟨text', G, hk⟩ =>
    have hstars' := G.starsLive L hstars (fun _ _ => A.star_last) (fun _ h => h)
      fun h => absurd h hstar
    exact (hg t' text' G hstars' hk).after G hp
  | (t', some _), hnodes =>
    obtain ⟨G, hstars'⟩ := Grows.of_nodes_eq L hstars hnodes path
    exact ⟨text, G, hstars'⟩

end step

theorem addFrom_added (m : Method) (h : α) (template : String) (t : Tree α) (read : List Char)
    (names : List String) (todo : List Char) {text : Nat → List Char} (L : t.Layout text)
    (hstars : t.StarsLive text) (A : t.Admits text .static read.reverse) :
    t.Added text (read.reverse ++ shape todo) (·.put m h ⟨template, names ++ paramNames todo⟩)
      (t.addFrom m h template read names todo) := by
  fun_induction addFrom t m h template read names todo generalizing text with
  | case1 t read names =>
    rw [shape_nil, paramNames_nil, List.append_nil, List.append_nil]
    exact added_insert L hstars A m h _
  | case2 t read names rest ih =>
    rw [shape_colon, paramNames_colon]
    -- what stands before the colon gets a node first, then the colon, then the rest
    refine added_andThen L hstars A m (List.prefix_append _ _) A.no_star ?_
    intro t₁ text₁ G₁ hstars₁ hnode₁
    have A₁ : t₁.Admits text₁ .param (read.reverse ++ [':']) := (A.grow G₁).mark hnode₁ rfl
    have hstar : '*' ∉ read.reverse ++ [':'] := by
      rw [List.mem_append, not_or]
      exact ⟨A.no_star, by decide⟩
    have hrev : (':' :: read).reverse = read.reverse ++ [':'] := List.reverse_cons
    simp only [hrev] at ih ⊢
    split
    · exact ⟨text₁, Grows.refl G₁.layout _, hstars₁⟩
    · split
      · rename_i hafter
        rw [hafter, shape_nil, paramNames_nil]
        exact added_insert G₁.layout hstars₁ A₁ m h _
      · rw [List.append_cons read.reverse]
        refine added_andThen G₁.layout hstars₁ A₁ m (List.prefix_append _ _) hstar ?_
        intro t₂ text₂ G₂ hstars₂ hnode₂
        rw [List.append_cons names]
        exact ih t₂ G₂.layout hstars₂ (Admits.behind A₁.slash hstar hnode₂)
  | case3 t read names rest => exact ⟨text, Grows.refl L _, hstars⟩
  | case4 t read names rest hrest =>
    rw [not_not.mp hrest, shape_cons (by decide), paramNames_star, shape_nil, paramNames_nil]
    refine added_andThen L hstars A m (List.prefix_append _ _) A.no_star ?_
    intro t₁ text₁ G₁ hstars₁ hnode₁
    rw [List.reverse_cons]
    have A₁ : t₁.Admits text₁ .any (read.reverse ++ ['*']) := (A.grow G₁).mark hnode₁ rfl
    exact added_insert G₁.layout hstars₁ A₁ m h _
  | case5 t read names c rest hcolon hstar ih =>
    rw [shape_cons hcolon, paramNames_cons hcolon hstar, List.append_cons, ← List.reverse_cons]
    exact ih L hstars (List.reverse_cons ▸ A.snoc ⟨hcolon, hstar⟩)

theorem add_added {t : Tree α} {text : Nat → List Char} (L : t.Layout text)
    (hstars : t.StarsLive text) (r : Registration α) :
    t.Added text r.shape (·.put r.method r.handler r.leaf)
      (t.add r.method r.pattern r.handler) := by
  obtain ⟨rest, hrest⟩ := normalize_slash r.pattern.toList
  have hpath : r.path = '/' :: rest := hrest
  have A : t.Admits text .static ['/'] :=
    ⟨rfl, [], ['/'], rfl, by simp [Kind.Takes, Literal], List.not_mem_nil, Or.inl rfl⟩
  have h := addFrom_added r.method r.handler (String.ofList r.path) t ['/'] [] rest L hstars A
  have hshape : r.shape = ['/'].reverse ++ shape rest := by
    rw [Registration.shape, hpath, shape_cons (by decide)]
    rfl
  have hleaf : r.leaf = ⟨String.ofList r.path, [] ++ paramNames rest⟩ := by
    rw [Registration.leaf, hpath, paramNames_cons (by decide) (by decide), List.nil_append]
  rw [hshape, hleaf]
  show t.Added text _ _ (t.addFrom r.method r.handler (String.ofList r.path) [] [] r.path)
  rw [hpath] at h ⊢
  rwa [addFrom, if_neg (by decide), if_neg (by decide)]

/-! ## Runs of registrations -/

def addAll (t : Tree α) : List (Registration α) → Tree α × Option Refusal
  | [] => (t, none)
  | r :: rs => andThen (t.add r.method r.pattern r.handler) fun t => t.addAll rs

structure Holds (t : Tree α) (text : Nat → List Char) (p : List Char → Payload α) : Prop where
  layout : t.Layout text
  payload : ∀ w, t.payload text w = p w
  stars : t.StarsLive text

section holds

variable {t : Tree α} {text : Nat → List Char} {p : List Char → Payload α} (H : t.Holds text p)
include H

theorem Holds.payload_node {k : Nat} (hk : k < t.nodes.size) :
    (t.node k).payload = p (text k) := by
  rw [← H.layout.payload_text hk, H.payload]

theorem Holds.hasHandlers {k : Nat} (hk : k < t.nodes.size) :
    (t.node k).hasHandlers = (p (text k)).live := by
  rw [Node.hasHandlers_eq, H.payload_node hk]

theorem Holds.exists_node {s : List Char} (h : (p s).live = true) :
    ∃ k < t.nodes.size, text k = s := by
  by_contra hno
  have hne : ∀ k < t.nodes.size, text k ≠ s := fun k hk e => hno ⟨k, hk, e⟩
  rw [← H.payload, payload_of_forall_ne hne, Payload.not_live_default] at h
  cases h

end holds

theorem empty_holds : (empty : Tree α).Holds (fun _ => []) fun _ => {} where
  layout :=
    have hnode : ∀ k, (empty : Tree α).node k = Node.new .static [] none := fun k => by
      cases k <;> rfl
    { root_lt := Nat.one_pos
      root_text := rfl
      root_parent := rfl
      root_stem := Or.inr ⟨rfl, rfl⟩
      child_lt := fun h => by rw [hnode] at h; cases h
      child_parent := fun h => by rw [hnode] at h; cases h
      child_stem := fun h => by rw [hnode] at h; cases h
      child_text := fun h => by rw [hnode] at h; cases h
      has_parent := fun hc hr => absurd (Nat.lt_one_iff.mp hc) hr
      label := fun _ => by rw [hnode]; rfl
      labels := by intro k; rw [hnode]; exact List.Pairwise.nil
      ranks := by intro k; rw [hnode]; exact List.Pairwise.nil
      takes := fun _ => by rw [hnode]; exact literal_nil
      any_children := fun _ => by rw [hnode]; rfl }
  payload := fun w => by
    by_cases h : [] = w
    · subst h; rfl
    · exact payload_of_forall_ne fun _ _ => h
  stars := fun k _ hk => by cases k <;> cases hk

theorem Added.holds {t t' : Tree α} {text : Nat → List Char} {p : List Char → Payload α}
    (H : t.Holds text p) {r : Registration α}
    (h : t.Added text r.shape (·.put r.method r.handler r.leaf) (t', none)) :
    ∃ text', t'.Holds text' fun w => r.place w (p w) := by
  obtain ⟨text', G, hstars⟩ := h
  refine ⟨text', G.layout, fun w => ?_, hstars⟩
  rw [G.payload, H.payload, Registration.place]
  simp only [eq_comm]

theorem andThen_eq_none {r : Tree α × Option Refusal} {f : Tree α → Tree α × Option Refusal}
    {t' : Tree α} (h : andThen r f = (t', none)) : ∃ t₁, r = (t₁, none) ∧ f t₁ = (t', none) := by
  match r, h with
  | (t₁, none), h => exact ⟨t₁, rfl, h⟩
  | (_, some _), h => cases h

/-- After a run without a refusal the tree holds what the registrations say. -/
theorem addAll_holds (rs : List (Registration α)) {t t' : Tree α} {text : Nat → List Char}
    {p : List Char → Payload α} (H : t.Holds text p) (h : t.addAll rs = (t', none)) :
    ∃ text', t'.Holds text' fun w => rs.foldl (fun p r => r.place w p) (p w) := by
  induction rs generalizing t text p with
  | nil =>
    cases h
    exact ⟨text, H⟩
  | cons r rs ih =>
    have hadd := add_added H.layout H.stars r
    obtain ⟨t₁, h₁, h⟩ := andThen_eq_none h
    rw [h₁] at hadd
    obtain ⟨text₁, H₁⟩ := hadd.holds H
    exact ih H₁ h

theorem addAll_empty_holds {rs : List (Registration α)} {t : Tree α}
    (h : empty.addAll rs = (t, none)) : ∃ text, t.Holds text (registered rs) :=
  addAll_holds rs empty_holds h

/-! ## The number of parameters -/

theorem maxParam_of_insert {t t' : Tree α} {path : List Char} {m : Method} {handler : Option α}
    {kind : Kind} {leaf : Option Leaf} {refused : Option Refusal}
    (h : t.insert path m handler kind leaf = (t', refused)) :
    t'.maxParam = max t.maxParam ((leaf.map fun l => l.names.length).getD 0) := by
  rw [← maxParam_insert t path m handler kind leaf, h]

theorem maxParam_addFrom (t : Tree α) (m : Method) (h : α) (template : String) (read : List Char)
    (names : List String) (todo : List Char) {t' : Tree α}
    (he : t.addFrom m h template read names todo = (t', none)) :
    t'.maxParam = max t.maxParam (names ++ paramNames todo).length := by
  fun_induction addFrom t m h template read names todo generalizing t' with
  | case1 t read names =>
    rw [maxParam_of_insert he, paramNames_nil, List.append_nil]
    rfl
  | case2 t read names rest ih =>
    obtain ⟨t₁, h₁, he⟩ := andThen_eq_none he
    have hmax : t₁.maxParam = t.maxParam := by rw [maxParam_of_insert h₁]; simp
    rw [paramNames_colon, ← hmax, List.append_cons]
    simp only at he ih
    split at he
    · cases he
    · split at he
      · rename_i hafter
        rw [maxParam_of_insert he, hafter, paramNames_nil, List.append_nil]
        rfl
      · obtain ⟨t₂, h₂, he⟩ := andThen_eq_none he
        have hmax₂ : t₂.maxParam = t₁.maxParam := by rw [maxParam_of_insert h₂]; simp
        rw [← hmax₂]
        exact ih t₂ he
  | case3 t read names rest => cases he
  | case4 t read names rest hrest =>
    obtain ⟨t₁, h₁, he⟩ := andThen_eq_none he
    have hmax : t₁.maxParam = t.maxParam := by rw [maxParam_of_insert h₁]; simp
    rw [not_not.mp hrest, paramNames_star, paramNames_nil, ← hmax, maxParam_of_insert he]
    rfl
  | case5 t read names c rest hcolon hstar ih =>
    rw [paramNames_cons hcolon hstar]
    exact ih he

theorem maxParam_add {t t' : Tree α} {r : Registration α}
    (h : t.add r.method r.pattern r.handler = (t', none)) :
    t'.maxParam = max t.maxParam r.leaf.names.length :=
  maxParam_addFrom t r.method r.handler _ [] [] r.path h

theorem maxParam_addAll (rs : List (Registration α)) {t t' : Tree α}
    (h : t.addAll rs = (t', none)) :
    t'.maxParam = rs.foldl (fun n r => max n r.leaf.names.length) t.maxParam := by
  induction rs generalizing t with
  | nil => cases h; rfl
  | cons r rs ih =>
    obtain ⟨t₁, h₁, h⟩ := andThen_eq_none h
    rw [ih h, maxParam_add h₁]
    rfl

/-- The largest number of parameters that one of the patterns has. -/
theorem maxParam_of_registered {rs : List (Registration α)} {t : Tree α}
    (h : empty.addAll rs = (t, none)) :
    t.maxParam = (rs.map fun r => r.leaf.names.length).max?.getD 0 := by
  rw [maxParam_addAll rs h]
  cases rs with
  | nil => rfl
  | cons r rs =>
    rw [List.map_cons, List.max?_cons', Option.getD_some, List.foldl_map, List.foldl_cons]
    rw [show max (empty : Tree α).maxParam r.leaf.names.length = r.leaf.names.length from
      Nat.zero_max _]

end Tree

end Switchboard.Route
