import Switchboard.Proofs.Route.Selection

/-!
# Accepted registrations

Which registrations are accepted, told from the patterns alone. A malformed pattern is refused. So is a
well-formed one whose shape parts from the shape of an earlier route between two characters that begin
with the same octet: the texts are compared by octets, and a node is not cut inside a character.
-/

namespace Switchboard.Route

/-- Behind a common beginning the texts go on with two characters that share the first octet. -/
def PartInside (s s' : List Char) : Prop :=
  ∃ u a x b y, s = u ++ a :: x ∧ s' = u ++ b :: y ∧ a ≠ b ∧ firstOctet (a :: x) = firstOctet (b :: y)

/-- A pattern, with a slash in front, that names its parameters and has a star, if outside of their
names, at its end only. -/
structure WellFormed (path : List Char) : Prop where
  named : "" ∉ paramNames path
  star_last : ∀ u v, shape path = u ++ '*' :: v → v = []

/-! ## Texts that part inside a character -/

theorem PartInside.symm {s s' : List Char} (h : PartInside s s') : PartInside s' s := by
  obtain ⟨u, a, x, b, y, hs, hs', hne, hoctet⟩ := h
  exact ⟨u, b, y, a, x, hs', hs, hne.symm, hoctet.symm⟩

theorem PartInside.extend {s s' w w' : List Char} (h : PartInside s s') (hs : s <+: w)
    (hs' : s' <+: w') : PartInside w w' := by
  obtain ⟨u, a, x, b, y, rfl, rfl, hne, hoctet⟩ := h
  obtain ⟨z, rfl⟩ := hs
  obtain ⟨z', rfl⟩ := hs'
  exact ⟨u, a, x ++ z, b, y ++ z', by simp, by simp, hne, hoctet⟩

theorem not_partInside_nil (s : List Char) : ¬ PartInside [] s := by
  rintro ⟨u, a, x, b, y, h, _⟩
  simp at h

theorem prefix_of_parting {c u x y : List Char} {a b : Char} (hne : a ≠ b)
    (hx : c <+: u ++ a :: x) (hy : c <+: u ++ b :: y) : c <+: u := by
  rcases Nat.le_total c.length u.length with hle | hle
  · exact List.prefix_of_prefix_length_le hx (List.prefix_append u _) hle
  · obtain ⟨z, rfl⟩ := List.prefix_of_prefix_length_le (List.prefix_append u _) hx hle
    rw [List.prefix_append_right_inj] at hx hy
    cases z with
    | nil => simp
    | cons d z =>
      rw [List.cons_prefix_cons] at hx hy
      exact absurd (hx.1.symm.trans hy.1) hne

theorem not_partInside_of_prefix {s w : List Char} (h : s <+: w) : ¬ PartInside s w := by
  rintro ⟨u, a, x, b, y, rfl, rfl, hne, _⟩
  have hle := (prefix_of_parting hne (List.prefix_refl _) h).length_le
  rw [List.length_append, List.length_cons] at hle
  omega

theorem shape_sublist (s : List Char) : (shape s).Sublist s := by
  fun_induction shape s with
  | case1 => exact List.Sublist.refl _
  | case2 rest ih => exact (ih.trans (List.dropWhile_sublist _)).cons_cons ':'
  | case3 c rest _ ih => exact ih.cons_cons c

theorem firstOctet_ascii {c : Char} (hc : c.toNat < 128) (x : List Char) :
    (firstOctet (c :: x)).toNat = c.toNat := by
  have hle : c.val.toNat ≤ 127 := Nat.le_of_lt_succ hc
  simp only [firstOctet, String.utf8EncodeChar, if_pos hle, List.headD_cons]
  exact Nat.mod_eq_of_lt (Nat.lt_trans hc (by decide))

theorem not_partInside_ascii {s s' : List Char} (hs : ∀ c ∈ s, c.toNat < 128)
    (hs' : ∀ c ∈ s', c.toNat < 128) : ¬ PartInside s s' := by
  rintro ⟨u, a, x, b, y, rfl, rfl, hne, hoctet⟩
  have h := congrArg UInt8.toNat hoctet
  rw [firstOctet_ascii (hs a (by simp)), firstOctet_ascii (hs' b (by simp))] at h
  exact hne (Char.ext (UInt32.toNat_inj.mp h))

theorem firstOctet_eq_of_head? {s s' : List Char} (h : s.head? = s'.head?) :
    firstOctet s = firstOctet s' := by
  cases s <;> cases s' <;> cases h <;> rfl

theorem partInside_of_common {as bs c x y : List Char} (h : common as bs = (c, x, y))
    (hpart : partInside x y = true) : PartInside bs as := by
  fun_induction common as bs generalizing c x y with
  | case1 as d bs c' x' y' hc ih =>
    cases h
    obtain ⟨u, b, z, e, w, rfl, rfl, hne, hoctet⟩ := ih hc hpart
    exact ⟨d :: u, b, z, e, w, rfl, rfl, hne, hoctet⟩
  | case2 a as b bs hab =>
    cases h
    have hoctet : firstOctet (a :: as) = firstOctet (b :: bs) := by simpa [partInside] using hpart
    exact ⟨[], b, bs, a, as, rfl, rfl, Ne.symm hab, hoctet.symm⟩
  | case3 as bs hno =>
    cases h
    cases as with
    | nil => simp [partInside] at hpart
    | cons a as =>
      cases bs with
      | nil => simp [partInside] at hpart
      | cons b bs => exact absurd rfl (hno a as b bs rfl)

/-! ## Well-formed patterns -/

theorem wellFormed_nil : WellFormed [] := by
  refine ⟨by simp [paramNames_nil], fun u v h => ?_⟩
  simp [shape_nil] at h

theorem star_last_cons {c : Char} (hc : c ≠ '*') {s : List Char} :
    (∀ u v, c :: s = u ++ '*' :: v → v = []) ↔ ∀ u v, s = u ++ '*' :: v → v = [] := by
  constructor
  · intro h u v hs
    exact h (c :: u) v (congrArg (c :: ·) hs)
  · intro h u v hs
    cases u with
    | nil => exact absurd (List.head_eq_of_cons_eq hs) hc
    | cons d u => exact h u v (List.tail_eq_of_cons_eq hs)

theorem wellFormed_colon {rest : List Char} :
    WellFormed (':' :: rest) ↔
      rest.takeWhile (· != '/') ≠ [] ∧ WellFormed (rest.dropWhile (· != '/')) := by
  have hname : "" = String.ofList (rest.takeWhile (· != '/')) ↔ rest.takeWhile (· != '/') = [] := by
    rw [eq_comm, String.ofList_eq_empty_iff]
  constructor
  · intro ⟨hnamed, hstar⟩
    rw [paramNames_colon, List.mem_cons, not_or, hname] at hnamed
    rw [shape_colon, star_last_cons (by decide)] at hstar
    exact ⟨hnamed.1, hnamed.2, hstar⟩
  · intro ⟨hne, hnamed, hstar⟩
    refine ⟨?_, ?_⟩
    · rw [paramNames_colon, List.mem_cons, not_or, hname]
      exact ⟨hne, hnamed⟩
    · rwa [shape_colon, star_last_cons (by decide)]

theorem wellFormed_star {rest : List Char} : WellFormed ('*' :: rest) ↔ rest = [] := by
  constructor
  · intro h
    have hnil := h.star_last [] _ (shape_cons (by decide) rest)
    cases rest with
    | nil => rfl
    | cons c rest =>
      by_cases hc : c = ':'
      · rw [hc, shape_colon] at hnil
        cases hnil
      · rw [shape_cons hc] at hnil
        cases hnil
  · rintro rfl
    refine ⟨by simp [paramNames_star, paramNames_nil], fun u v h => ?_⟩
    rw [shape_cons (by decide), shape_nil] at h
    cases u with
    | nil => exact (List.tail_eq_of_cons_eq h).symm
    | cons c u => simp at h

theorem wellFormed_cons {c : Char} (hc : c ≠ ':') (hs : c ≠ '*') {rest : List Char} :
    WellFormed (c :: rest) ↔ WellFormed rest := by
  constructor
  · intro ⟨hnamed, hstar⟩
    rw [paramNames_cons hc hs] at hnamed
    rw [shape_cons hc, star_last_cons hs] at hstar
    exact ⟨hnamed, hstar⟩
  · intro ⟨hnamed, hstar⟩
    refine ⟨?_, ?_⟩
    · rwa [paramNames_cons hc hs]
    · rwa [shape_cons hc, star_last_cons hs]

/-- What is refused, where `wf` says that the pattern is well-formed and `clear` that its texts part
from no other inside a character. -/
structure Verdict (wf clear : Prop) (refused : Option Refusal) : Prop where
  none_iff : refused = none ↔ wf ∧ clear
  inside : wf → ∀ r, refused = some r → r = .insideCharacter

theorem Verdict.of_malformed {wf clear : Prop} {r : Refusal} (h : ¬ wf) :
    Verdict wf clear (some r) where
  none_iff := ⟨nofun, fun hwf => absurd hwf.1 h⟩
  inside := fun hwf => absurd hwf h

theorem Verdict.of_not_clear {wf clear : Prop} {r : Refusal} (h : ¬ clear)
    (hr : wf → r = .insideCharacter) : Verdict wf clear (some r) where
  none_iff := ⟨nofun, fun hclear => absurd hclear.2 h⟩
  inside := fun hwf _ e => Option.some.inj e ▸ hr hwf

namespace Tree

variable {α : Type}

/-! ## Texts and nodes -/

def Clear (t : Tree α) (text : Nat → List Char) (path : List Char) : Prop :=
  ∀ k < t.nodes.size, ¬ PartInside (text k) path

theorem Clear.prefix {t : Tree α} {text : Nat → List Char} {p path : List Char}
    (h : t.Clear text path) (hp : p <+: path) : t.Clear text p :=
  fun k hk hpart => h k hk (hpart.extend (List.prefix_refl _) hp)

/-- The children of a node differ in their labels, so below a node on the way to both texts there is
one child on the way to both, as long as they have not parted. -/
theorem Layout.not_partInside {t : Tree α} {text : Nat → List Char} (L : t.Layout text) {i k : Nat}
    (hi : i < t.nodes.size) (hk : k < t.nodes.size) : ¬ PartInside (text i) (text k) := by
  rintro ⟨w, a, x, b, y, hx, hy, hne, hoctet⟩
  have hpart : ∀ {c}, c <+: text i → c <+: text k → c <+: w := fun hci hck =>
    prefix_of_parting hne (hx ▸ hci) (hy ▸ hck)
  have key : ∀ n, ∀ p < t.nodes.size, text p <+: text i → text p <+: text k →
      w.length < (text p).length + n → False := by
    intro n
    induction n with
    | zero =>
      intro p hp hpi hpk hlt
      have := (hpart hpi hpk).length_le
      omega
    | succ n ih =>
      intro p hp hpi hpk hlt
      rcases L.prefix_cases hp hi hpi with rfl | ⟨c, hc, hci⟩
      · have hle := (hpart (List.prefix_refl _) hpk).length_le
        rw [hx, List.length_append, List.length_cons] at hle
        omega
      rcases L.prefix_cases hp hk hpk with rfl | ⟨d, hd, hdk⟩
      · have hle := (hpart hpi (List.prefix_refl _)).length_le
        rw [hy, List.length_append, List.length_cons] at hle
        omega
      obtain ⟨z, rfl⟩ := hpart hpi hpk
      have hlabel : firstOctet (z ++ a :: x) = firstOctet (z ++ b :: y) := by
        cases z with
        | nil => exact hoctet
        | cons e z => rfl
      have hcd : c = d := by
        refine L.child_eq_of_label hc hd ?_
        rw [L.label_of_prefix hc (s := z ++ a :: x) (by rwa [← List.append_assoc, ← hx]), hlabel,
          L.label_of_prefix hd (s := z ++ b :: y) (by rwa [← List.append_assoc, ← hy])]
      have := L.child_length hc
      exact ih c (L.child_lt hc) hci (hcd ▸ hdk) (by omega)
  exact key (w.length + 1) root L.root_lt (L.root_prefix i hi) (L.root_prefix k hk) (by omega)

theorem Grows.clear_iff {t t' : Tree α} {text text' : Nat → List Char} {p path : List Char}
    {f : Payload α → Payload α} (G : t.Grows text p f t' text') (hp : p <+: path) :
    t'.Clear text' path ↔ t.Clear text path := by
  constructor
  · intro h k hk hpart
    obtain ⟨k', hk', e⟩ := G.keeps k hk fun e => not_partInside_nil path (e ▸ hpart)
    exact h k' hk' (e ▸ hpart)
  · intro h k hk hpart
    rcases G.texts k hk with hkp | ⟨j, hj, hkj⟩
    · exact not_partInside_of_prefix (hkp.trans hp) hpart
    · exact h j hj (hpart.extend hkj (List.prefix_refl _))

/-! ## What an insertion refuses -/

theorem insertAt_refused {t : Tree α} {text : Nat → List Char} (L : t.Layout text)
    {path : List Char} (m : Method) (handler : Option α) (kind : Kind) (leaf : Option Leaf) {i : Nat}
    {todo u : List Char} (hi : i < t.nodes.size) (hu : text i = u ++ (t.node i).stem)
    (hpath : path = u ++ todo) (htodo : todo ≠ []) (hroot : (t.node i).stem = [] → i = root)
    (hoctet : (t.node i).stem ≠ [] → firstOctet todo = firstOctet (t.node i).stem) :
    ∀ r, (t.insertAt path m handler kind leaf i todo).2 = some r →
      r = .insideCharacter ∧ ¬ t.Clear text path := by
  -- the walk goes on to a child that begins as the text does, so only its first step may share nothing
  fun_induction insertAt t path m handler kind leaf i todo generalizing u with
  | case1 i todo n shared todo' stem' hcommon =>
    rename_i hpart
    rintro r ⟨⟩
    refine ⟨rfl, fun hclear => hclear i hi ?_⟩
    obtain ⟨v, a, x, b, y, hs, hs', hne, he⟩ := partInside_of_common hcommon hpart
    exact ⟨u ++ v, a, x, b, y, by rw [hu, List.append_assoc, ← hs],
      by rw [hpath, List.append_assoc, ← hs'], hne, he⟩
  | case2 i todo n todo' stem' hpart hempty =>
    rename_i hcommon
    obtain ⟨rfl, hstem⟩ := common_spec hcommon
    have hstem : (t.node i).stem = stem' := hstem
    by_cases hs : stem' = []
    · rw [hs] at hstem
      rcases hempty with h | h | h
      · exact absurd (hroot hstem) h
      · exact absurd hstem h
      · exact absurd h htodo
    · exact absurd (hstem ▸ hoctet (hstem ▸ hs)) (firstOctet_ne_of_partInside hpart htodo hs)
  | case3 => rintro r ⟨⟩
  | case4 => rintro r ⟨⟩
  | case5 => rintro r ⟨⟩
  | case6 i todo n shared todo' stem' hcommon _ hshared hstem' htodo' c hc =>
    rename_i ih
    obtain ⟨rfl, hstem⟩ := common_spec hcommon
    rw [not_not.mp hstem', List.append_nil] at hstem
    have hmem := List.mem_of_find?_eq_some hc
    have hlabel : (t.node c).label = firstOctet todo' := by simpa using List.find?_some hc
    rw [L.label (L.child_lt hmem)] at hlabel
    refine ih (L.child_lt hmem) (L.child_text hmem) ?_ htodo' ?_ fun _ => hlabel.symm
    · rw [hpath, hu, hstem, List.append_assoc]
    · exact fun e => absurd e (L.child_stem hmem)
  | case7 => rintro r ⟨⟩
  | case8 => rintro r ⟨⟩

section insert

variable {t : Tree α} {text : Nat → List Char} (L : t.Layout text) {kind : Kind}
  {p path : List Char} (A : t.Admits text kind p) (m : Method)
include L A

theorem insert_refused (handler : Option α) (leaf : Option Leaf) (n : Nat) {r : Refusal}
    (h : ((⟨t.nodes, n⟩ : Tree α).insertAt p m handler kind leaf root p).2 = some r) :
    r = .insideCharacter ∧ ¬ t.Clear text p := by
  have hslash := A.slash
  have hp : p ≠ [] := fun e => by
    rw [e] at hslash
    cases hslash
  refine insertAt_refused (L.withMaxParam n) m _ kind _ L.root_lt (u := []) L.root_text rfl hp
    (fun _ => rfl) (fun hstem => ?_) r h
  have hhead := L.slash L.root_lt hstem
  rw [← hslash] at hhead
  exact (firstOctet_eq_of_head? hhead).symm

theorem insert_verdict (placed : Option (α × Leaf)) :
    Verdict True (t.Clear text p)
      (t.insert p m (placed.map Prod.fst) kind (placed.map Prod.snd)).2 := by
  have hinserted := insert_inserted L A m placed
  have hrefused : ∀ r, (t.insert p m (placed.map Prod.fst) kind (placed.map Prod.snd)).2 = some r →
      r = .insideCharacter ∧ ¬ t.Clear text p := fun r h => by
    cases placed <;> exact insert_refused L A m _ _ _ h
  match t.insert p m (placed.map Prod.fst) kind (placed.map Prod.snd), hinserted, hrefused with
  | (t', none), ⟨text', G, k, hk, e⟩, _ =>
    -- the text has a node of its own now, and the texts of nodes do not part inside a character
    have hclear : t'.Clear text' p := fun j hj => e ▸ G.layout.not_partInside hj hk
    have hclear := (G.clear_iff (List.prefix_refl p)).mp hclear
    exact ⟨⟨fun _ => ⟨trivial, hclear⟩, fun _ => rfl⟩, nofun⟩
  | (t', some r), _, hrefused =>
    obtain ⟨rfl, hclear⟩ := hrefused r rfl
    exact Verdict.of_not_clear hclear fun _ => rfl

theorem andThen_verdict (hp : p <+: path) {wf : Prop} {g : Tree α → Tree α × Option Refusal}
    (hg : ∀ t' text', t.Grows text p id t' text' → (∃ k < t'.nodes.size, text' k = p) →
      Verdict wf (t'.Clear text' path) (g t').2) :
    Verdict wf (t.Clear text path) (andThen (t.insert p m none kind none) g).2 := by
  have hinserted := insert_inserted L A m none
  have hverdict := insert_verdict L A m none
  simp only [Option.map_none] at hinserted hverdict
  match t.insert p m none kind none, hinserted, hverdict with
  | (t', none), ⟨text', G, hk⟩, _ =>
    have h := hg t' text' G hk
    rwa [G.clear_iff hp] at h
  | (t', some r), _, hverdict =>
    have hclear : ¬ t.Clear text path := fun h => by
      cases hverdict.none_iff.mpr ⟨trivial, h.prefix hp⟩
    exact Verdict.of_not_clear hclear fun _ => hverdict.inside trivial r rfl

end insert

theorem addFrom_verdict (m : Method) (h : α) (template : String) (t : Tree α) (read : List Char)
    (names : List String) (todo : List Char) {text : Nat → List Char} (L : t.Layout text)
    (A : t.Admits text .static read.reverse) :
    Verdict (WellFormed todo) (t.Clear text (read.reverse ++ shape todo))
      (t.addFrom m h template read names todo).2 := by
  have hlast : ∀ {t : Tree α} {text} {kind} {p} (l : Leaf), t.Layout text → t.Admits text kind p →
      Verdict True (t.Clear text p) (t.insert p m (some h) kind (some l)).2 :=
    fun l L A => insert_verdict L A m (some (h, l))
  fun_induction addFrom t m h template read names todo generalizing text with
  | case1 t read names =>
    rw [shape_nil, List.append_nil, eq_true wellFormed_nil]
    exact hlast _ L A
  | case2 t read names rest ih =>
    rw [shape_colon, wellFormed_colon]
    refine andThen_verdict L A m (List.prefix_append _ _) ?_
    intro t₁ text₁ G₁ hnode₁
    have A₁ : t₁.Admits text₁ .param (read.reverse ++ [':']) := (A.grow G₁).mark hnode₁ rfl
    have hstar : '*' ∉ read.reverse ++ [':'] := by
      rw [List.mem_append, not_or]
      exact ⟨A.no_star, by decide⟩
    have hrev : (':' :: read).reverse = read.reverse ++ [':'] := List.reverse_cons
    simp only [hrev] at ih ⊢
    split
    · rename_i hname
      exact Verdict.of_malformed fun h => h.1 hname
    · rename_i hname
      rw [eq_true (show _ ≠ [] from hname), true_and]
      split
      · rename_i hafter
        rw [hafter, shape_nil, eq_true wellFormed_nil]
        exact hlast _ G₁.layout A₁
      · rw [List.append_cons read.reverse]
        refine andThen_verdict G₁.layout A₁ m (List.prefix_append _ _) ?_
        intro t₂ text₂ G₂ hnode₂
        exact ih t₂ G₂.layout (Admits.behind A₁.slash hstar hnode₂)
  | case3 t read names rest hrest =>
    exact Verdict.of_malformed fun h => hrest (wellFormed_star.mp h)
  | case4 t read names rest hrest =>
    rw [not_not.mp hrest, shape_cons (by decide), shape_nil, eq_true (wellFormed_star.mpr rfl)]
    refine andThen_verdict L A m (List.prefix_append _ _) ?_
    intro t₁ text₁ G₁ hnode₁
    rw [List.reverse_cons]
    exact hlast _ G₁.layout ((A.grow G₁).mark hnode₁ rfl)
  | case5 t read names c rest hcolon hstar ih =>
    rw [shape_cons hcolon, wellFormed_cons hcolon hstar, List.append_cons, ← List.reverse_cons]
    exact ih L (List.reverse_cons ▸ A.snoc ⟨hcolon, hstar⟩)

theorem add_verdict {t : Tree α} {text : Nat → List Char} (L : t.Layout text) (r : Registration α) :
    Verdict (WellFormed r.path) (t.Clear text r.shape) (t.add r.method r.pattern r.handler).2 := by
  obtain ⟨rest, hrest⟩ := normalize_slash r.pattern.toList
  have hpath : r.path = '/' :: rest := hrest
  have A : t.Admits text .static ['/'] :=
    ⟨rfl, [], ['/'], rfl, by simp [Kind.Takes, Literal], List.not_mem_nil, Or.inl rfl⟩
  have h := addFrom_verdict r.method r.handler (String.ofList r.path) t ['/'] [] rest L A
  have hshape : r.shape = ['/'].reverse ++ shape rest := by
    rw [Registration.shape, hpath, shape_cons (by decide)]
    rfl
  rw [← hshape, ← wellFormed_cons (c := '/') (by decide) (by decide)] at h
  show Verdict _ _ (t.addFrom r.method r.handler (String.ofList r.path) [] [] r.path).2
  rw [hpath] at h ⊢
  rwa [addFrom, if_neg (by decide), if_neg (by decide)]

/-! ## Runs of registrations -/

/-- A tree with a node for each route of `rs`, and no others than on the ways to them. -/
structure Spans (t : Tree α) (text : Nat → List Char) (rs : List (Registration α)) : Prop where
  holds : t.Holds text (registered rs)
  covered : ∀ k < t.nodes.size, text k = [] ∨ ∃ r ∈ rs, text k <+: r.shape

theorem Spans.clear_iff {t : Tree α} {text : Nat → List Char} {rs : List (Registration α)}
    (S : t.Spans text rs) (path : List Char) :
    t.Clear text path ↔ ∀ r ∈ rs, ¬ PartInside r.shape path := by
  constructor
  · intro h r hr
    obtain ⟨k, hk, e⟩ := S.holds.exists_node ((registered_live rs r.shape).mpr ⟨r, hr, rfl⟩)
    exact e ▸ h k hk
  · intro h k hk hpart
    rcases S.covered k hk with e | ⟨r, hr, hkr⟩
    · exact not_partInside_nil path (e ▸ hpart)
    · exact h r hr (hpart.extend hkr (List.prefix_refl _))

theorem Spans.add {t t' : Tree α} {text : Nat → List Char} {rs : List (Registration α)}
    (S : t.Spans text rs) {r : Registration α}
    (h : t.add r.method r.pattern r.handler = (t', none)) : ∃ text', t'.Spans text' (rs ++ [r]) := by
  have hadded := add_added S.holds.layout S.holds.stars r
  rw [h] at hadded
  obtain ⟨text', G, hstars⟩ := hadded
  refine ⟨text', ⟨G.layout, fun w => ?_, hstars⟩, fun k hk => ?_⟩
  · rw [G.payload, S.holds.payload, registered_concat, Registration.place]
    simp only [eq_comm]
  · rcases G.texts k hk with hkr | ⟨j, hj, hkj⟩
    · exact Or.inr ⟨r, by simp, hkr⟩
    · rcases S.covered j hj with e | ⟨r', hr', hjr⟩
      · rw [e] at hkj
        exact Or.inl (List.prefix_nil.mp hkj)
      · exact Or.inr ⟨r', List.mem_append_left _ hr', hkj.trans hjr⟩

theorem empty_spans : (empty : Tree α).Spans (fun _ => []) [] where
  holds := empty_holds
  covered := fun _ _ => Or.inl rfl

theorem addAll_spans {rs : List (Registration α)} {t t' : Tree α} {text : Nat → List Char}
    {before : List (Registration α)} (S : t.Spans text before) (h : t.addAll rs = (t', none)) :
    ∃ text', t'.Spans text' (before ++ rs) := by
  induction rs generalizing t text before with
  | nil =>
    cases h
    exact ⟨text, by rwa [List.append_nil]⟩
  | cons r rs ih =>
    obtain ⟨t₁, h₁, h⟩ := andThen_eq_none h
    obtain ⟨text₁, S₁⟩ := S.add h₁
    rw [List.append_cons]
    exact ih S₁ h

theorem addAll_verdict {t : Tree α} {text : Nat → List Char} {before : List (Registration α)}
    (S : t.Spans text before) (rs : List (Registration α)) :
    Verdict (∀ r ∈ rs, WellFormed r.path)
      ((∀ r ∈ rs, ∀ r' ∈ before, ¬ PartInside r'.shape r.shape) ∧
        rs.Pairwise fun r r' => ¬ PartInside r.shape r'.shape) (t.addAll rs).2 := by
  induction rs generalizing t text before with
  | nil => exact ⟨by simp [addAll], fun _ r h => by cases h⟩
  | cons r rs ih =>
    have hadd := add_verdict S.holds.layout r
    rw [S.clear_iff] at hadd
    have hnext : ∀ t', t.add r.method r.pattern r.handler = (t', none) →
        ∃ text', t'.Spans text' (before ++ [r]) := fun t' => S.add
    rw [addAll]
    generalize t.add r.method r.pattern r.handler = added at hadd hnext ⊢
    rcases added with ⟨t₁, _ | x⟩
    · obtain ⟨text₁, S₁⟩ := hnext t₁ rfl
      obtain ⟨hwf, hclear⟩ := hadd.none_iff.mp rfl
      have ih := ih S₁
      refine ⟨ih.none_iff.trans ?_, fun hrs => ih.inside (List.forall_mem_cons.mp hrs).2⟩
      simp only [List.forall_mem_cons, List.pairwise_cons, List.forall_mem_append,
        List.not_mem_nil, false_implies, implies_true, and_true, hwf, true_and, forall_and]
      constructor
      · rintro ⟨h1, ⟨h2, h3⟩, h4⟩
        exact ⟨h1, ⟨hclear, h2⟩, h3, h4⟩
      · rintro ⟨h1, ⟨_, h2⟩, h3, h4⟩
        exact ⟨h1, ⟨h2, h3⟩, h4⟩
    · have hnot : (∀ r' ∈ r :: rs, WellFormed r'.path) →
          ¬ ∀ r' ∈ r :: rs, ∀ r'' ∈ before, ¬ PartInside r''.shape r'.shape := fun hwf h => by
        cases hadd.none_iff.mpr ⟨(List.forall_mem_cons.mp hwf).1, (List.forall_mem_cons.mp h).1⟩
      refine ⟨⟨fun h => ?_, fun h => absurd h.2.1 (hnot h.1)⟩, fun hwf =>
        hadd.inside (List.forall_mem_cons.mp hwf).1⟩
      cases h

theorem addAll_empty_verdict (rs : List (Registration α)) :
    Verdict (∀ r ∈ rs, WellFormed r.path)
      (rs.Pairwise fun r r' => ¬ PartInside r.shape r'.shape) (empty.addAll rs).2 := by
  have h := addAll_verdict empty_spans rs
  simpa only [List.not_mem_nil, false_implies, implies_true, true_and] using h

end Tree

theorem accepted_ascii {α : Type} {rs : List (Registration α)} (hwf : ∀ r ∈ rs, WellFormed r.path)
    (hascii : ∀ r ∈ rs, ∀ c ∈ r.path, c.toNat < 128) : (Tree.empty.addAll rs).2 = none := by
  have hshape : ∀ r ∈ rs, ∀ c ∈ r.shape, c.toNat < 128 := fun r hr c hc =>
    hascii r hr c ((shape_sublist r.path).subset hc)
  refine (Tree.addAll_empty_verdict rs).none_iff.mpr ⟨hwf, ?_⟩
  exact List.pairwise_of_forall_mem_list fun r hr r' hr' =>
    not_partInside_ascii (hshape r hr) (hshape r' hr')

/-- Registrations are accepted, all of them, exactly when their patterns are well-formed and no two of
the shapes part inside a character; where the patterns are well-formed nothing else is refused. So a
well-formed pattern is accepted after others exactly when its shape parts from theirs between
characters. -/
theorem accepted_iff {α : Type} (rs : List (Registration α)) :
    ((Tree.empty.addAll rs).2 = none ↔ (∀ r ∈ rs, WellFormed r.path) ∧
      rs.Pairwise fun r r' => ¬ PartInside r.shape r'.shape) ∧
    ((∀ r ∈ rs, WellFormed r.path) →
      ∀ refusal, (Tree.empty.addAll rs).2 = some refusal → refusal = .insideCharacter) ∧
    ∀ (t : Tree α) (r : Registration α), Tree.empty.addAll rs = (t, none) → WellFormed r.path →
      ((t.add r.method r.pattern r.handler).2 = none ↔ ∀ r' ∈ rs, ¬ PartInside r'.shape r.shape) := by
  have hall := Tree.addAll_empty_verdict rs
  refine ⟨hall.none_iff, hall.inside, fun t r h hwf => ?_⟩
  obtain ⟨text, S⟩ := Tree.addAll_spans Tree.empty_spans h
  have hadd := Tree.add_verdict S.holds.layout r
  rw [S.clear_iff, List.nil_append, eq_true hwf] at hadd
  simpa only [true_and] using hadd.none_iff

/-- Two letters that are told apart by their second octet only. -/
def accentRoutes : List (Registration Nat) := [⟨.get, "/é", 0⟩, ⟨.get, "/è", 1⟩]

theorem accentRoutes_refused :
    (∀ r ∈ accentRoutes, WellFormed r.path) ∧
    (Tree.empty.addAll (accentRoutes.take 1)).2 = none ∧
    (Tree.empty.addAll accentRoutes).2 = some .insideCharacter := by
  refine ⟨fun r hr => ?_, by cbv, by cbv⟩
  have hpath : ∃ c, c ≠ ':' ∧ c ≠ '*' ∧ r.path = ['/', c] := by
    simp only [accentRoutes, List.mem_cons, List.not_mem_nil, or_false] at hr
    rcases hr with rfl | rfl
    · exact ⟨'é', by decide, by decide, by cbv⟩
    · exact ⟨'è', by decide, by decide, by cbv⟩
  obtain ⟨c, hcolon, hstar, h⟩ := hpath
  rw [h, wellFormed_cons (by decide) (by decide), wellFormed_cons hcolon hstar]
  exact wellFormed_nil

end Switchboard.Route
