import Switchboard.Proofs.Route.Acceptance
import Switchboard.Proofs.Route.Inventory
import Switchboard.Proofs.Route.Slots

/-!
# The order of registrations

The same routes in another order make a tree with other nodes, which cannot be told from the first one
by what it accepts, lists or finds. What is registered at a text does not depend on the order, and all
the rest depends on nothing else.
-/

namespace Switchboard.Route

variable {α : Type}

/-! ## What is registered -/

/-- No method has two routes on a shape, and the routes on a shape have one pattern. -/
structure Unambiguous (rs : List (Registration α)) : Prop where
  distinct : rs.Pairwise fun r r' => ¬ (r.method = r'.method ∧ r.shape = r'.shape)
  pattern : ∀ r ∈ rs, ∀ r' ∈ rs, r.shape = r'.shape → r.path = r'.path

theorem Payload.put_comm (p : Payload α) {m m' : Method} (h : m ≠ m') (x x' : α) (l : Leaf) :
    (p.put m x l).put m' x' l = (p.put m' x' l).put m x l := by
  have hhandlers : ((p.put m x l).put m' x' l).handlers = ((p.put m' x' l).put m x l).handlers := by
    funext k
    by_cases hk : k = m
    · simp [put, hk, h]
    · simp [put, hk]
  exact congrArg (Payload.mk · _) hhandlers

theorem Registration.place_comm {r r' : Registration α}
    (hdistinct : ¬ (r.method = r'.method ∧ r.shape = r'.shape))
    (hpattern : r.shape = r'.shape → r.path = r'.path) (w : List Char) (p : Payload α) :
    r'.place w (r.place w p) = r.place w (r'.place w p) := by
  unfold place
  by_cases hr : r.shape = w
  · by_cases hr' : r'.shape = w
    · have hshape := hr.trans hr'.symm
      have hleaf : r.leaf = r'.leaf := by rw [leaf, leaf, hpattern hshape]
      rw [if_pos hr, if_pos hr', if_pos hr', if_pos hr, hleaf]
      exact p.put_comm (fun hm => hdistinct ⟨hm, hshape⟩) _ _ _
    · rw [if_neg hr', if_neg hr']
  · rw [if_neg hr, if_neg hr]

section perm

variable {rs rs' : List (Registration α)} (hperm : rs.Perm rs')
include hperm

theorem registered_perm (hrs : Unambiguous rs) : registered rs = registered rs' := by
  have : Std.Symm fun r r' : Registration α => ¬ (r.method = r'.method ∧ r.shape = r'.shape) :=
    ⟨fun _ _ h e => h ⟨e.1.symm, e.2.symm⟩⟩
  funext w
  apply hperm.foldl_eq'
  intro r hr r' hr' p
  by_cases hne : r = r'
  · rw [hne]
  · exact Registration.place_comm (hrs.distinct.forall hr hr' hne) (hrs.pattern r hr r' hr') w p

theorem accepted_perm : (Tree.empty.addAll rs).2 = none ↔ (Tree.empty.addAll rs').2 = none := by
  rw [(Tree.addAll_empty_verdict rs).none_iff, (Tree.addAll_empty_verdict rs').none_iff,
    hperm.pairwise_iff fun h hpart => h hpart.symm]
  simp only [hperm.mem_iff]

theorem maxParam_perm {t t' : Tree α} (h : Tree.empty.addAll rs = (t, none))
    (h' : Tree.empty.addAll rs' = (t', none)) : t.maxParam = t'.maxParam := by
  rw [Tree.maxParam_addAll rs h, Tree.maxParam_addAll rs' h']
  exact hperm.foldl_eq' (fun r _ r' _ n => Nat.max_right_comm n _ _) _

end perm

/-! ## What can be told -/

/-- Routes in another order are refused again, or make a tree that needs as many slots, lists the same
routes, and finds the same with the same slots afterwards. -/
theorem addAll_perm {rs rs' : List (Registration α)} (hperm : rs.Perm rs') (hrs : Unambiguous rs) :
    ((Tree.empty.addAll rs).2 ≠ none ∧ (Tree.empty.addAll rs').2 ≠ none) ∨
    ∃ t t', Tree.empty.addAll rs = (t, none) ∧ Tree.empty.addAll rs' = (t', none) ∧
      t.maxParam = t'.maxParam ∧ t.routes.Perm t'.routes ∧
      ∀ (m : Method) (path : String) (slots : List String), t.maxParam ≤ slots.length →
        t.find m path slots = t'.find m path slots := by
  have haccepted := accepted_perm hperm
  have hregistered := registered_perm hperm hrs
  match hrun : Tree.empty.addAll rs, hrun' : Tree.empty.addAll rs', haccepted with
  | (t, none), (t', some _), haccepted => cases haccepted.mp rfl
  | (t, some _), (t', none), haccepted => cases haccepted.mpr rfl
  | (t, some _), (t', some _), _ => exact Or.inl ⟨nofun, nofun⟩
  | (t, none), (t', none), _ =>
    obtain ⟨text, H⟩ := Tree.addAll_empty_holds hrun
    obtain ⟨text', H'⟩ := Tree.addAll_empty_holds hrun'
    refine Or.inr ⟨t, t', rfl, rfl, maxParam_perm hperm hrun hrun', ?_, fun m path slots _ =>
      (H.find_congr (hregistered ▸ H') m path slots).symm⟩
    apply (List.perm_ext_iff_of_nodup (routes_nodup hrun) (routes_nodup hrun')).mpr
    intro (m, pattern)
    rw [H.mem_routes, H'.mem_routes, hregistered]

theorem addAll_perm_userRoutes :
    ∃ t t', Tree.empty.addAll userRoutes = (t, none) ∧
      Tree.empty.addAll userRoutes.reverse = (t', none) ∧ t.routes.Perm t'.routes ∧
      t.find .get "/users/7" [""] = t'.find .get "/users/7" [""] := by
  have hshapes : userRoutes.Pairwise fun r r' => r.shape ≠ r'.shape := by
    have hmap : (userRoutes.map Registration.shape).Nodup := by
      rw [show userRoutes.map Registration.shape =
        ["/users/:".toList, "/users/new".toList, "/users/*".toList] by cbv]
      decide
    exact List.pairwise_map.mp hmap
  have hrs : Unambiguous userRoutes := by
    refine ⟨hshapes.imp fun h e => h e.2, fun r hr r' hr' e => ?_⟩
    have : Std.Symm fun r r' : Registration Nat => r.shape ≠ r'.shape := ⟨fun _ _ h => h.symm⟩
    by_cases hne : r = r'
    · rw [hne]
    · exact absurd e (hshapes.forall hr hr' hne)
  have haccepted : (Tree.empty.addAll userRoutes).2 = none := by cbv
  rcases addAll_perm (List.reverse_perm userRoutes).symm hrs with
    ⟨hrefused, _⟩ | ⟨t, t', h, h', _, hroutes, hfind⟩
  · exact absurd haccepted hrefused
  · refine ⟨t, t', h, h', hroutes, hfind .get "/users/7" [""] ?_⟩
    have hmax : (Tree.empty.addAll userRoutes).1.maxParam = 1 := by cbv
    rw [h] at hmax
    exact Nat.le_of_eq hmax

end Switchboard.Route
