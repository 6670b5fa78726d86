import Switchboard.Proofs.Route.Captures

/-!
# Lookups with few slots

A lookup may be given fewer slots than the routes need. A route that needs more is passed over by the
search, so what is found depends on the routes and the number of slots alone. The catch-all right behind
the selected shape is not asked how many slots it needs: when the shape itself takes them all, a match
has a name more than it has slots.
-/

namespace Switchboard.Route

variable {α : Type}

def RoutedWithin (rs : List (Registration α)) (n : Nat) (s : List Char) : Prop :=
  Routed rs s ∧ marks s ≤ n

def foundAt (rs : List (Registration α)) (m : Method) (path s : List Char) (slots : Nat) : Found α :=
  let a := answering (registered rs) m s
  let p := registered rs a
  ⟨p.answer m, p.leaf.template, p.leaf.names,
    captures a path ++ List.replicate (slots - marks a) ""⟩

def Found.within (f : Found α) (n : Nat) : Found α := { f with slots := f.slots.take n }

def Found.Houses (f : Found α) (values : List String) : Prop :=
  f.names.length ≤ f.slots.length ∧ f.values = values

namespace Tree

section holds

variable {rs : List (Registration α)} {t : Tree α} {text : Nat → List Char}
  (H : t.Holds text (registered rs))
include H

theorem Holds.find_within (m : Method) {path : String} (hpath : path ≠ "") (slots : List String) :
    ((∀ s, RoutedWithin rs slots.length s → fits s path.toList = false) ∧
      t.find m path slots = ⟨.notFound, "", [], List.replicate slots.length ""⟩) ∨
    ∃ s, Selected (RoutedWithin rs slots.length) path.toList s ∧
      t.find m path slots = (foundAt rs m path.toList s slots.length).within slots.length := by
  have hreach : Reachable (registered rs) slots.length = RoutedWithin rs slots.length :=
    funext fun s => propext (and_congr_left' (registered_live rs s))
  have hfind := H.find_spec m hpath slots
  rw [hreach] at hfind
  rcases hfind with hnone | ⟨s, slots', hs, hlen, hcap, hfind⟩
  · exact Or.inl hnone
  · refine Or.inr ⟨s, hs, ?_⟩
    rw [hfind, Payload.found, length_registered_names (routed_answering hs.mem.1 m),
      H.slots_kept hs.mem.1 hs.fits hcap, hlen]
    rfl

/-- Trees that hold the same routes answer alike, however their nodes are cut. -/
theorem Holds.find_congr {t' : Tree α} {text' : Nat → List Char}
    (H' : t'.Holds text' (registered rs)) (m : Method) (path : String) (slots : List String) :
    t'.find m path slots = t.find m path slots := by
  by_cases hpath : path = ""
  · subst hpath
    rfl
  have hnot : ∀ {s}, Selected (RoutedWithin rs slots.length) path.toList s →
      ¬ ∀ s, RoutedWithin rs slots.length s → fits s path.toList = false := fun hs hnone => by
    have hfit := hs.fits
    rw [hnone _ hs.mem] at hfit
    cases hfit
  rcases H.find_within m hpath slots with ⟨hnone, hfind⟩ | ⟨s, hs, hfind⟩
  · rcases H'.find_within m hpath slots with ⟨_, hfind'⟩ | ⟨s', hs', _⟩
    · rw [hfind, hfind']
    · exact absurd hnone (hnot hs')
  · rcases H'.find_within m hpath slots with ⟨hnone, _⟩ | ⟨s', hs', hfind'⟩
    · exact absurd hnone (hnot hs)
    · rw [hfind, hfind', hs.unique hs']

end holds

end Tree

theorem houses_within {rs : List (Registration α)} {t : Tree α} {text : Nat → List Char}
    (H : t.Holds text (registered rs)) (m : Method) (path : List Char) {s : List Char} {n : Nat}
    (hs : RoutedWithin rs n s) :
    let a := answering (registered rs) m s
    ((foundAt rs m path s n).within n).names.length = marks a ∧
      (((foundAt rs m path s n).within n).Houses (captures a path) ↔
        ¬ (a = s ++ ['*'] ∧ marks s = n)) := by
  intro a
  have ha := routed_answering hs.1 m
  have hnames : ((foundAt rs m path s n).within n).names.length = marks a := length_registered_names ha
  have hcap : (captures a path).length = marks a := length_captures (H.star_last ha) path
  have hslots : ((foundAt rs m path s n).within n).slots =
      (captures a path ++ List.replicate (n - marks a) "").take n := rfl
  have hlen : ((foundAt rs m path s n).within n).slots.length = n := by
    rw [hslots, List.length_take, List.length_append, List.length_replicate, hcap]
    omega
  have hroom : marks a ≤ n ↔ ¬ (a = s ++ ['*'] ∧ marks s = n) := by
    have hsn := hs.2
    by_cases h : a = s
    · rw [h]
      refine iff_of_true hsn fun e => ?_
      exact List.cons_ne_nil _ _ (List.append_right_eq_self.mp e.1.symm)
    · obtain ⟨hstar, _⟩ := H.answering_star h
      have hone : marks (s ++ ['*']) = marks s + 1 := marks_append s ['*']
      have hstar : a = s ++ ['*'] := hstar
      simp only [hstar, hone, true_and]
      omega
  refine ⟨hnames, ?_⟩
  rw [← hroom, Found.Houses, hnames, hlen, Found.values, hnames, hslots]
  refine and_iff_left_of_imp fun hle => ?_
  rw [List.take_take, Nat.min_eq_left hle, ← hcap, List.take_left]

/-- A match shows as many names as its route has parameters. It has a slot for each of them, with the
captured value in it, unless the route is the catch-all right behind a shape that takes all slots
itself; then there is a slot for each value but the last one. -/
theorem match_houses_iff {rs : List (Registration α)} {t : Tree α}
    (h : Tree.empty.addAll rs = (t, none)) (m : Method) (path : String) (slots : List String) {x : α}
    (hx : (t.find m path slots).outcome = .matched x) :
    ∃ s r, Selected (RoutedWithin rs slots.length) path.toList s ∧
      lastFor rs m (answering (registered rs) m s) = some r ∧ r.handler = x ∧
      (t.find m path slots).names.length = marks r.shape ∧
      (t.find m path slots).slots =
        (captures r.shape path.toList ++ List.replicate (slots.length - marks r.shape) "").take
          slots.length ∧
      ((t.find m path slots).Houses (captures r.shape path.toList) ↔
        ¬ (r.shape = s ++ ['*'] ∧ marks s = slots.length)) := by
  obtain ⟨text, H⟩ := Tree.addAll_empty_holds h
  have hpath : path ≠ "" := fun e => by
    rw [e] at hx
    cases hx
  rcases H.find_within m hpath slots with ⟨_, hfind⟩ | ⟨s, hs, hfind⟩
  · rw [hfind] at hx
    cases hx
  rw [hfind] at hx ⊢
  have hhandler : lastHandler rs m (answering (registered rs) m s) = some x :=
    lastHandler_of_matched hx
  obtain ⟨r, hr, hrx⟩ := Option.map_eq_some_iff.mp hhandler
  have hshape := (lastFor_shape hr).2.2
  obtain ⟨hnames, hhouses⟩ := houses_within H m path.toList hs.mem
  rw [← hshape] at hnames hhouses
  exact ⟨s, r, hs, hr, hrx, hnames, by rw [hshape]; rfl, hhouses⟩

/-- A catch-all right behind a route of another method. -/
def stallRoutes : List (Registration Nat) := [⟨.get, "/stall/*", 0⟩, ⟨.post, "/stall/", 1⟩]

theorem match_houses_iff_stallRoutes :
    ((Tree.empty.addAll stallRoutes).1.find .get "/stall/" ["x"]).outcome = .matched 0 ∧
      ((Tree.empty.addAll stallRoutes).1.find .get "/stall/" ["x"]).Houses [""] := by
  have hadded : Tree.empty.addAll stallRoutes = ((Tree.empty.addAll stallRoutes).1, none) :=
    Prod.ext rfl (by decide +kernel)
  have hx : ((Tree.empty.addAll stallRoutes).1.find .get "/stall/" ["x"]).outcome = .matched 0 := by
    decide +kernel
  obtain ⟨s, r, _, hr, hrx, _, _, hhouses⟩ := match_houses_iff hadded .get "/stall/" ["x"] hx
  have hmem := (lastFor_shape hr).1
  have hshape : r.shape = "/stall/".toList ++ ['*'] := by
    simp only [stallRoutes, List.mem_cons, List.not_mem_nil, or_false] at hmem
    rcases hmem with rfl | rfl
    · cbv
    · cases hrx
  have hcap : captures ("/stall/".toList ++ ['*']) "/stall/".toList = [""] := by cbv
  rw [hshape, hcap] at hhouses
  refine ⟨hx, hhouses.mpr fun htaken => ?_⟩
  have hfull := htaken.2
  rw [← List.append_cancel_right htaken.1] at hfull
  exact absurd hfull (by decide)

/-- Without a slot the path still comes to the catch-all, which shows a name. -/
theorem stallRoutes_unhoused :
    let t := (Tree.empty.addAll stallRoutes).1
    (Tree.empty.addAll stallRoutes).2 = none ∧
    (t.find .get "/stall/" []).outcome = .matched 0 ∧
    (t.find .get "/stall/" []).names = ["*"] ∧
    (t.find .get "/stall/" []).slots = [] := by
  decide +kernel

end Switchboard.Route
