import Switchboard.Proofs.Route.Slots

/-!
# Catch-alls

A catch-all behind a text without parameters has no name but its own, and takes all that follows the text.
This holds with whatever slots: where there are none it is met only when nothing follows.
-/

namespace Switchboard.Route

variable {α : Type}

/-! ## Texts without parameters -/

theorem shape_of_notMem {s : List Char} (h : ':' ∉ s) : shape s = s := by
  induction s with
  | nil => exact shape_nil
  | cons c s ih =>
    rw [List.mem_cons, not_or] at h
    rw [shape_cons (Ne.symm h.1), ih h.2]

theorem shape_eq_self {s : List Char} (h : ':' ∉ shape s) : shape s = s := by
  fun_induction shape s with
  | case1 => rfl
  | case2 rest => exact absurd List.mem_cons_self h
  | case3 c rest _ ih =>
    rw [List.mem_cons, not_or] at h
    rw [ih h.2]

theorem normalize_append {s : List Char} (hs : s ≠ []) (s' : List Char) :
    Tree.normalize (s ++ s') = Tree.normalize s ++ s' := by
  obtain ⟨c, s, rfl⟩ := List.exists_cons_of_ne_nil hs
  rw [List.cons_append]
  unfold Tree.normalize
  split
  · rename_i hslash
    simp [(List.cons.inj hslash).1]
  · rename_i hslash
    have hc : c ≠ '/' := by
      rintro rfl
      exact hslash _ rfl
    split
    · rename_i hslash'
      exact absurd (List.cons.inj hslash').1 hc
    · rfl

theorem notMem_normalize {s : List Char} (h : ':' ∉ s) : ':' ∉ Tree.normalize s := by
  unfold Tree.normalize
  split
  · exact h
  · simpa using h

/-! ## Names and values -/

theorem paramNames_catchAll {w : List Char} (hw : Literal w) : paramNames (w ++ ['*']) = ["*"] := by
  induction w with
  | nil => rw [List.nil_append, paramNames_star, paramNames_nil]
  | cons c w ih =>
    obtain ⟨hc, hw⟩ := literal_cons.mp hw
    rw [List.cons_append, paramNames_cons hc.1 hc.2, ih hw]

/-- A route whose shape is a catch-all without other parameters has been registered as it stands. -/
theorem leaf_names_catchAll {r : Registration α} {w : List Char} (hw : Literal w)
    (hr : r.shape = w ++ ['*']) : r.leaf.names = ["*"] := by
  have hcolon : ':' ∉ r.shape := by
    rw [hr]
    simpa using hw.1
  have hpath : r.path = w ++ ['*'] := (shape_eq_self hcolon).symm.trans hr
  rw [Registration.leaf, hpath]
  exact paramNames_catchAll hw

theorem registered_names_catchAll {rs : List (Registration α)} {w : List Char} (hw : Literal w)
    (hrouted : Routed rs (w ++ ['*'])) : (registered rs (w ++ ['*'])).leaf.names = ["*"] := by
  obtain ⟨f, hf⟩ := exists_firstRoute hrouted
  rw [registered_names hf]
  exact leaf_names_catchAll hw (firstRoute_shape hf).2

theorem getD_take_singleton {rest : List Char} {n : Nat} (hroom : rest = [] ∨ 0 < n)
    (others : List String) :
    (([String.ofList rest] ++ others).take n).getD 0 "" = String.ofList rest := by
  cases n with
  | zero =>
    obtain rfl : rest = [] := by simpa using hroom
    rfl
  | succ n => rfl

/-! ## Lookups that come to a catch-all -/

/-- The registration that answers a lookup with `n` slots: the last one for the method on the shape that the
path selects, or on the catch-all right behind it. -/
def AnswersWithin (rs : List (Registration α)) (m : Method) (path : List Char) (n : Nat)
    (r : Registration α) : Prop :=
  ∃ s, Selected (RoutedWithin rs n) path s ∧ lastFor rs m (answering (registered rs) m s) = some r

namespace Tree

section holds

variable {rs : List (Registration α)} {t : Tree α} {text : Nat → List Char}
  (H : t.Holds text (registered rs))
include H

theorem Holds.literal_of_catchAll {w : List Char} (hrouted : Routed rs (w ++ ['*'])) (hw : ':' ∉ w) :
    Literal w := by
  refine ⟨hw, fun hstar => ?_⟩
  obtain ⟨u, v, rfl⟩ := List.append_of_mem hstar
  have hlast := H.star_last hrouted u (v ++ ['*']) (by simp)
  exact List.append_ne_nil_of_right_ne_nil v (List.cons_ne_nil _ _) hlast

/-- What follows the text is empty, or there is a slot for it: a catch-all right behind the selected shape
takes nothing. -/
theorem Holds.rest_of_catchAll {m : Method} {s path w : List Char} {n : Nat} (hs : RoutedWithin rs n s)
    (hfit : fits s path = true) (hw : Literal w)
    (ha : answering (registered rs) m s = w ++ ['*']) :
    ∃ rest, path = w ++ rest ∧ (rest = [] ∨ 0 < n) := by
  by_cases hself : answering (registered rs) m s = s
  · have hmarks := hs.2
    rw [← hself, ha] at hfit hmarks
    rw [marks_append] at hmarks
    obtain ⟨rest, hstrip, -⟩ := (fits_append hw _ _).mp hfit
    exact ⟨rest, strip?_eq_some.mp hstrip, .inr (Nat.lt_of_lt_of_le (Nat.succ_pos _) hmarks)⟩
  · obtain rfl : s = w := List.append_cancel_right ((H.answering_star hself).1.symm.trans ha)
    rw [← List.append_nil s] at hfit
    obtain ⟨rest, hstrip, hnil⟩ := (fits_append hw _ _).mp hfit
    exact ⟨rest, strip?_eq_some.mp hstrip, .inl ((fits_nil rest).mp hnil)⟩

/-- A lookup that is matched has the handler of the route that answers, and if that is a catch-all behind a
text without parameters, what it takes is all that follows the text. -/
theorem Holds.matched_catchAll {m : Method} {path : String} {slots : List String} {x : α}
    (hx : (t.find m path slots).outcome = .matched x) :
    ∃ r, AnswersWithin rs m path.toList slots.length r ∧ r.handler = x ∧
      ∀ w, ':' ∉ w → r.shape = w ++ ['*'] →
        (t.find m path slots).names = ["*"] ∧
          path.toList = w ++ ((t.find m path slots).slots.getD 0 "").toList := by
  have hpath : path ≠ "" := fun e => by
    rw [e] at hx
    cases hx
  rcases H.find_within m hpath slots with ⟨_, hfind⟩ | ⟨s, hs, hfind⟩
  · rw [hfind] at hx
    cases hx
  rw [hfind] at hx ⊢
  have hhandler : lastHandler rs m (answering (registered rs) m s) = some x :=
    lastHandler_of_matched hx
  obtain ⟨r, hr, hrx⟩ := Option.map_eq_some_iff.mp hhandler
  refine ⟨r, ⟨s, hs, hr⟩, hrx, fun w hcolon hcatch => ?_⟩
  have ha : answering (registered rs) m s = w ++ ['*'] := (lastFor_shape hr).2.2.symm.trans hcatch
  have hrouted : Routed rs (w ++ ['*']) := ha ▸ routed_answering hs.mem.1 m
  have hw := H.literal_of_catchAll hrouted hcolon
  obtain ⟨rest, hrest, hroom⟩ := H.rest_of_catchAll hs.mem hs.fits hw ha
  have hcaptured : captures (w ++ ['*']) path.toList = [String.ofList rest] := by
    rw [hrest, captures_append hw]
    rfl
  simp only [Found.within, foundAt, ha, hcaptured]
  refine ⟨registered_names_catchAll hw hrouted, ?_⟩
  rw [getD_take_singleton hroom, String.toList_ofList, hrest]

end holds

end Tree

end Switchboard.Route
