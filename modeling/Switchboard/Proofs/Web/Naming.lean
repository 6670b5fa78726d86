import Mathlib.Tactic.ByContra
import Switchboard.Proofs.Text.Snake
import Switchboard.Web.Service

/-!
# Names of methods

A controller keeps its methods by the snake case of their names, and a service registers them by it. What
is asked for is put into snake case again. So every method is found by its name, but by its key only if
snake case leaves the key as it is.
-/

namespace Switchboard

theorem Exchange.panic_ne_fail {ε α : Type} (text : Option String) (e : Error) :
    (panic text : Exchange ε α) ≠ fail e := by
  intro h
  have hdone := congrFun (congrFun h (Desk.standard false)) { context := {} }
  cases hdone

namespace Controller

variable {ε : Type}

open Text (Settled)

/-- The controller that keeps methods by their keys, with what each of them does. -/
def keeping (names : List String) (serve : String → Handler ε) : Controller ε :=
  ⟨names.map fun n => (key n, serve n)⟩

theorem addAll_onto (names : List String) (serve : String → Handler ε) {k : Controller ε}
    (hkeys : (k.table.map (·.1) ++ names.map key).Nodup) :
    k.addAll (names.map fun n => (n, serve n)) = .ok ⟨k.table ++ (keeping names serve).table⟩ := by
  induction names generalizing k with
  | nil => simp [addAll, keeping, pure, Except.pure]
  | cons n names ih =>
    have hnew : k.table.any (·.1 == key n) = false := by
      rw [List.any_eq_false]
      intro entry hentry heq
      have hdisjoint := (List.nodup_append.mp hkeys).2.2
      exact hdisjoint _ (List.mem_map_of_mem hentry) _ List.mem_cons_self (beq_iff_eq.mp heq)
    have hadd : k.add n (serve n) = .ok ⟨k.table ++ [(key n, serve n)]⟩ := by
      simp [add, hnew]
    have hrest := ih (k := ⟨k.table ++ [(key n, serve n)]⟩) (by simpa using hkeys)
    rw [addAll, List.map_cons, List.foldlM_cons, hadd]
    refine hrest.trans ?_
    simp [keeping]

theorem find?_keeping {names : List String} (hkeys : (names.map key).Nodup) {n : String} (hn : n ∈ names)
    (serve : String → Handler ε) : (keeping names serve).find? (key n) = some (serve n) := by
  rw [find?, keeping, List.lookup_eq_some_iff]
  obtain ⟨earlier, later, rfl⟩ := List.append_of_mem hn
  refine ⟨earlier.map fun n => (key n, serve n), later.map fun n => (key n, serve n), by simp, ?_⟩
  intro entry hentry
  obtain ⟨m, hm, rfl⟩ := List.mem_map.mp hentry
  rw [List.map_append, List.map_cons] at hkeys
  have hapart := (List.nodup_append.mp hkeys).2.2 _ (List.mem_map_of_mem hm) _ List.mem_cons_self
  exact bne_iff_ne.mpr hapart.symm

theorem find?_keeping_none {names : List String} {k : String} (hk : ∀ n ∈ names, key n ≠ k)
    (serve : String → Handler ε) : (keeping names serve).find? k = none := by
  rw [find?, keeping, List.lookup_eq_none_iff]
  intro entry hentry
  obtain ⟨n, hn, rfl⟩ := List.mem_map.mp hentry
  exact bne_iff_ne.mpr (hk n hn).symm

theorem key_key_iff (n : String) : key (key n) = key n ↔ Settled (key n).toList := by
  have hkey (s : List Char) : key (String.ofList s) = String.ofList s ↔ Text.snakeCase s = s := by
    simp [key, String.ofList_inj]
  have htwice := hkey (Text.snakeCase n.toList)
  rw [Text.snakeCase_twice_iff] at htwice
  simpa [key] using htwice

theorem settled_key {n : String}
    (hn : ∀ c ∈ n.toList, Text.isUpper c = true → Text.lowerOf c ≠ [c]) : Settled (key n).toList := by
  simpa [key] using Text.settled_of_small hn

theorem named_keeping {names : List String} (hkeys : (names.map key).Nodup) {n m : String}
    (hn : n ∈ names) (hm : key m = key n) (serve : String → Handler ε) :
    (keeping names serve).named m = serve n := by
  rw [named, hm, run, find?_keeping hkeys hn serve]

/-- A key that is not the key of itself leads to nothing, or to another method. -/
theorem named_astray {names : List String} (hkeys : (names.map key).Nodup) {n : String}
    (hn : key (key n) ≠ key n) :
    (∀ serve : String → Handler ε,
      (keeping names serve).named (key n) = Exchange.fail (.http HttpError.notFound)) ∨
    ∃ m ∈ names, m ≠ n ∧
      ∀ serve : String → Handler ε, (keeping names serve).named (key n) = serve m := by
  by_cases hfound : ∃ m ∈ names, key m = key (key n)
  · obtain ⟨m, hm, hkey⟩ := hfound
    refine .inr ⟨m, hm, ?_, named_keeping hkeys hm hkey.symm⟩
    rintro rfl
    exact hn hkey.symm
  · refine .inl fun serve => ?_
    have hnone : (keeping names serve).find? (key (key n)) = none :=
      find?_keeping_none (fun m hm hkey => hfound ⟨m, hm, hkey⟩) serve
    rw [named, run, hnone]

/-- Methods of distinct keys are all kept, and a service registers them by their keys. Each is served
under its name, and under its key too exactly if the key is settled, as it is whenever the capitals of the
name all have small forms. A key that is not settled leads to nothing, or to another method. -/
theorem served_under_key_iff {names : List String} (hkeys : (names.map key).Nodup) :
    (∀ serve : String → Handler ε,
      addAll {} (names.map fun n => (n, serve n)) = .ok (keeping names serve) ∧
        (keeping names serve).names.Perm (names.map key)) ∧
    ∀ n ∈ names,
      (∀ serve : String → Handler ε, (keeping names serve).named n = serve n) ∧
      ((∀ serve : String → Handler ε, (keeping names serve).named (key n) = serve n) ↔
        Settled (key n).toList) ∧
      (key (key n) = key n ↔ Settled (key n).toList) ∧
      ((∀ c ∈ n.toList, Text.isUpper c = true → Text.lowerOf c ≠ [c]) → Settled (key n).toList) ∧
      (¬ Settled (key n).toList →
        (∀ serve : String → Handler ε,
          (keeping names serve).named (key n) = Exchange.fail (.http HttpError.notFound)) ∨
        ∃ m ∈ names, m ≠ n ∧
          ∀ serve : String → Handler ε, (keeping names serve).named (key n) = serve m) := by
  refine ⟨fun serve => ⟨addAll_onto names serve hkeys, ?_⟩, fun n hn => ?_⟩
  · refine (List.mergeSort_perm _ _).trans (.of_eq ?_)
    simp [keeping, Function.comp_def]
  · refine ⟨named_keeping hkeys hn rfl, ⟨fun hserved => ?_, fun hsettled => ?_⟩, key_key_iff n,
      settled_key, fun hloose => named_astray hkeys (mt (key_key_iff n).mp hloose)⟩
    · by_contra hloose
      rcases named_astray (ε := ε) hkeys (mt (key_key_iff n).mp hloose) with hnone | ⟨m, -, hm, hother⟩
      · exact Exchange.panic_ne_fail none _ ((hserved fun _ => .panic none).symm.trans (hnone _))
      · -- the method panics, and all others fail
        let serve (x : String) : Handler ε :=
          if x = n then .panic none else .fail (.http HttpError.notFound)
        have hsame := (hserved serve).symm.trans (hother serve)
        simp only [serve, if_pos, if_neg hm] at hsame
        exact Exchange.panic_ne_fail none _ hsame
    · exact named_keeping hkeys hn ((key_key_iff n).mpr hsettled)

theorem served_under_key_accented :
    (["GetUserByID", "sign-in", "LeİD"].map key).Nodup ∧ key "LeİD" = "le_i\u0307d" ∧
      ∀ serve : String → Handler Unit,
        (keeping ["GetUserByID", "sign-in", "LeİD"] serve).named (key "LeİD") = serve "LeİD" := by
  have hkeys : (["GetUserByID", "sign-in", "LeİD"].map key).Nodup := by decide +kernel
  obtain ⟨-, hserved⟩ := served_under_key_iff (ε := Unit) hkeys
  exact ⟨hkeys, by decide +kernel, (hserved "LeİD" (by simp)).2.1.mpr (by decide +kernel)⟩

/-- The double-struck capital has no small form. Behind a letter that has become small it starts a word. -/
theorem double_struck_astray :
    (["Aℝ", "A_ℝ"].map key).Nodup ∧ key "Aℝ" = "aℝ" ∧ key (key "Aℝ") = "a_ℝ" ∧
      (∀ serve : String → Handler Unit,
        (keeping ["Aℝ"] serve).named (key "Aℝ") = Exchange.fail (.http HttpError.notFound)) ∧
      ∀ serve : String → Handler Unit,
        (keeping ["Aℝ", "A_ℝ"] serve).named (key "Aℝ") = serve "A_ℝ" := by
  have hfirst : key "Aℝ" = "aℝ" := by decide +kernel
  have htwice : key "aℝ" = "a_ℝ" := by decide +kernel
  have hother : key "A_ℝ" = "a_ℝ" := by decide +kernel
  refine ⟨by decide +kernel, hfirst, hfirst ▸ htwice, fun serve => ?_, fun serve => ?_⟩
  · rw [named, run, hfirst, htwice, find?_keeping_none (by simp [hfirst])]
  · exact named_keeping (by decide +kernel) (by simp) (by rw [hfirst, htwice, hother]) serve

end Controller

end Switchboard
