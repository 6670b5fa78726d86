import Mathlib.Data.List.Basic
import Mathlib.Data.String.Basic
import Switchboard.Json.Reader

/-!
# Members in key order

What can be found after a member has been put in or taken out, for members in any order. Objects that
have been read stand in key order at every depth, so a member that is taken out and put in again stands
where it stood.
-/

namespace Switchboard.Json

namespace Members

variable (ms : Members) (k : String) (v : Json)

theorem find?_cons (k' : String) :
    find? ((k, v) :: ms) k' = if k' = k then some v else ms.find? k' := by
  unfold find?
  by_cases h : k' = k
  · simp [h]
  · have hbeq : (k' == k) = false := by simpa using h
    simp [List.lookup_cons, h, hbeq]

theorem insert_cons (k' : String) (v' : Json) :
    insert ((k', v') :: ms) k v =
      if k < k' then (k, v) :: (k', v') :: ms
      else if k' = k then (k, v) :: ms
      else (k', v') :: ms.insert k v := by
  rw [insert]

theorem erase_cons (k' : String) (v' : Json) :
    erase ((k', v') :: ms) k = if k' = k then ms.erase k else (k', v') :: ms.erase k := by
  unfold erase
  by_cases h : k' = k <;> simp [h]

/-! ## Finding -/

theorem find?_insert_self : (ms.insert k v).find? k = some v := by
  induction ms with
  | nil => simp [insert, find?_cons]
  | cons m ms ih =>
    obtain ⟨k', v'⟩ := m
    rw [insert_cons]
    split
    · simp [find?_cons]
    · split
      · simp [find?_cons]
      · rename_i hne
        rw [find?_cons, if_neg (Ne.symm hne), ih]

theorem find?_insert_ne {k k₁ : String} (h : k₁ ≠ k) : (ms.insert k v).find? k₁ = ms.find? k₁ := by
  induction ms with
  | nil => simp [insert, find?_cons, h]
  | cons m ms ih =>
    obtain ⟨k', v'⟩ := m
    rw [insert_cons]
    split
    · rw [find?_cons, if_neg h]
    · split
      · rename_i heq
        rw [find?_cons, find?_cons, if_neg h, heq, if_neg h]
      · rw [find?_cons, find?_cons, ih]

theorem find?_erase_self : (ms.erase k).find? k = none := by
  induction ms with
  | nil => rfl
  | cons m ms ih =>
    obtain ⟨k', v'⟩ := m
    rw [erase_cons]
    by_cases h : k' = k
    · rw [if_pos h, ih]
    · rw [if_neg h, find?_cons, if_neg (Ne.symm h), ih]

theorem find?_erase_ne {k k₁ : String} (h : k₁ ≠ k) : (ms.erase k).find? k₁ = ms.find? k₁ := by
  induction ms with
  | nil => rfl
  | cons m ms ih =>
    obtain ⟨k', v'⟩ := m
    rw [erase_cons, find?_cons]
    by_cases hk : k' = k
    · rw [if_pos hk, ih, hk, if_neg h]
    · rw [if_neg hk, find?_cons, ih]

theorem erase_of_find? {ms : Members} {k : String} (h : ms.find? k = none) : ms.erase k = ms := by
  induction ms with
  | nil => rfl
  | cons m ms ih =>
    obtain ⟨k', v'⟩ := m
    rw [find?_cons] at h
    split at h
    · cases h
    · rename_i hne
      rw [erase_cons, if_neg (Ne.symm hne), ih h]

theorem mem_of_find? {ms : Members} {k : String} {v : Json} (h : ms.find? k = some v) :
    (k, v) ∈ ms := by
  induction ms with
  | nil => cases h
  | cons m ms ih =>
    obtain ⟨k', v'⟩ := m
    rw [find?_cons] at h
    split at h
    · rename_i heq
      simp [heq, Option.some.inj h]
    · simp [ih h]

/-! ## Sizes -/

theorem sizeOf_erase_le : sizeOf (ms.erase k) ≤ sizeOf ms := by
  induction ms with
  | nil => exact Nat.le_refl _
  | cons m ms ih =>
    obtain ⟨k', v'⟩ := m
    rw [erase_cons]
    split
    · simp only [List.cons.sizeOf_spec]
      omega
    · simp only [List.cons.sizeOf_spec]
      omega

theorem sizeOf_erase {ms : Members} {k : String} {v : Json} (h : ms.find? k = some v) :
    sizeOf (ms.erase k) + sizeOf (k, v) + 1 ≤ sizeOf ms := by
  induction ms with
  | nil => cases h
  | cons m ms ih =>
    obtain ⟨k', v'⟩ := m
    rw [find?_cons] at h
    rw [erase_cons]
    split at h
    · rename_i heq
      subst heq
      obtain rfl := Option.some.inj h
      have hle := sizeOf_erase_le ms k
      rw [if_pos rfl]
      simp only [List.cons.sizeOf_spec]
      omega
    · rename_i hne
      have hlt := ih h
      rw [if_neg (Ne.symm hne)]
      simp only [List.cons.sizeOf_spec]
      omega

theorem sizeOf_erase_lt {ms : Members} {k : String} {v : Json} (h : ms.find? k = some v) :
    sizeOf (ms.erase k) < sizeOf ms := by
  have hle := sizeOf_erase h
  omega

theorem sizeOf_insert_le : sizeOf (ms.insert k v) ≤ sizeOf ms + sizeOf (k, v) + 1 := by
  induction ms with
  | nil =>
    simp only [insert, List.cons.sizeOf_spec]
    omega
  | cons m ms ih =>
    obtain ⟨k', v'⟩ := m
    rw [insert_cons]
    split
    · simp only [List.cons.sizeOf_spec]
      omega
    · split
      · simp only [List.cons.sizeOf_spec]
        omega
      · simp only [List.cons.sizeOf_spec]
        omega

theorem sizeOf_replace_lt {ms : Members} {k : String} {v v' : Json} (h : ms.find? k = some v)
    (hv : sizeOf v' < sizeOf v) : sizeOf ((ms.erase k).insert k v') < sizeOf ms := by
  have hinsert := sizeOf_insert_le (ms.erase k) k v'
  have herase := sizeOf_erase h
  simp only [Prod.mk.sizeOf_spec] at hinsert herase
  omega

/-! ## Order -/

def Ascending (ms : Members) : Prop := ms.Pairwise (·.1 < ·.1)

theorem mem_insert {ms : Members} {k : String} {v : Json} {m : String × Json}
    (h : m ∈ ms.insert k v) : m = (k, v) ∨ m ∈ ms := by
  induction ms with
  | nil => simpa [insert] using h
  | cons m' ms ih =>
    obtain ⟨k', v'⟩ := m'
    rw [insert_cons] at h
    split at h
    · simpa using h
    · split at h
      · rcases List.mem_cons.mp h with h | h
        · exact .inl h
        · exact .inr (List.mem_cons_of_mem _ h)
      · rcases List.mem_cons.mp h with h | h
        · exact .inr (h ▸ List.mem_cons_self)
        · exact (ih h).imp_right (List.mem_cons_of_mem _)

theorem Ascending.insert {ms : Members} (h : Ascending ms) (k : String) (v : Json) :
    Ascending (ms.insert k v) := by
  induction ms with
  | nil => simp [Members.insert, Ascending]
  | cons m ms ih =>
    obtain ⟨k', v'⟩ := m
    obtain ⟨hhead, htail⟩ := List.pairwise_cons.mp h
    rw [insert_cons]
    by_cases hlt : k < k'
    · rw [if_pos hlt]
      refine List.pairwise_cons.mpr ⟨fun m hm => ?_, h⟩
      rcases List.mem_cons.mp hm with rfl | hm
      · exact hlt
      · exact hlt.trans (hhead m hm)
    · rw [if_neg hlt]
      by_cases heq : k' = k
      · rw [if_pos heq]
        exact List.pairwise_cons.mpr ⟨fun m hm => heq ▸ hhead m hm, htail⟩
      · rw [if_neg heq]
        refine List.pairwise_cons.mpr ⟨fun m hm => ?_, ih htail⟩
        rcases mem_insert hm with rfl | hm
        · exact lt_of_le_of_ne (not_lt.mp hlt) heq
        · exact hhead m hm

/-- A member that is taken out and put in again stands where it stood. -/
theorem Ascending.insert_erase {ms : Members} (h : Ascending ms) {k : String} {v : Json}
    (hk : ms.find? k = some v) : (ms.erase k).insert k v = ms := by
  induction ms with
  | nil => cases hk
  | cons m ms ih =>
    obtain ⟨k', v'⟩ := m
    obtain ⟨hhead, htail⟩ := List.pairwise_cons.mp h
    rw [find?_cons] at hk
    rw [erase_cons]
    split at hk
    · rename_i heq
      subst heq
      obtain rfl := Option.some.inj hk
      have habsent : erase ms k = ms := by
        apply List.filter_eq_self.mpr
        intro m hm
        exact bne_iff_ne.mpr (ne_of_gt (hhead m hm))
      rw [if_pos rfl, habsent]
      cases ms with
      | nil => rfl
      | cons m ms =>
        rw [insert_cons, if_pos (hhead m List.mem_cons_self)]
    · rename_i hne
      have hlt : k' < k := hhead _ (mem_of_find? hk)
      rw [if_neg (Ne.symm hne), insert_cons, if_neg (not_lt.mpr hlt.le), if_neg hlt.ne, ih htail hk]

end Members

/-! ## Values that have been read -/

inductive Ordered : Json → Prop where
  | null : Ordered .null
  | bool (b : Bool) : Ordered (.bool b)
  | num (n : Number) : Ordered (.num n)
  | str (s : String) : Ordered (.str s)
  | arr {items : List Json} : (∀ j ∈ items, Ordered j) → Ordered (.arr items)
  | obj {ms : Members} : ms.Ascending → (∀ m ∈ ms, Ordered m.2) → Ordered (.obj ms)

namespace Ordered

variable {ms : Members} {k : String} {v : Json}

theorem ascending (h : Ordered (.obj ms)) : ms.Ascending := by
  cases h with
  | obj hascending _ => exact hascending

theorem of_find? (h : Ordered (.obj ms)) (hk : ms.find? k = some v) : Ordered v := by
  cases h with
  | obj _ hvalues => exact hvalues _ (Members.mem_of_find? hk)

theorem erase (h : Ordered (.obj ms)) (k : String) : Ordered (.obj (ms.erase k)) := by
  cases h with
  | obj hascending hvalues =>
    apply Ordered.obj
    · exact hascending.filter _
    · intro m hm
      exact hvalues m (List.mem_of_mem_filter hm)

theorem insert (h : Ordered (.obj ms)) (k : String) (hv : Ordered v) :
    Ordered (.obj (ms.insert k v)) := by
  cases h with
  | obj hascending hvalues =>
    apply Ordered.obj
    · exact hascending.insert k v
    · intro m hm
      rcases Members.mem_insert hm with rfl | hm
      · exact hv
      · exact hvalues m hm

end Ordered

theorem Ordered.sorted {ms : Members} (h : ∀ m ∈ ms, Ordered m.2) :
    Ordered (.obj (Members.sorted ms)) := by
  have hfold : ∀ acc : Members, Ordered (.obj acc) →
      Ordered (.obj (ms.foldl (fun (acc : Members) m => Members.insert acc m.1 m.2) acc)) := by
    induction ms with
    | nil => exact fun acc hacc => hacc
    | cons m ms ih =>
      intro acc hacc
      apply ih fun m' hm' => h m' (List.mem_cons_of_mem _ hm')
      exact hacc.insert m.1 (h m List.mem_cons_self)
  exact hfold [] (.obj List.Pairwise.nil (by simp))

namespace Tree

mutual
theorem ordered_value? : ∀ {t : Tree} {j : Json}, t.value? = some j → Ordered j
  | .word .null, _, h => Option.some.inj h ▸ .null
  | .word .yes, _, h => Option.some.inj h ▸ .bool true
  | .word .no, _, h => Option.some.inj h ▸ .bool false
  | .numeral n, _, h => by
    rw [value?, Option.map_eq_some_iff] at h
    obtain ⟨n, -, rfl⟩ := h
    exact .num n
  | .quoted b, _, h => by
    rw [value?, Option.map_eq_some_iff] at h
    obtain ⟨s, -, rfl⟩ := h
    exact .str _
  | .list items _, _, h => by
    rw [value?, Option.map_eq_some_iff] at h
    obtain ⟨js, hjs, rfl⟩ := h
    exact .arr (ordered_values? hjs)
  | .object ms _, _, h => by
    rw [value?, Option.map_eq_some_iff] at h
    obtain ⟨ms', hms, rfl⟩ := h
    exact .sorted (ordered_members? hms)
theorem ordered_values? : ∀ {ts : List Tree} {js : List Json}, values? ts = some js →
    ∀ j ∈ js, Ordered j
  | [], _, h => by
    obtain rfl := Option.some.inj h
    simp
  | t :: ts, _, h => by
    simp only [values?, Option.bind_eq_bind, Option.bind_eq_some_iff, Option.some.injEq] at h
    obtain ⟨v, hv, vs, hvs, rfl⟩ := h
    intro j hj
    rcases List.mem_cons.mp hj with rfl | hj
    · exact ordered_value? hv
    · exact ordered_values? hvs j hj
theorem ordered_members? : ∀ {ts : List (List Char × Tree)} {ms : Members}, members? ts = some ms →
    ∀ m ∈ ms, Ordered m.2
  | [], _, h => by
    obtain rfl := Option.some.inj h
    simp
  | (k, t) :: ts, _, h => by
    simp only [members?, Option.bind_eq_bind, Option.bind_eq_some_iff, Option.some.injEq] at h
    obtain ⟨key, -, v, hv, rest, hrest, rfl⟩ := h
    intro m hm
    rcases List.mem_cons.mp hm with rfl | hm
    · exact ordered_value? hv
    · exact ordered_members? hrest m hm
end

end Tree

theorem ordered_ofBytes? {b : Bytes} {j : Json} (h : ofBytes? b = some j) : Ordered j := by
  simp only [ofBytes?, ofText?, Option.bind_eq_some_iff] at h
  obtain ⟨s, -, t, -, h⟩ := h
  unfold ofTree? at h
  split at h
  · exact Tree.ordered_value? h
  · cases h

end Switchboard.Json
