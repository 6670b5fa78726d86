import Switchboard.Http.Header

/-!
# Fields of headers

Names of header fields are the same when they differ in the case of letters only. What stands under a
name after fields have been set, added or taken out follows from the fields of that name alone.
-/

namespace Switchboard

/-! ## Names of fields -/

theorem isTokenChar_toLower_letter :
    ∀ n < 26, isTokenChar (Char.ofNat (65 + n)).toLower = true := by decide

theorem toLower_cases (c : Char) : c.toLower = c ∨ ∃ n < 26, c = Char.ofNat (65 + n) := by
  unfold Char.toLower
  split
  · rename_i h
    have hrange : 65 ≤ c.toNat ∧ c.toNat ≤ 90 := by
      simpa [UInt32.le_iff_toNat_le] using h
    refine .inr ⟨c.toNat - 65, by omega, ?_⟩
    rw [Nat.add_sub_cancel' hrange.1, Char.ofNat_toNat]
  · exact .inl rfl

theorem toLower_toLower (c : Char) : c.toLower.toLower = c.toLower := by
  have hletter : ∀ n < 26, (Char.ofNat (65 + n)).toLower.toLower = (Char.ofNat (65 + n)).toLower := by
    decide
  rcases toLower_cases c with h | ⟨n, hn, rfl⟩
  · rw [h, h]
  · exact hletter n hn

theorem isTokenChar_toLower {c : Char} (hc : isTokenChar c = true) :
    isTokenChar c.toLower = true := by
  rcases toLower_cases c with h | ⟨n, hn, rfl⟩
  · rwa [h]
  · exact isTokenChar_toLower_letter n hn

theorem isTokenChar_of_toLower {c : Char} (hc : isTokenChar c.toLower = true) :
    isTokenChar c = true := by
  have hletter : ∀ n < 26, isTokenChar (Char.ofNat (65 + n)) = true := by decide
  rcases toLower_cases c with h | ⟨n, hn, rfl⟩
  · rwa [h] at hc
  · exact hletter n hn

namespace Header

theorem isName_lowerAscii (s : String) :
    isName (String.ofList (Text.lowerAscii s.toList)) = isName s := by
  have hchar (c : Char) : isTokenChar c.toLower = isTokenChar c :=
    Bool.eq_iff_iff.mpr ⟨isTokenChar_of_toLower, isTokenChar_toLower⟩
  have hempty : (String.ofList (s.toList.map Char.toLower)).isEmpty = s.isEmpty := by
    rw [Bool.eq_iff_iff, String.isEmpty_iff, String.isEmpty_iff]
    simp
  unfold isName isToken Text.lowerAscii
  rw [hempty, String.toList_ofList, List.all_map, List.length_map]
  simp [Function.comp_def, hchar]

theorem name?_of_name? {s n : String} (h : name? s = some n) : name? n = some n := by
  unfold name? at h
  split at h
  · rename_i hs
    obtain rfl := Option.some.inj h
    unfold name?
    rw [isName_lowerAscii, if_pos hs, String.toList_ofList]
    simp only [Text.lowerAscii, List.map_map, Function.comp_def, toLower_toLower]
  · cases h

theorem name?_congr {a b : String} (h : Text.sameAscii a b = true) : name? a = name? b := by
  have hlower : Text.lowerAscii a.toList = Text.lowerAscii b.toList := eq_of_beq h
  unfold name?
  rw [← isName_lowerAscii a, ← isName_lowerAscii b, hlower]

/-- A legal name is kept in the same form as another one only if it is the same but for the case of
letters. -/
theorem name?_eq_iff {a : String} (ha : isName a = true) (b : String) :
    name? a = name? b ↔ Text.sameAscii a b = true := by
  refine ⟨fun h => ?_, name?_congr⟩
  unfold name? at h
  rw [if_pos ha] at h
  split at h
  · exact beq_iff_eq.mpr (String.ofList_injective (Option.some.inj h))
  · cases h

theorem name?_eq_none_iff {s : String} : name? s = none ↔ isName s = false := by
  unfold name?
  split <;> simp_all

theorem name?_of_field? {n v : String} {f : String × String} (h : field? n v = some f) :
    name? n = some f.1 ∧ f.2 = v := by
  obtain ⟨n', hn', hf⟩ := Option.bind_eq_some_iff.mp h
  split at hf
  · obtain rfl := Option.some.inj hf
    exact ⟨hn', rfl⟩
  · cases hf

variable {n field : String} (h : Header)

theorem values_of_name? {k : String} (hk : name? field = some k) :
    h.values field = (h.filter (·.1 == k)).map (·.2) := by
  unfold values
  rw [hk]

theorem values_congr {a b : String} (hab : Text.sameAscii a b = true) : h.values a = h.values b := by
  unfold values
  rw [name?_congr hab]

theorem values_of_name?_none (hk : name? field = none) : h.values field = [] := by
  unfold values
  rw [hk]

theorem values_snoc {f : String × String} (hf : some f.1 ≠ name? field) :
    Header.values (h ++ [f]) field = h.values field := by
  cases hk : name? field with
  | none => simp [values, hk]
  | some k =>
    have hne : f.1 ≠ k := fun heq => hf (hk.symm ▸ congrArg some heq)
    rw [values_of_name? _ hk, values_of_name? _ hk]
    simp [hne]

section apart

variable (hn : name? n ≠ name? field)
include hn

theorem values_erase : (h.erase n).values field = h.values field := by
  cases hk : name? field with
  | none => simp [values, hk]
  | some k =>
    rw [values_of_name? _ hk, values_of_name? _ hk]
    unfold erase
    split
    · rename_i n' hn'
      have hne : n' ≠ k := fun heq => hn (hn'.trans (hk.symm ▸ congrArg some heq))
      rw [List.filter_filter]
      congr 1
      refine List.filter_congr fun f _ => ?_
      by_cases hf : f.1 = k
      · simp [hf, hne.symm]
      · simp [hf]
    · rfl

theorem values_add (v : String) : (h.add n v).values field = h.values field := by
  unfold add
  split
  · rename_i f hf
    exact h.values_snoc ((name?_of_field? hf).1 ▸ hn)
  · rfl

theorem values_set (v : String) : (h.set n v).values field = h.values field := by
  unfold set
  split
  · rename_i f hf
    obtain ⟨hname, -⟩ := name?_of_field? hf
    have hkept : name? f.1 = name? n := (name?_of_name? hname).trans hname.symm
    rw [values_snoc _ (hname ▸ hn), values_erase _ (hkept ▸ hn)]
  · rfl

end apart

theorem values_erase_self (hn : name? n = name? field) : (h.erase n).values field = [] := by
  cases hk : name? field with
  | none => exact values_of_name?_none _ hk
  | some k =>
    rw [values_of_name? _ hk]
    unfold erase
    rw [hn, hk]
    simp

theorem values_eraseAll (ns : List String) : (ns.foldl erase h).values field =
    if ns.any (name? · = name? field) then [] else h.values field := by
  induction ns generalizing h with
  | nil => rfl
  | cons n ns ih =>
    rw [List.foldl_cons, ih, List.any_cons]
    by_cases hn : name? n = name? field
    · simp [hn, values_erase_self h hn]
    · simp [hn, values_erase h hn]

/-- A field as given that a header takes, and keeps under the name. -/
def goesUnder (name : String) (f : String × String) : Bool :=
  isName f.1 && isValue f.2 && Text.sameAscii f.1 name

theorem values_add_of_goesUnder {v : String} (hf : goesUnder field (n, v) = true) :
    (h.add n v).values field = h.values field ++ [v] := by
  unfold goesUnder at hf
  rw [Bool.and_eq_true, Bool.and_eq_true] at hf
  obtain ⟨⟨hlegal, hvalue⟩, hsame⟩ := hf
  obtain ⟨k, hk⟩ : ∃ k, name? n = some k := by
    rw [← Option.ne_none_iff_exists', Ne, name?_eq_none_iff, hlegal]
    simp
  have hfield : field? n v = some (k, v) := by
    unfold field?
    rw [hk, Option.bind_some, if_pos hvalue]
  rw [values_of_name? _ ((name?_congr hsame).symm.trans hk),
    values_of_name? _ ((name?_congr hsame).symm.trans hk)]
  unfold add
  rw [hfield]
  simp

theorem values_add_of_not_goesUnder {v : String} (hf : goesUnder field (n, v) = false) :
    (h.add n v).values field = h.values field := by
  by_cases hname : name? n = name? field
  · cases hk : name? field with
    | none => rw [values_of_name?_none _ hk, values_of_name?_none _ hk]
    | some k =>
      have hlegal : isName n = true := by
        rw [← Bool.not_eq_false, ← name?_eq_none_iff, hname, hk]
        simp
      have hsame := (name?_eq_iff hlegal field).mp hname
      have hvalue : isValue v = false := by
        unfold goesUnder at hf
        rwa [hlegal, hsame, Bool.true_and, Bool.and_true] at hf
      have hnone : field? n v = none := by
        unfold field?
        rw [hname, hk, Option.bind_some, if_neg (by simp [hvalue])]
      unfold add
      rw [hnone]
  · exact values_add h hname v

/-- Of the fields that are added one after the other, those that are legal and have the name stand
under it. -/
theorem values_addAll (ps : List (String × String)) :
    (ps.foldl (fun h p => h.add p.1 p.2) h).values field =
      h.values field ++ (ps.filter (goesUnder field)).map Prod.snd := by
  induction ps generalizing h with
  | nil => simp
  | cons p ps ih =>
    rw [List.foldl_cons, ih, List.filter_cons]
    by_cases hp : goesUnder field p = true
    · rw [values_add_of_goesUnder h hp, if_pos hp, List.map_cons, List.append_assoc,
        List.singleton_append]
    · rw [values_add_of_not_goesUnder h (Bool.eq_false_iff.mpr hp), if_neg hp]

theorem isSome_field? (v : String) : (field? n v).isSome = (isName n && isValue v) := by
  unfold field? name?
  cases isName n <;> cases isValue v <;> rfl

/-- To set a field is to add it where none of its name stand any more. -/
theorem set_eq (v : String) :
    h.set n v = if isName n && isValue v then (h.erase n).add n v else h := by
  rw [← isSome_field?]
  unfold set add
  cases hf : field? n v with
  | none => rfl
  | some f =>
    obtain ⟨hname, -⟩ := name?_of_field? hf
    have herase : h.erase f.1 = h.erase n := by
      unfold erase
      rw [name?_of_name? hname, hname]
    simp only [Option.isSome_some, if_true, herase]

theorem values_set_self {v : String} (hn : isName n = true) (hv : isValue v = true) :
    (h.set n v).values n = [v] := by
  have hunder : goesUnder n (n, v) = true := by
    unfold goesUnder Text.sameAscii
    rw [hn, hv, beq_self_eq_true]
    rfl
  rw [set_eq, hn, hv, Bool.and_self, if_pos rfl, values_add_of_goesUnder _ hunder,
    values_erase_self h rfl, List.nil_append]

/-! ## Headers with the same fields -/

def Same (h h' : Header) : Prop := ∀ name, h.values name = h'.values name

namespace Same

variable {h h' : Header} (hs : h.Same h')
include hs

theorem erase (n : String) : (h.erase n).Same (h'.erase n) := fun name => by
  by_cases hn : name? n = name? name
  · rw [values_erase_self h hn, values_erase_self h' hn]
  · rw [values_erase h hn, values_erase h' hn, hs name]

theorem add (n v : String) : (h.add n v).Same (h'.add n v) := fun name => by
  by_cases hf : goesUnder name (n, v) = true
  · rw [values_add_of_goesUnder h hf, values_add_of_goesUnder h' hf, hs name]
  · rw [Bool.not_eq_true] at hf
    rw [values_add_of_not_goesUnder h hf, values_add_of_not_goesUnder h' hf, hs name]

theorem set (n v : String) : (h.set n v).Same (h'.set n v) := by
  rw [set_eq, set_eq]
  split
  · exact (hs.erase n).add n v
  · exact hs

end Same

/-- Setting a field changes nothing exactly when the field is refused, or its value is already the only
one under its name. -/
theorem same_set_iff {v : String} :
    h.Same (h.set n v) ↔ (isName n = true → isValue v = true → h.values n = [v]) := by
  by_cases hlegal : isName n = true ∧ isValue v = true
  · obtain ⟨hn, hv⟩ := hlegal
    refine ⟨fun hs _ _ => (hs n).trans (values_set_self h hn hv), fun hvalues name => ?_⟩
    by_cases hname : name? n = name? name
    · have hsame := (name?_eq_iff hn name).mp hname
      rw [← values_congr h hsame, ← values_congr _ hsame, hvalues hn hv, values_set_self h hn hv]
    · rw [values_set h hname v]
  · have hset : h.set n v = h := by
      rw [set_eq, if_neg (by simpa using hlegal)]
    rw [hset]
    exact ⟨fun _ hn hv => absurd ⟨hn, hv⟩ hlegal, fun _ _ => rfl⟩

end Header

end Switchboard
