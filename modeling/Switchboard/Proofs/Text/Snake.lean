import Switchboard.Text.Snake

/-!
# Snake case of snake case

Snake case leaves no capitals but those that have no small form. When its result is put into snake case
once more, no character of it is rewritten; all that can happen is that a capital which was left stands
where a word starts now, because the letter in front of it or the one behind it has become small.
-/

namespace Switchboard.Text

open CaseTable

/-! ## Small forms -/

def InRun (run : Nat × Nat × Nat) (n : Nat) : Prop :=
  run.1 ≤ n ∧ n ≤ run.2.1 ∧ (n - run.1) % run.2.2 = 0

theorem inRuns_iff {runs : List (Nat × Nat × Nat)} {n : Nat} :
    inRuns runs n = true ↔ ∃ run ∈ runs, InRun run n := by
  simp [inRuns, InRun, and_assoc]

def imageRun (r : Nat × Nat × Nat × Int) : Nat × Nat × Nat :=
  ((r.1 + r.2.2.2).toNat, (r.2.1 + r.2.2.2).toNat, r.2.2.1)

/-- Whether two runs can be told to have nothing in common: one ends before the other begins, or their
residues differ. -/
def apart (r u : Nat × Nat × Nat) : Bool :=
  decide (r.2.1 < u.1) || decide (u.2.1 < r.1) ||
    ((r.1 == r.2.1 || r.2.2 % u.2.2 == 0) && r.1 % u.2.2 != u.1 % u.2.2)

theorem not_inRun_of_apart {r u : Nat × Nat × Nat} (h : apart r u = true) {n : Nat} (hr : InRun r n) :
    ¬ InRun u n := by
  obtain ⟨hfirst, hlast, hstep⟩ := hr
  rintro ⟨hfirst', hlast', hstep'⟩
  simp only [apart, Bool.or_eq_true, decide_eq_true_eq, Bool.and_eq_true, beq_iff_eq,
    bne_iff_ne] at h
  rcases h with (h | h) | ⟨hwidth, h⟩
  · omega
  · omega
  · -- the number has the residue of the first one of either run
    apply h
    have hu : n % u.2.2 = u.1 % u.2.2 := by
      have hn : n = u.1 + (n - u.1) := by omega
      rw [hn, Nat.add_mod, hstep', Nat.add_zero, Nat.mod_mod]
    have hr : n % u.2.2 = r.1 % u.2.2 := by
      rcases hwidth with hwidth | hwidth
      · rw [Nat.le_antisymm (hwidth ▸ hlast) hfirst]
      · have hn : n = r.1 + (n - r.1) := by omega
        have hdvd := Nat.dvd_trans (Nat.dvd_of_mod_eq_zero hwidth) (Nat.dvd_of_mod_eq_zero hstep)
        rw [hn, Nat.add_mod, Nat.mod_eq_zero_of_dvd hdvd, Nat.add_zero, Nat.mod_mod]
    rw [← hr, hu]

theorem imageRuns_apart :
    (toLowerRuns.all fun r => upperRuns.all fun u => apart (imageRun r) u) = true := by
  decide +kernel

theorem imageRuns_first : (toLowerRuns.all fun r => decide (97 ≤ r.1 + r.2.2.2)) = true := by
  decide +kernel

theorem toLowerLists_small : (toLowerLists.all fun l =>
    l.2.all fun n => !isUpper (Char.ofNat n) && Char.ofNat n != '-') = true := by
  decide +kernel

theorem ascii_small : ∀ n < 128, (Char.ofNat n).toLower = Char.ofNat n ∨
    isUpper (Char.ofNat n).toLower = false ∧ (Char.ofNat n).toLower ≠ '-' := by
  decide +kernel

theorem isUpper_iff {c : Char} :
    isUpper c = true ↔ 65 ≤ c.toNat ∧ c.toNat ≤ 90 ∨ 128 ≤ c.toNat ∧ inRuns upperRuns c.toNat = true := by
  have hascii : c.isUpper = true ↔ 65 ≤ c.toNat ∧ c.toNat ≤ 90 := by
    show decide (65 ≤ c.val ∧ c.val ≤ 90) = true ↔ _
    simp [UInt32.le_iff_toNat_le, ← Char.toNat_val]
  unfold isUpper
  split
  · rw [hascii]
    omega
  · have hlarge : 128 ≤ c.toNat := by omega
    have hbeyond : ¬ (65 ≤ c.toNat ∧ c.toNat ≤ 90) := by omega
    simp [hlarge, hbeyond]

theorem toNat_ofNat (n : Nat) : (Char.ofNat n).toNat = n ∨ (Char.ofNat n).toNat = 0 := by
  unfold Char.ofNat
  by_cases h : n.isValidChar
  · rw [dif_pos h]
    exact .inl rfl
  · rw [dif_neg h]
    exact .inr rfl

theorem shiftBy_small {n m : Nat} (h : shiftBy toLowerRuns n = some m) :
    isUpper (Char.ofNat m) = false ∧ Char.ofNat m ≠ '-' := by
  obtain ⟨⟨first, last, step, d⟩, hfind, hm⟩ := Option.map_eq_some_iff.mp h
  have hmem := List.mem_of_find?_eq_some hfind
  have hn := List.find?_some hfind
  simp only [Bool.and_eq_true, decide_eq_true_eq, beq_iff_eq] at hn hm
  have hstart : 97 ≤ first + d := by
    simpa using List.all_eq_true.mp imageRuns_first _ hmem
  have himage : InRun (imageRun (first, last, step, d)) m := by
    simp only [InRun, imageRun]
    refine ⟨by omega, by omega, ?_⟩
    rw [show m - (first + d).toNat = n - first by omega]
    exact hn.2
  have hupper : ¬ inRuns upperRuns m = true := by
    rw [inRuns_iff]
    rintro ⟨u, hu, hin⟩
    have hapart := List.all_eq_true.mp (List.all_eq_true.mp imageRuns_apart _ hmem) u hu
    exact not_inRun_of_apart hapart himage hin
  have hcode : (Char.ofNat m).toNat = 0 ∨ (Char.ofNat m).toNat = m ∧ 97 ≤ m := by
    rcases toNat_ofNat m with h | h
    · exact .inr ⟨h, by omega⟩
    · exact .inl h
  constructor
  · rw [Bool.eq_false_iff, ne_eq, isUpper_iff]
    rcases hcode with hzero | ⟨hcode, hlarge⟩
    · omega
    · rw [hcode]
      rintro (h | ⟨-, h⟩)
      · omega
      · exact hupper h
  · intro hdash
    have hvalue : (Char.ofNat m).toNat = 45 := by rw [hdash]; rfl
    omega

/-- A small form is the character itself, or has neither capitals nor dashes. -/
theorem lowerOf_cases (c : Char) :
    lowerOf c = [c] ∨ ∀ d ∈ lowerOf c, isUpper d = false ∧ d ≠ '-' := by
  unfold lowerOf
  split
  · rename_i hascii
    have h := ascii_small c.toNat hascii
    rw [Char.ofNat_toNat] at h
    simpa using h
  · unfold caseForm
    split
    · rename_i ns hlist
      right
      have hmem : (c.toNat, ns) ∈ toLowerLists := by
        obtain ⟨before, after, hsplit, -⟩ := List.lookup_eq_some_iff.mp hlist
        simp [hsplit]
      have hsmall := List.all_eq_true.mp toLowerLists_small _ hmem
      simpa using hsmall
    · cases hshift : shiftBy toLowerRuns c.toNat with
      | none => exact .inl rfl
      | some m =>
        right
        simpa using shiftBy_small hshift

/-! ## What snake case writes -/

def written (before last : Option Char) (c : Char) (rest : List Char) : List Char :=
  if isUpper c then
    (if last ≠ some '_' ∧ before.any (startsWord · rest) then ['_'] else []) ++ lowerOf c
  else if c = '-' then ['_']
  else [c]

theorem snakeFrom_cons (before last : Option Char) (c : Char) (rest : List Char) :
    snakeFrom before last (c :: rest) =
      written before last c rest ++
        snakeFrom (some c) ((written before last c rest).getLast?.or last) rest := by
  cases before <;> simp [snakeFrom, written]

/-- What snake case writes is an underscore, of a small form, or a character of the name. -/
theorem mem_snakeFrom {before last : Option Char} {s : List Char} {d : Char}
    (hd : d ∈ snakeFrom before last s) :
    d = '_' ∨ ∃ c ∈ s, isUpper c = true ∧ d ∈ lowerOf c ∨ isUpper c = false ∧ c ≠ '-' ∧ d = c := by
  induction s generalizing before last with
  | nil => simp [snakeFrom] at hd
  | cons c r ih =>
    rw [snakeFrom_cons] at hd
    rcases List.mem_append.mp hd with hd | hd
    · unfold written at hd
      split at hd
      · rename_i hupper
        rcases List.mem_append.mp hd with hd | hd
        · split at hd
          · exact .inl (List.mem_singleton.mp hd)
          · exact absurd hd List.not_mem_nil
        · exact .inr ⟨c, List.mem_cons_self, .inl ⟨hupper, hd⟩⟩
      · rename_i hupper
        split at hd
        · exact .inl (List.mem_singleton.mp hd)
        · rename_i hdash
          exact .inr ⟨c, List.mem_cons_self, .inr ⟨by simpa using hupper, hdash, List.mem_singleton.mp hd⟩⟩
    · rcases ih hd with h | ⟨c', hc', h⟩
      · exact .inl h
      · exact .inr ⟨c', List.mem_cons_of_mem _ hc', h⟩

/-- A character that is its own small form if it is a capital, and no dash. -/
structure Plain (c : Char) : Prop where
  noDash : c ≠ '-'
  small : isUpper c = true → lowerOf c = [c]

theorem plain_of_small {c : Char} (h : isUpper c = false ∧ c ≠ '-') : Plain c :=
  ⟨h.2, fun hupper => absurd hupper (by simp [h.1])⟩

theorem plain_lowerOf {c d : Char} (hc : isUpper c = true) (hd : d ∈ lowerOf c) : Plain d := by
  rcases lowerOf_cases c with h | h
  · rw [h, List.mem_singleton] at hd
    subst hd
    refine ⟨?_, fun _ => h⟩
    rintro rfl
    exact absurd hc (by decide)
  · exact plain_of_small (h d hd)

theorem plain_snakeFrom {before last : Option Char} {s : List Char} :
    ∀ d ∈ snakeFrom before last s, Plain d := by
  intro d hd
  rcases mem_snakeFrom hd with rfl | ⟨c, -, ⟨hupper, hd⟩ | ⟨hupper, hdash, rfl⟩⟩
  · exact plain_of_small (by decide)
  · exact plain_lowerOf hupper hd
  · exact plain_of_small ⟨hupper, hdash⟩

/-! ## Snake case of plain characters -/

/-- No capital stands where a word starts, unless an underscore is in front of it. -/
def Settled : List Char → Prop
  | b :: c :: r => (isUpper c = true → b = '_' ∨ startsWord b r = false) ∧ Settled (c :: r)
  | _ => True

instance decidableSettled : DecidablePred Settled
  | [] => .isTrue trivial
  | [_] => .isTrue trivial
  | _ :: c :: r =>
    have := decidableSettled (c :: r)
    inferInstanceAs (Decidable (_ ∧ _))

theorem written_plain {b c : Char} (hc : Plain c) (r : List Char) :
    written (some b) (some b) c r =
      (if isUpper c = true ∧ b ≠ '_' ∧ startsWord b r = true then ['_'] else []) ++ [c] := by
  unfold written
  by_cases hupper : isUpper c = true
  · simp [hupper, hc.small hupper]
  · simp [hupper, hc.noDash]

/-- Plain characters with the last one written in front of them stay as they are when they are settled. -/
theorem snakeFrom_eq_iff {b : Char} {t : List Char} (ht : ∀ c ∈ t, Plain c) :
    snakeFrom (some b) (some b) t = t ↔ Settled (b :: t) := by
  induction t generalizing b with
  | nil => simp [snakeFrom, Settled]
  | cons c r ih =>
    obtain ⟨hc, hr⟩ := List.forall_mem_cons.mp ht
    rw [snakeFrom_cons, written_plain hc, Settled, ← ih hr]
    by_cases hgap : isUpper c = true ∧ b ≠ '_' ∧ startsWord b r = true
    · -- an underscore is written where the text has a capital
      have hne : '_' ≠ c := by
        rintro rfl
        exact absurd hgap.1 (by decide)
      simp [hgap, hne]
    · have hsettled : isUpper c = true → b = '_' ∨ startsWord b r = false := by
        intro hupper
        by_cases hb : b = '_'
        · exact .inl hb
        · exact .inr (Bool.eq_false_iff.mpr fun h => hgap ⟨hupper, hb, h⟩)
      simp only [hgap, if_false, List.nil_append, List.singleton_append, List.cons.injEq, true_and]
      exact ⟨fun h => ⟨hsettled, h⟩, And.right⟩

theorem snakeCase_eq_iff {t : List Char} (ht : ∀ c ∈ t, Plain c) : snakeCase t = t ↔ Settled t := by
  cases t with
  | nil => simp [snakeCase, snakeFrom, Settled]
  | cons c r =>
    obtain ⟨hc, hr⟩ := List.forall_mem_cons.mp ht
    have hwritten : written none none c r = [c] := by
      unfold written
      by_cases hupper : isUpper c = true
      · simp [hupper, hc.small hupper]
      · simp [hupper, hc.noDash]
    rw [← snakeFrom_eq_iff hr, snakeCase, snakeFrom_cons, hwritten]
    simp

/-- Snake case changes its own result exactly if a capital is left that stands where a word starts. -/
theorem snakeCase_twice_iff (s : List Char) :
    snakeCase (snakeCase s) = snakeCase s ↔ Settled (snakeCase s) :=
  snakeCase_eq_iff plain_snakeFrom

/-! ## Names without capitals that stay -/

theorem settled_of_no_capitals {t : List Char} (h : ∀ c ∈ t, isUpper c = false) : Settled t := by
  induction t with
  | nil => trivial
  | cons b t ih =>
    obtain ⟨-, ht⟩ := List.forall_mem_cons.mp h
    cases t with
    | nil => trivial
    | cons c r =>
      refine ⟨fun hupper => ?_, ih ht⟩
      rw [ht c List.mem_cons_self] at hupper
      cases hupper

/-- A name whose capitals all have small forms leaves no capital. -/
theorem settled_of_small {s : List Char} (hs : ∀ c ∈ s, isUpper c = true → lowerOf c ≠ [c]) :
    Settled (snakeCase s) := by
  refine settled_of_no_capitals fun d hd => ?_
  rcases mem_snakeFrom hd with rfl | ⟨c, hc, ⟨hupper, hd⟩ | ⟨hupper, -, rfl⟩⟩
  · decide
  · exact (((lowerOf_cases c).resolve_left (hs c hc hupper)) d hd).1
  · exact hupper

end Switchboard.Text
