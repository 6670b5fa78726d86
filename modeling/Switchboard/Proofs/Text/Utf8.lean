import Switchboard.Text.Utf8

/-!
# Texts and their octets

The octets of a text are well-formed, and reading them gives the text back.
-/

namespace Switchboard.Utf8

/-! ## Octets as numbers -/

section number

variable {n : Nat} (h : n < 256) (k : UInt8)
include h

theorem toNat_ofNat : (UInt8.ofNat n).toNat = n := by
  rw [UInt8.toNat_ofNat']
  exact Nat.mod_eq_of_lt h

theorem beq_ofNat : (UInt8.ofNat n == k) = decide (n = k.toNat) := by
  rw [Bool.eq_iff_iff, beq_iff_eq, decide_eq_true_iff, ← UInt8.toNat_inj, toNat_ofNat h]

theorem le_ofNat : (k ≤ UInt8.ofNat n) = (k.toNat ≤ n) := by
  rw [UInt8.le_iff_toNat_le, toNat_ofNat h]

theorem ofNat_le : (UInt8.ofNat n ≤ k) = (n ≤ k.toNat) := by
  rw [UInt8.le_iff_toNat_le, toNat_ofNat h]

theorem ofNat_lt : (UInt8.ofNat n < k) = (n < k.toNat) := by
  rw [UInt8.lt_iff_toNat_lt, toNat_ofNat h]

end number

theorem continues_ofNat {n : Nat} (h : n < 64) : continues (UInt8.ofNat (n + 128)) = true := by
  have hn : n + 128 < 256 := by omega
  simp only [continues, le_ofNat hn, ofNat_le hn, UInt8.reduceToNat, Bool.and_eq_true,
    decide_eq_true_eq]
  omega

theorem low6_ofNat {n : Nat} (h : n < 64) : low6 (UInt8.ofNat (n + 128)) = n := by
  rw [low6, toNat_ofNat (by omega)]
  omega

/-! ## One character -/

variable (r : Bytes)

theorem step_one {n : Nat} (h : n < 128) : step (UInt8.ofNat n) r = (some (Char.ofNat n), r) := by
  have hn : n < 256 := by omega
  unfold step
  simp only [ofNat_lt hn, toNat_ofNat hn, UInt8.reduceToNat, if_pos h]

theorem step_two {a b : Nat} (ha : 2 ≤ a ∧ a < 32) (hb : b < 64) :
    step (UInt8.ofNat (a + 192)) (UInt8.ofNat (b + 128) :: r) =
      (some (Char.ofNat (a * 64 + b)), r) := by
  have hn : a + 192 < 256 := by omega
  have hvalue : (a + 192) % 32 = a := by omega
  unfold step
  simp only [ofNat_lt hn, le_ofNat hn, ofNat_le hn, toNat_ofNat hn, UInt8.reduceToNat,
    Bool.and_eq_true, decide_eq_true_eq]
  rw [if_neg (by omega), if_pos (by omega)]
  simp only [continues_ofNat hb, low6_ofNat hb, hvalue, if_true]

theorem step_three {a b c : Nat} (ha : a < 16) (hb : b < 64) (hc : c < 64)
    (hshort : a = 0 → 32 ≤ b) (hsurrogate : a = 13 → b < 32) :
    step (UInt8.ofNat (a + 224)) (UInt8.ofNat (b + 128) :: UInt8.ofNat (c + 128) :: r) =
      (some (Char.ofNat (a * 4096 + b * 64 + c)), r) := by
  have hn : a + 224 < 256 := by omega
  have hm : b + 128 < 256 := by omega
  have hvalue : (a + 224) % 16 = a := by omega
  have hsecond : second3 (UInt8.ofNat (a + 224)) (UInt8.ofNat (b + 128)) = true := by
    simp only [second3, continues, beq_ofNat hn, le_ofNat hm, ofNat_le hm, UInt8.reduceToNat,
      decide_eq_true_eq]
    split
    · simp
      omega
    · split <;> simp <;> omega
  unfold step
  simp only [ofNat_lt hn, le_ofNat hn, ofNat_le hn, toNat_ofNat hn, UInt8.reduceToNat,
    Bool.and_eq_true, decide_eq_true_eq]
  rw [if_neg (by omega), if_neg (by omega), if_pos (by omega)]
  simp only [hsecond, continues_ofNat hc, low6_ofNat hb, low6_ofNat hc, hvalue, if_true]

theorem step_four {a b c d : Nat} (ha : a < 5) (hb : b < 64) (hc : c < 64) (hd : d < 64)
    (hshort : a = 0 → 16 ≤ b) (hlong : a = 4 → b < 16) :
    step (UInt8.ofNat (a + 240))
        (UInt8.ofNat (b + 128) :: UInt8.ofNat (c + 128) :: UInt8.ofNat (d + 128) :: r) =
      (some (Char.ofNat (a * 262144 + b * 4096 + c * 64 + d)), r) := by
  have hn : a + 240 < 256 := by omega
  have hm : b + 128 < 256 := by omega
  have hvalue : (a + 240) % 8 = a := by omega
  have hsecond : second4 (UInt8.ofNat (a + 240)) (UInt8.ofNat (b + 128)) = true := by
    simp only [second4, continues, beq_ofNat hn, le_ofNat hm, ofNat_le hm, UInt8.reduceToNat,
      decide_eq_true_eq]
    split
    · simp
      omega
    · split <;> simp <;> omega
  unfold step
  simp only [ofNat_lt hn, le_ofNat hn, ofNat_le hn, toNat_ofNat hn, UInt8.reduceToNat,
    Bool.and_eq_true, decide_eq_true_eq]
  rw [if_neg (by omega), if_neg (by omega), if_neg (by omega), if_pos (by omega)]
  simp only [hsecond, continues_ofNat hc, continues_ofNat hd, low6_ofNat hb, low6_ofNat hc,
    low6_ofNat hd, hvalue, if_true]

theorem exists_step_utf8EncodeChar (c : Char) :
    ∃ b bs, String.utf8EncodeChar c = b :: bs ∧ step b (bs ++ r) = (some c, r) := by
  have hvalid : c.toNat < 0xD800 ∨ 0xDFFF < c.toNat ∧ c.toNat < 0x110000 := c.valid
  have hof {n : Nat} (hn : n = c.toNat) : Char.ofNat n = c := hn ▸ Char.ofNat_toNat c
  unfold String.utf8EncodeChar
  generalize hn : c.val.toNat = n
  obtain rfl : c.toNat = n := hn
  dsimp only
  split
  · exact ⟨_, _, rfl, by rw [List.nil_append, step_one r (by omega), hof rfl]⟩
  · split
    · refine ⟨_, _, rfl, ?_⟩
      rw [List.singleton_append, step_two r (by omega) (by omega), hof (by omega)]
    · split
      · refine ⟨_, _, rfl, ?_⟩
        simp only [List.cons_append, List.nil_append]
        rw [step_three r (by omega) (by omega) (by omega) (by omega) (by omega), hof (by omega)]
      · refine ⟨_, _, rfl, ?_⟩
        simp only [List.cons_append, List.nil_append]
        rw [step_four r (by omega) (by omega) (by omega) (by omega) (by omega) (by omega),
          hof (by omega)]

/-! ## Whole texts -/

theorem decode?_encode (s : List Char) : decode? (encode s) = some s := by
  induction s with
  | nil => simp [encode, decode?]
  | cons c s ih =>
    obtain ⟨b, bs, hoctets, hstep⟩ := exists_step_utf8EncodeChar (encode s) c
    have hencode : encode (c :: s) = b :: (bs ++ encode s) := by
      rw [encode, List.flatMap_cons, hoctets]
      rfl
    rw [hencode, decode?]
    split
    · rename_i heq
      rw [hstep] at heq
      cases heq
      rw [ih]
      rfl
    · rename_i heq
      rw [hstep] at heq
      cases heq

end Switchboard.Utf8
