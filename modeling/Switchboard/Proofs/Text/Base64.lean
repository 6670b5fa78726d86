import Mathlib.Data.Nat.Digits.Defs
import Switchboard.Text.Base64

/-!
# Octets in base64

Reading undoes writing and accepts nothing that is not written. What is written is the number that the
octets stand for, in digits of six bits, with zeros behind its last bits and padded to groups of four.
-/

namespace Switchboard.Base64

/-! ## Letters -/

def alphabet : List Char := "ABCDEFGHIJKLMNOPQRSTUVWXYZabcdefghijklmnopqrstuvwxyz0123456789+/".toList

theorem letter_eq : ∀ n < 64, letter n = alphabet.getD n '=' := by decide

theorem value?_letter : ∀ n < 64, value? (letter n) = some n := by decide

theorem letter_ne_pad : ∀ n < 64, letter n ≠ '=' := by decide

theorem value?_eq_some_iff {c : Char} {n : Nat} : value? c = some n ↔ n < 64 ∧ letter n = c := by
  constructor
  · intro h
    have hnat {lo hi : Char} (hc : (lo ≤ c && c ≤ hi) = true) :
        lo.toNat ≤ c.toNat ∧ c.toNat ≤ hi.toNat := by
      simpa [Char.le_def, UInt32.le_iff_toNat_le] using hc
    unfold value? at h
    split_ifs at h with hupper hlower hdigit hplus hslash
    · obtain ⟨hlo, hhi⟩ : 65 ≤ c.toNat ∧ c.toNat ≤ 90 := hnat hupper
      cases h
      rw [letter, if_pos (by omega), Nat.add_sub_cancel' hlo]
      exact ⟨by omega, Char.ofNat_toNat c⟩
    · obtain ⟨hlo, hhi⟩ : 97 ≤ c.toNat ∧ c.toNat ≤ 122 := hnat hlower
      cases h
      rw [letter, if_neg (by omega), if_pos (by omega), Nat.add_sub_cancel' (by omega)]
      exact ⟨by omega, Char.ofNat_toNat c⟩
    · obtain ⟨hlo, hhi⟩ : 48 ≤ c.toNat ∧ c.toNat ≤ 57 := hnat hdigit
      cases h
      rw [letter, if_neg (by omega), if_neg (by omega), if_pos (by omega), Nat.add_sub_cancel]
      exact ⟨by omega, Char.ofNat_toNat c⟩
    · cases h
      exact ⟨by decide, (eq_of_beq hplus).symm⟩
    · cases h
      exact ⟨by decide, (eq_of_beq hslash).symm⟩
  · rintro ⟨hn, rfl⟩
    exact value?_letter n hn

theorem letter_of_bind {α : Type} {c : Char} {f : Nat → Option α} {a : α}
    (h : (value? c).bind f = some a) : ∃ d < 64, letter d = c ∧ f d = some a := by
  obtain ⟨d, hd, hf⟩ := Option.bind_eq_some_iff.mp h
  obtain ⟨hlt, rfl⟩ := value?_eq_some_iff.mp hd
  exact ⟨d, hlt, rfl, hf⟩

/-! ## Groups -/

theorem octet_eq {n : Nat} {x : UInt8} (h : n = x.toNat) : UInt8.ofNat n = x := by
  rw [h, UInt8.ofNat_toNat]

theorem toNat_octet {n : Nat} (h : n < 256) : (UInt8.ofNat n).toNat = n := by
  rw [UInt8.toNat_ofNat', Nat.mod_eq_of_lt h]

section groups

variable {a b c d n : Nat}

theorem decode?_group (ha : a < 64) (hb : b < 64) (hc : c < 64) (hd : d < 64)
    (hn : ((a * 64 + b) * 64 + c) * 64 + d = n) (r : List Char) :
    decode? (letter a :: letter b :: letter c :: letter d :: r) =
      (decode? r).map fun rest =>
        UInt8.ofNat (n / 65536) :: UInt8.ofNat (n / 256 % 256) :: UInt8.ofNat (n % 256) :: rest := by
  rw [decode?]
  · simp only [value?_letter _ ha, value?_letter _ hb, value?_letter _ hc, value?_letter _ hd, ← hn]
    cases decode? r <;> rfl
  · intro hpad
    exact absurd hpad (letter_ne_pad c hc)
  · intro hpad
    exact absurd hpad (letter_ne_pad d hd)

theorem decode?_two (ha : a < 64) (hb : b < 64) (hc : c < 64) (hn : (a * 64 + b) * 64 + c = n) :
    decode? [letter a, letter b, letter c, '='] =
      if n % 4 = 0 then some [UInt8.ofNat (n / 1024), UInt8.ofNat (n / 4 % 256)] else none := by
  rw [decode?]
  · simp only [value?_letter _ ha, value?_letter _ hb, value?_letter _ hc, ← hn]
    rfl
  · intro hpad
    exact absurd hpad (letter_ne_pad c hc)

theorem decode?_one (ha : a < 64) (hb : b < 64) (hn : a * 64 + b = n) :
    decode? [letter a, letter b, '=', '='] =
      if n % 16 = 0 then some [UInt8.ofNat (n / 16)] else none := by
  rw [decode?]
  simp only [value?_letter _ ha, value?_letter _ hb, ← hn]
  rfl

end groups

/-! ## Writing and reading -/

theorem decode?_encode (b : Bytes) : decode? (encode b) = some b := by
  fun_induction encode b with
  | case1 x y z r n ih =>
    have hx := x.toNat_lt
    have hy := y.toNat_lt
    have hz := z.toNat_lt
    rw [decode?_group (n := n) (by omega) (by omega) (by omega) (by omega) (by omega), ih,
      Option.map_some, octet_eq (x := x) (by omega), octet_eq (x := y) (by omega),
      octet_eq (x := z) (by omega)]
  | case2 x y n =>
    have hx := x.toNat_lt
    have hy := y.toNat_lt
    rw [decode?_two (n := n) (by omega) (by omega) (by omega) (by omega), if_pos (by omega),
      octet_eq (x := x) (by omega), octet_eq (x := y) (by omega)]
  | case3 x n =>
    have hx := x.toNat_lt
    rw [decode?_one (n := n) (by omega) (by omega) (by omega), if_pos (by omega),
      octet_eq (x := x) (by omega)]
  | case4 => rfl

theorem encode_of_decode? {s : List Char} {b : Bytes} (h : decode? s = some b) : encode b = s := by
  induction s using decode?.induct generalizing b with
  | case1 =>
    cases h
    rfl
  | case2 c₁ c₂ =>
    rw [decode?] at h
    obtain ⟨d₁, hd₁, rfl, h₁⟩ := letter_of_bind h
    obtain ⟨d₂, hd₂, rfl, h₂⟩ := letter_of_bind h₁
    generalize hn : d₁ * 64 + d₂ = n at h₂
    obtain ⟨hbits, hread⟩ := Option.ite_none_right_eq_some.mp h₂
    cases hread
    have hkept : n / 16 * 16 = n := by omega
    simp only [encode, toNat_octet (show n / 16 < 256 by omega), hkept]
    rw [show n / 64 = d₁ by omega, show n % 64 = d₂ by omega]
  | case3 c₁ c₂ c₃ hpad =>
    rw [decode?.eq_3 c₁ c₂ c₃ hpad] at h
    obtain ⟨d₁, hd₁, rfl, h₁⟩ := letter_of_bind h
    obtain ⟨d₂, hd₂, rfl, h₂⟩ := letter_of_bind h₁
    obtain ⟨d₃, hd₃, rfl, h₃⟩ := letter_of_bind h₂
    generalize hn : (d₁ * 64 + d₂) * 64 + d₃ = n at h₃
    obtain ⟨hbits, hread⟩ := Option.ite_none_right_eq_some.mp h₃
    cases hread
    have hkept : (n / 1024 * 256 + n / 4 % 256) * 4 = n := by omega
    simp only [encode, toNat_octet (show n / 1024 < 256 by omega),
      toNat_octet (show n / 4 % 256 < 256 by omega), hkept]
    rw [show n / 4096 = d₁ by omega, show n / 64 % 64 = d₂ by omega, show n % 64 = d₃ by omega]
  | case4 c₁ c₂ c₃ c₄ r hone htwo ih =>
    rw [decode?.eq_4 c₁ c₂ c₃ c₄ r hone htwo] at h
    obtain ⟨d₁, hd₁, rfl, h₁⟩ := letter_of_bind h
    obtain ⟨d₂, hd₂, rfl, h₂⟩ := letter_of_bind h₁
    obtain ⟨d₃, hd₃, rfl, h₃⟩ := letter_of_bind h₂
    obtain ⟨d₄, hd₄, rfl, h₄⟩ := letter_of_bind h₃
    generalize hn : ((d₁ * 64 + d₂) * 64 + d₃) * 64 + d₄ = n at h₄
    obtain ⟨rest, hrest, hread⟩ := Option.bind_eq_some_iff.mp h₄
    cases hread
    have hkept : (n / 65536 * 256 + n / 256 % 256) * 256 + n % 256 = n := by omega
    simp only [encode, ih hrest, toNat_octet (show n / 65536 < 256 by omega),
      toNat_octet (show n / 256 % 256 < 256 by omega), toNat_octet (show n % 256 < 256 by omega), hkept]
    rw [show n / 262144 = d₁ by omega, show n / 4096 % 64 = d₂ by omega,
      show n / 64 % 64 = d₃ by omega, show n % 64 = d₄ by omega]
  | case5 s hnil hone htwo hgroup =>
    rw [decode?.eq_5 s hnil hone htwo hgroup] at h
    cases h

/-- A text is read as octets exactly if it is what is written for them. -/
theorem decode?_eq_some_iff {s : List Char} {b : Bytes} : decode? s = some b ↔ s = encode b := by
  constructor
  · intro h
    exact (encode_of_decode? h).symm
  · rintro rfl
    exact decode?_encode b

/-! ## Digits -/

/-- Octets in digits of six bits: the same number, with zeros behind it up to a whole digit. -/
structure Digits (b : Bytes) (ds : List Nat) : Prop where
  small : ∀ d ∈ ds, d < 64
  length : ds.length = (8 * b.length + 5) / 6
  number : Nat.ofDigits 64 ds.reverse =
    Nat.ofDigits 256 (b.map UInt8.toNat).reverse * 2 ^ (6 * ds.length - 8 * b.length)

theorem ofDigits_reverse_append (base : Nat) (front ds : List Nat) :
    Nat.ofDigits base (front ++ ds).reverse =
      Nat.ofDigits base ds.reverse + base ^ ds.length * Nat.ofDigits base front.reverse := by
  rw [List.reverse_append, Nat.ofDigits_append, List.length_reverse]

theorem Digits.group {x y z : UInt8} {r : Bytes} {ds : List Nat} (h : Digits r ds) {n : Nat}
    (hn : (x.toNat * 256 + y.toNat) * 256 + z.toNat = n) :
    Digits (x :: y :: z :: r) ([n / 262144, n / 4096 % 64, n / 64 % 64, n % 64] ++ ds) := by
  have hx := x.toNat_lt
  have hy := y.toNat_lt
  have hz := z.toNat_lt
  obtain ⟨hsmall, hlength, hnumber⟩ := h
  refine ⟨?_, ?_, ?_⟩
  · simp only [List.cons_append, List.nil_append, List.forall_mem_cons]
    exact ⟨by omega, by omega, by omega, by omega, hsmall⟩
  · simp only [List.length_append, List.length_cons, List.length_nil]
    omega
  · generalize hk : 6 * ds.length - 8 * r.length = k at hnumber
    have hshift : 6 * ([n / 262144, n / 4096 % 64, n / 64 % 64, n % 64] ++ ds).length -
        8 * (x :: y :: z :: r).length = k := by
      simp only [List.length_append, List.length_cons, List.length_nil]
      omega
    have hdigits : Nat.ofDigits 64 [n / 262144, n / 4096 % 64, n / 64 % 64, n % 64].reverse = n := by
      simp [Nat.ofDigits]
      omega
    have hoctets : Nat.ofDigits 256 [x.toNat, y.toNat, z.toNat].reverse = n := by
      simp [Nat.ofDigits]
      omega
    have hpow : 64 ^ ds.length = 256 ^ r.length * 2 ^ k := by
      rw [show 64 = 2 ^ 6 by rfl, show 256 = 2 ^ 8 by rfl, ← pow_mul, ← pow_mul, ← pow_add]
      congr 1
      omega
    have hmap : (x :: y :: z :: r).map UInt8.toNat =
        [x.toNat, y.toNat, z.toNat] ++ r.map UInt8.toNat := rfl
    rw [hshift, hmap, ofDigits_reverse_append, ofDigits_reverse_append, hdigits, hoctets, hnumber,
      hpow, List.length_map]
    ring

theorem encode_letters (b : Bytes) : ∃ ds, Digits b ds ∧
    encode b = ds.map letter ++ List.replicate ((3 - b.length % 3) % 3) '=' := by
  fun_induction encode b with
  | case1 x y z r n ih =>
    obtain ⟨ds, hds, hencode⟩ := ih
    refine ⟨_, hds.group rfl, ?_⟩
    have hpadding : (3 - (x :: y :: z :: r).length % 3) % 3 = (3 - r.length % 3) % 3 := by
      simp only [List.length_cons]
      omega
    rw [hencode, hpadding]
    rfl
  | case2 x y n =>
    have hx := x.toNat_lt
    have hy := y.toNat_lt
    refine ⟨[n / 4096, n / 64 % 64, n % 64], ⟨?_, by simp, ?_⟩, rfl⟩
    · simp only [List.forall_mem_cons]
      exact ⟨by omega, by omega, by omega, by simp⟩
    · simp [Nat.ofDigits]
      omega
  | case3 x n =>
    have hx := x.toNat_lt
    refine ⟨[n / 64, n % 64], ⟨?_, by simp, ?_⟩, rfl⟩
    · simp only [List.forall_mem_cons]
      exact ⟨by omega, by omega, by simp⟩
    · simp [Nat.ofDigits]
      omega
  | case4 => exact ⟨[], ⟨by simp, rfl, rfl⟩, rfl⟩

/-- What is written are the letters of the digits, and behind them the padding. -/
theorem encode_digits (b : Bytes) : ∃ ds, Digits b ds ∧
    encode b = ds.map (alphabet.getD · '=') ++ List.replicate ((3 - b.length % 3) % 3) '=' := by
  obtain ⟨ds, hds, hencode⟩ := encode_letters b
  refine ⟨ds, hds, ?_⟩
  rw [hencode, List.map_congr_left fun d hd => letter_eq d (hds.small d hd)]

end Switchboard.Base64
