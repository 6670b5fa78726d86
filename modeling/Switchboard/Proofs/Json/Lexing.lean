import Mathlib.Data.List.Basic
import Switchboard.Json.Token

/-!
# Cutting texts

A text is cut into tokens without loss. One that can be cut is cut in the same way with more text
behind it, as long as what follows begins with a mark: no numeral and no blank goes on there.
-/

namespace Switchboard.Json

open Numerics

/-! ## Marks -/

/-- Nothing, or a text that begins with a mark. -/
def Marked (u : List Char) : Prop := ∀ c ∈ u.head?, isMark c = true

theorem marked_cons {c : Char} (hc : isMark c = true) (u : List Char) : Marked (c :: u) := by
  intro c' hc'
  obtain rfl : c = c' := by simpa using hc'
  exact hc

theorem isMark_iff {c : Char} :
    isMark c = true ↔ c = '{' ∨ c = '}' ∨ c = '[' ∨ c = ']' ∨ c = ',' ∨ c = ':' := by
  simp [isMark, or_assoc]

theorem not_isDigit_of_isMark {c : Char} (hc : isMark c = true) : isDigit c = false := by
  rcases isMark_iff.mp hc with rfl | rfl | rfl | rfl | rfl | rfl <;> rfl

theorem not_isSpace_of_isMark {c : Char} (hc : isMark c = true) : isSpace c = false := by
  rcases isMark_iff.mp hc with rfl | rfl | rfl | rfl | rfl | rfl <;> rfl

theorem cutSign_append {s : List Char} (hs : s ≠ []) (u : List Char) :
    cutSign (s ++ u) = ((cutSign s).1, (cutSign s).2 ++ u) := by
  fun_cases cutSign s with
  | case1 | case2 => rfl
  | case3 s hplus hminus =>
    cases s with
    | nil => exact absurd rfl hs
    | cons c s =>
      have hp : c ≠ '+' := fun h => hplus s (h ▸ rfl)
      have hm : c ≠ '-' := fun h => hminus s (h ▸ rfl)
      simp [cutSign, hp, hm]

section marked

variable {u : List Char} (hu : Marked u)
include hu

theorem while_append {p : Char → Bool} (hp : ∀ c, isMark c = true → p c = false) (s : List Char) :
    (s ++ u).takeWhile p = s.takeWhile p ∧ (s ++ u).dropWhile p = s.dropWhile p ++ u := by
  induction s with
  | nil =>
    cases u with
    | nil => exact ⟨rfl, rfl⟩
    | cons c u =>
      have hc : p c = false := hp c (hu c rfl)
      simp [hc]
  | cons c s ih => by_cases hc : p c <;> simp [hc, ih]

/-! ## Scanning with more text behind -/

theorem scanWhole_append (s : List Char) :
    scanWhole (s ++ u) = (scanWhole s).map fun (w, r) => (w, r ++ u) := by
  obtain ⟨htake, hdrop⟩ := while_append hu (fun _ => not_isDigit_of_isMark) s
  unfold scanWhole
  rw [htake, hdrop]
  split <;> rfl

theorem scanFraction_append (s : List Char) :
    scanFraction (s ++ u) = (scanFraction s).map fun (w, r) => (w, r ++ u) := by
  cases s with
  | nil =>
    cases u with
    | nil => rfl
    | cons c u =>
      have hc : c ≠ '.' := by
        rintro rfl
        exact absurd (hu '.' rfl) (by decide)
      simp [scanFraction, hc]
  | cons c s =>
    by_cases hc : c = '.'
    · subst hc
      obtain ⟨htake, hdrop⟩ := while_append hu (fun _ => not_isDigit_of_isMark) s
      simp only [scanFraction, List.cons_append, htake, hdrop]
      split <;> rfl
    · simp [scanFraction, hc]

theorem scanExponent_append (s : List Char) :
    scanExponent (s ++ u) = (scanExponent s).map fun (w, r) => (w, r ++ u) := by
  have hmark : ∀ c ∈ u.head?, c ≠ 'e' ∧ c ≠ 'E' ∧ c ≠ '+' ∧ c ≠ '-' := by
    intro c hc
    rcases isMark_iff.mp (hu c hc) with rfl | rfl | rfl | rfl | rfl | rfl <;> decide
  cases s with
  | nil =>
    cases u with
    | nil => rfl
    | cons c u =>
      obtain ⟨he, hE, _, _⟩ := hmark c rfl
      simp [scanExponent, he, hE]
  | cons e s =>
    by_cases he : (e == 'e' || e == 'E') = true
    · have hsign : cutSign (s ++ u) = ((cutSign s).1, (cutSign s).2 ++ u) := by
        cases s with
        | nil =>
          cases u with
          | nil => rfl
          | cons c u =>
            obtain ⟨_, _, hplus, hminus⟩ := hmark c rfl
            simp [cutSign, hplus, hminus]
        | cons c s => exact cutSign_append (List.cons_ne_nil c s) u
      obtain ⟨htake, hdrop⟩ := while_append hu (fun _ => not_isDigit_of_isMark) (cutSign s).2
      simp only [scanExponent, List.cons_append, he, if_true, hsign, htake, hdrop]
      split <;> rfl
    · simp [scanExponent, he]

end marked

/-! ## Texts of scanned parts -/

theorem scanWhole_text {s w r : List Char} (h : scanWhole s = some (w, r)) : s = w ++ r := by
  have hs := List.takeWhile_append_dropWhile (p := isDigit) (l := s)
  unfold scanWhole at h
  split at h
  · cases h
  · cases h
    simp_all
  · cases h
  · cases h
    exact hs.symm

theorem scanFraction_text {s f r : List Char} (h : scanFraction s = some (f, r)) :
    s = (if f.isEmpty then [] else '.' :: f) ++ r := by
  unfold scanFraction at h
  split at h
  · rename_i t
    have ht := List.takeWhile_append_dropWhile (p := isDigit) (l := t)
    split at h
    · cases h
    · rename_i hne
      cases h
      rw [if_neg (by simpa using hne), List.cons_append, ht]
  · cases h
    rfl

theorem cutSign_text (s : List Char) : s = (cutSign s).1.toList ++ (cutSign s).2 := by
  fun_cases cutSign s <;> rfl

def exponentText : Option (Char × Option Char × List Char) → List Char
  | none => []
  | some (e, sign, ds) => e :: sign.toList ++ ds

theorem Numeral.text_eq (n : Numeral) : n.text =
    (if n.negative then ['-'] else []) ++ n.whole ++
      (if n.fraction.isEmpty then [] else '.' :: n.fraction) ++ exponentText n.exponent := by
  unfold Numeral.text exponentText
  rfl

theorem scanExponent_text {s r : List Char} {x : Option (Char × Option Char × List Char)}
    (h : scanExponent s = some (x, r)) : s = exponentText x ++ r := by
  cases s with
  | nil =>
    cases h
    rfl
  | cons e t =>
    by_cases he : (e == 'e' || e == 'E') = true
    · have ht := List.takeWhile_append_dropWhile (p := isDigit) (l := (cutSign t).2)
      simp only [scanExponent, he, if_true] at h
      split at h
      · cases h
      · cases h
        rw [exponentText, List.append_assoc, ht, List.cons_append, ← cutSign_text t]
    · simp only [scanExponent, he] at h
      cases h
      rfl

/-! ## Numerals -/

/-- A numeral is its sign, its whole part, its fraction and its exponent, one after the other. -/
theorem scanNumeral_iff {s r : List Char} {n : Numeral} : scanNumeral s = some (n, r) ↔
    ∃ s₁ s₂ s₃, s = (if n.negative then ['-'] else []) ++ s₁ ∧
      scanWhole s₁ = some (n.whole, s₂) ∧ scanFraction s₂ = some (n.fraction, s₃) ∧
      scanExponent s₃ = some (n.exponent, r) := by
  obtain ⟨negative, whole, fraction, exponent⟩ := n
  have hsigned : ∀ t, scanWhole ('-' :: t) = none := fun t => by
    simp [scanWhole, show isDigit '-' = false from rfl]
  unfold scanNumeral
  simp only [Option.bind_eq_bind, Option.bind_eq_some_iff, Prod.exists, Option.some.injEq,
    Prod.mk.injEq, Numeral.mk.injEq]
  constructor
  · rintro ⟨w, s₂, hw, f, s₃, hf, x, r', hx, ⟨rfl, rfl, rfl, rfl⟩, rfl⟩
    refine ⟨_, s₂, s₃, ?_, hw, hf, hx⟩
    split <;> rfl
  · rintro ⟨s₁, s₂, s₃, rfl, hw, hf, hx⟩
    have hunsigned : ∀ t, s₁ ≠ '-' :: t := by
      rintro t rfl
      rw [hsigned] at hw
      cases hw
    refine ⟨whole, s₂, ?_, fraction, s₃, hf, exponent, r, hx, ?_⟩
    · cases negative with
      | false => simpa using hw
      | true => exact hw
    · cases negative with
      | false => simp
      | true => exact ⟨⟨rfl, rfl, rfl, rfl⟩, rfl⟩

theorem scanNumeral_append {s r u : List Char} {n : Numeral} (h : scanNumeral s = some (n, r))
    (hu : Marked u) : scanNumeral (s ++ u) = some (n, r ++ u) := by
  obtain ⟨s₁, s₂, s₃, rfl, hw, hf, hx⟩ := scanNumeral_iff.mp h
  refine scanNumeral_iff.mpr ⟨s₁ ++ u, s₂ ++ u, s₃ ++ u, List.append_assoc _ _ _, ?_, ?_, ?_⟩
  · rw [scanWhole_append hu, hw]
    rfl
  · rw [scanFraction_append hu, hf]
    rfl
  · rw [scanExponent_append hu, hx]
    rfl

theorem scanNumeral_text {s r : List Char} {n : Numeral} (h : scanNumeral s = some (n, r)) :
    s = n.text ++ r := by
  obtain ⟨s₁, s₂, s₃, rfl, hw, hf, hx⟩ := scanNumeral_iff.mp h
  rw [scanWhole_text hw, scanFraction_text hf, scanExponent_text hx, Numeral.text_eq]
  simp only [List.append_assoc]

theorem scanNumeral_head {c : Char} {s r : List Char} {n : Numeral}
    (h : scanNumeral (c :: s) = some (n, r)) : c = '-' ∨ isDigit c = true := by
  obtain ⟨s₁, s₂, s₃, hs, hw, -⟩ := scanNumeral_iff.mp h
  cases hn : n.negative with
  | true =>
    rw [hn] at hs
    exact .inl (List.cons.inj hs).1
  | false =>
    rw [hn] at hs
    obtain rfl : c :: s = s₁ := hs
    by_contra hc
    simp [scanWhole, not_or.mp hc] at hw

/-! ## Quoted texts -/

inductive Piece : List Char → Prop
  | unicode {h1 h2 h3 h4 : Char} (hhex : (isHex h1 && isHex h2 && isHex h3 && isHex h4) = true) :
    Piece ['\\', 'u', h1, h2, h3, h4]
  | escape {e : Char} (he : isEscape e = true) : Piece ['\\', e]
  | plain {c : Char} (hquote : c ≠ '"') (hc : (c == '\\' || c.toNat < 0x20) = false) : Piece [c]

theorem scanQuoted_piece {p : List Char} (hp : Piece p) (r : List Char) :
    scanQuoted (p ++ r) = (scanQuoted r).map fun (b, rest) => (p ++ b, rest) := by
  cases hp with
  | unicode hhex =>
    simp only [List.cons_append, List.nil_append]
    rw [scanQuoted, if_pos hhex]
  | @escape e he =>
    have hu : e ≠ 'u' := by
      rintro rfl
      exact absurd he (by decide)
    simp only [List.cons_append, List.nil_append]
    rw [scanQuoted, if_pos he]
    intro h1 h2 h3 h4 r' h
    exact absurd h hu
  | @plain c hquote hc =>
    have hslash : c ≠ '\\' := by
      rintro rfl
      exact absurd hc (by decide)
    simp only [List.cons_append, List.nil_append]
    rw [scanQuoted, if_neg (by simpa using hc)]
    · exact hquote
    · intro h1 h2 h3 h4 r' h
      exact absurd h hslash
    · intro e r' h
      exact absurd h hslash

inductive Body : List Char → Prop
  | nil : Body []
  | piece {p b : List Char} (hp : Piece p) (hb : Body b) : Body (p ++ b)

theorem scanQuoted_iff {s b r : List Char} :
    scanQuoted s = some (b, r) ↔ Body b ∧ s = b ++ '"' :: r := by
  constructor
  · intro h
    fun_induction scanQuoted s generalizing b with
    | case1 | case4 | case6 | case7 => cases h
    | case2 r =>
      cases h
      exact ⟨.nil, rfl⟩
    | case3 h1 h2 h3 h4 t hhex ih =>
      obtain ⟨⟨b', r'⟩, ht, heq⟩ := Option.map_eq_some_iff.mp h
      cases heq
      obtain ⟨hb, rfl⟩ := ih ht
      exact ⟨.piece (.unicode hhex) hb, rfl⟩
    | case5 e t _ he ih =>
      obtain ⟨⟨b', r'⟩, ht, heq⟩ := Option.map_eq_some_iff.mp h
      cases heq
      obtain ⟨hb, rfl⟩ := ih ht
      exact ⟨.piece (.escape he) hb, rfl⟩
    | case8 c t hquote _ _ hc ih =>
      obtain ⟨⟨b', r'⟩, ht, heq⟩ := Option.map_eq_some_iff.mp h
      cases heq
      obtain ⟨hb, rfl⟩ := ih ht
      exact ⟨.piece (.plain hquote (by simpa using hc)) hb, rfl⟩
  · rintro ⟨hb, rfl⟩
    induction hb with
    | nil => rw [List.nil_append, scanQuoted]
    | piece hp _ ih =>
      rw [List.append_assoc, scanQuoted_piece hp, ih]
      rfl

/-! ## Whole texts -/

/-- The first token of a text, and what follows it. -/
inductive Cut : List Char → Token → List Char → Prop
  | word (w : Word) (r : List Char) : Cut (w.text ++ r) (.word w) r
  | blank {c : Char} (hc : isSpace c = true) (r : List Char) :
    Cut (c :: r) (.blank (c :: r.takeWhile isSpace)) (r.dropWhile isSpace)
  | mark {c : Char} (hc : isMark c = true) (r : List Char) : Cut (c :: r) (.mark c) r
  | quoted {b : List Char} (hb : Body b) (r : List Char) : Cut ('"' :: b ++ '"' :: r) (.quoted b) r
  | numeral {s r : List Char} {n : Numeral} (h : scanNumeral s = some (n, r)) : Cut s (.numeral n) r

theorem lex_nil : lex [] = some [] := by rw [lex]

theorem lex_of_cut {s r : List Char} {tok : Token} (h : Cut s tok r) :
    lex s = (lex r).map (tok :: ·) := by
  cases h with
  | word w => cases w <;> simp [Word.text, lex]
  | @blank c hc =>
    rw [lex, if_pos hc]
    all_goals
      intro r' h
      subst h
      exact absurd hc (by decide)
  | @mark c hc =>
    rw [lex, if_neg (by simp [not_isSpace_of_isMark hc]), if_pos hc]
    all_goals
      intro r' h
      subst h
      exact absurd hc (by decide)
  | @quoted b hb =>
    have hscan : scanQuoted (b ++ '"' :: r) = some (b, r) := scanQuoted_iff.mpr ⟨hb, rfl⟩
    rw [List.cons_append, lex]
    · simp only [show isSpace '"' = false from rfl, show isMark '"' = false from rfl,
        Bool.false_eq_true, if_false, beq_self_eq_true, if_true]
      split <;> simp_all
    all_goals
      intro r' h
      exact absurd h (by decide)
  | numeral h =>
    cases s with
    | nil => cases h
    | cons c r =>
      have hne : ∀ d, d ≠ '-' → isDigit d = false → c ≠ d := by
        rintro d hminus hdigit rfl
        rcases scanNumeral_head h with hc | hc
        · exact hminus hc
        · exact absurd (hc.symm.trans hdigit) (by decide)
      rw [lex]
      · simp only [isSpace, isMark, hne ' ' (by decide) rfl, hne '\n' (by decide) rfl,
          hne '\t' (by decide) rfl, hne '\r' (by decide) rfl, hne '{' (by decide) rfl,
          hne '}' (by decide) rfl, hne '[' (by decide) rfl, hne ']' (by decide) rfl,
          hne ',' (by decide) rfl, hne ':' (by decide) rfl, hne '"' (by decide) rfl,
          beq_iff_eq, Bool.or_eq_true, or_self, if_false]
        split <;> simp_all
      · exact fun _ h => absurd h (hne 't' (by decide) rfl)
      · exact fun _ h => absurd h (hne 'f' (by decide) rfl)
      · exact fun _ h => absurd h (hne 'n' (by decide) rfl)

theorem cut_of_lex {s : List Char} {ts : List Token} (h : lex s = some ts) :
    s = [] ∧ ts = [] ∨ ∃ tok r ts', Cut s tok r ∧ lex r = some ts' ∧ ts = tok :: ts' := by
  revert h
  fun_cases lex s <;> intro h
  case case1 =>
    cases h
    exact .inl ⟨rfl, rfl⟩
  case case8 | case10 => cases h
  all_goals
    obtain ⟨ts', hr, rfl⟩ := Option.map_eq_some_iff.mp h
    refine .inr ⟨_, _, ts', ?_, hr, rfl⟩
  case case2 r => exact .word .yes r
  case case3 r => exact .word .no r
  case case4 r => exact .word .null r
  case case5 c r _ _ _ hc => exact .blank hc r
  case case6 c r _ _ _ _ hc => exact .mark hc r
  case case7 c r _ _ _ _ _ hc b rest hscan =>
    obtain rfl : c = '"' := by simpa using hc
    obtain ⟨hb, rfl⟩ := scanQuoted_iff.mp hscan
    exact .quoted hb rest
  case case9 c r _ _ _ _ _ _ n rest hscan => exact .numeral hscan

theorem eq_nil_of_lex {s : List Char} (h : lex s = some []) : s = [] := by
  rcases cut_of_lex h with ⟨hs, -⟩ | ⟨_, _, _, _, _, heq⟩
  · exact hs
  · cases heq

theorem cut_of_lex_cons {s : List Char} {tok : Token} {ts : List Token}
    (h : lex s = some (tok :: ts)) : ∃ r, Cut s tok r ∧ lex r = some ts := by
  rcases cut_of_lex h with ⟨-, heq⟩ | ⟨_, r, _, hcut, hr, heq⟩
  · cases heq
  · cases heq
    exact ⟨r, hcut, hr⟩

theorem Cut.append {s r u : List Char} {tok : Token} (h : Cut s tok r) (hu : Marked u) :
    Cut (s ++ u) tok (r ++ u) := by
  cases h with
  | word w r =>
    rw [List.append_assoc]
    exact .word w (r ++ u)
  | blank hc r =>
    obtain ⟨htake, hdrop⟩ := while_append hu (fun _ => not_isSpace_of_isMark) r
    rw [← htake, ← hdrop]
    exact .blank hc (r ++ u)
  | mark hc r => exact .mark hc (r ++ u)
  | quoted hb r =>
    rw [List.append_assoc]
    exact .quoted hb (r ++ u)
  | numeral h => exact .numeral (scanNumeral_append h hu)

theorem Cut.text {s r : List Char} {tok : Token} (h : Cut s tok r) : s = tok.text ++ r := by
  cases h with
  | word w r => rfl
  | blank hc r => rw [Token.text, List.cons_append, List.takeWhile_append_dropWhile]
  | mark hc r => rfl
  | quoted hb r => simp [Token.text]
  | numeral h => exact scanNumeral_text h

/-- More text behind a mark does not change how the text before it is cut. -/
theorem lex_append {s : List Char} {ts : List Token} (h : lex s = some ts) {u : List Char}
    (hu : Marked u) : lex (s ++ u) = (lex u).map (ts ++ ·) := by
  induction ts generalizing s with
  | nil =>
    rw [eq_nil_of_lex h]
    simp
  | cons tok ts ih =>
    obtain ⟨r, hcut, hr⟩ := cut_of_lex_cons h
    rw [lex_of_cut (hcut.append hu), ih hr, Option.map_map]
    rfl

theorem lex_text {s : List Char} {ts : List Token} (h : lex s = some ts) :
    ts.flatMap Token.text = s := by
  induction ts generalizing s with
  | nil => exact (eq_nil_of_lex h).symm
  | cons tok ts ih =>
    obtain ⟨r, hcut, hr⟩ := cut_of_lex_cons h
    rw [List.flatMap_cons, ih hr, ← hcut.text]

theorem lex_blank {s : List Char} {ts : List Token} (h : lex s = some ts) {b : List Char}
    (hb : .blank b ∈ ts) : b ≠ [] ∧ ∀ c ∈ b, isSpace c = true := by
  induction ts generalizing s with
  | nil => cases hb
  | cons tok ts ih =>
    obtain ⟨r, hcut, hr⟩ := cut_of_lex_cons h
    rcases List.mem_cons.mp hb with rfl | hb
    · cases hcut with
      | @blank c hc r =>
        refine ⟨List.cons_ne_nil _ _, List.forall_mem_cons.mpr ⟨hc, ?_⟩⟩
        exact List.all_eq_true.mp List.all_takeWhile
    · exact ih hr hb

/-- A text with no blank at either end. -/
structure Trimmed (s : List Char) : Prop where
  head : ∀ c ∈ s.head?, isSpace c = false
  last : ∀ c ∈ s.getLast?, isSpace c = false

end Switchboard.Json
