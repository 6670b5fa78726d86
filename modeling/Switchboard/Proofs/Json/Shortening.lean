import Switchboard.Proofs.Json.Lexing

/-!
# Less text behind

A text is cut in the same way when less follows it, as long as what is left begins as it did. So the
text of any tokens that stand together in a text is cut into these tokens.
-/

namespace Switchboard.Json

open Numerics

/-- What follows is nothing, or begins in the same way. -/
def Shortens (r' r : List Char) : Prop := ∀ c ∈ r'.head?, c ∈ r.head?

theorem Shortens.append {r' r : List Char} (h : Shortens r' r) (u : List Char) :
    Shortens (u ++ r') (u ++ r) := by
  cases u with
  | nil => exact h
  | cons c u => exact fun _ hc => hc

theorem while_shorten {p : Char → Bool} {s r' : List Char} (hr : Shortens r' (s.dropWhile p)) :
    (s.takeWhile p ++ r').takeWhile p = s.takeWhile p ∧
      (s.takeWhile p ++ r').dropWhile p = r' := by
  have hall : ∀ c ∈ s.takeWhile p, p c = true := List.all_eq_true.mp List.all_takeWhile
  have hhead : ∀ c ∈ r'.head?, p c = false := by
    intro c hc
    have hdropped := List.head?_dropWhile_not p s
    rw [hr c hc] at hdropped
    simpa using hdropped
  rw [List.takeWhile_append_of_pos hall, List.dropWhile_append_of_pos hall]
  cases r' with
  | nil => simp
  | cons c r' =>
    have hc : p c = false := hhead c rfl
    simp [hc]

section shorten

variable {s r r' : List Char} (hr : Shortens r' r)
include hr

theorem scanWhole_shorten {w : List Char} (h : scanWhole s = some (w, r)) :
    scanWhole (w ++ r') = some (w, r') := by
  unfold scanWhole at h
  have hparts : w = s.takeWhile isDigit ∧ r = s.dropWhile isDigit := by
    split at h <;> simp_all
  obtain ⟨rfl, rfl⟩ := hparts
  obtain ⟨htake, hdrop⟩ := while_shorten hr
  unfold scanWhole
  rw [htake, hdrop]
  split at h <;> simp_all

theorem scanFraction_shorten {f : List Char} (h : scanFraction s = some (f, r)) :
    scanFraction ((if f.isEmpty then [] else '.' :: f) ++ r') = some (f, r') := by
  unfold scanFraction at h
  split at h
  · split at h
    · cases h
    · rename_i hne
      cases h
      obtain ⟨htake, hdrop⟩ := while_shorten hr
      rw [if_neg (by simpa using hne), List.cons_append, scanFraction]
      simp only [htake, hdrop]
  · rename_i hpoint
    cases h
    cases r' with
    | nil => rfl
    | cons c r' =>
      have hc : c ≠ '.' := by
        rintro rfl
        cases s with
        | nil => simpa using hr '.' rfl
        | cons d s =>
          obtain rfl : d = '.' := by simpa using hr '.' rfl
          exact hpoint s rfl
      simp [scanFraction, hc]

theorem scanExponent_shorten {x : Option (Char × Option Char × List Char)}
    (h : scanExponent s = some (x, r)) : scanExponent (exponentText x ++ r') = some (x, r') := by
  cases s with
  | nil =>
    cases h
    cases r' with
    | nil => rfl
    | cons c r' => simpa using hr c rfl
  | cons e t =>
    by_cases he : (e == 'e' || e == 'E') = true
    · simp only [scanExponent, he, if_true] at h
      split at h
      · cases h
      · rename_i hne
        cases h
        obtain ⟨htake, hdrop⟩ := while_shorten hr
        have hsign : cutSign ((cutSign t).1.toList ++ ((cutSign t).2.takeWhile isDigit ++ r')) =
            ((cutSign t).1, (cutSign t).2.takeWhile isDigit ++ r') := by
          revert hne
          fun_cases cutSign t <;> intro hne
          · rfl
          · rfl
          · -- without a sign, a digit comes first
            cases hds : t.takeWhile isDigit with
            | nil => exact absurd hds hne
            | cons d ds =>
              have hd : isDigit d = true := by
                have hall := List.all_takeWhile (p := isDigit) (l := t)
                rw [hds, List.all_cons, Bool.and_eq_true] at hall
                exact hall.1
              have hplus : d ≠ '+' := by
                rintro rfl
                cases hd
              have hminus : d ≠ '-' := by
                rintro rfl
                cases hd
              simp [cutSign, hplus, hminus]
        simp only [exponentText, List.cons_append, List.append_assoc, scanExponent, he, if_true, hsign,
          htake, hdrop]
    · simp only [scanExponent, he] at h
      cases h
      cases r' with
      | nil => rfl
      | cons c r' =>
        obtain rfl : e = c := by simpa using hr c rfl
        simp [exponentText, scanExponent, he]

theorem scanNumeral_shorten {n : Numeral} (h : scanNumeral s = some (n, r)) :
    scanNumeral (n.text ++ r') = some (n, r') := by
  obtain ⟨s₁, s₂, s₃, -, hw, hf, hx⟩ := scanNumeral_iff.mp h
  have hs₃ := scanExponent_text hx
  have hs₂ := scanFraction_text hf
  have hr₃ : Shortens (exponentText n.exponent ++ r') s₃ := by
    rw [hs₃]
    exact hr.append _
  have hr₂ := hr₃.append (if n.fraction.isEmpty then [] else '.' :: n.fraction)
  rw [← hs₂] at hr₂
  refine scanNumeral_iff.mpr ⟨_, _, _, ?_, scanWhole_shorten hr₂ hw, scanFraction_shorten hr₃ hf,
    scanExponent_shorten hr hx⟩
  simp only [Numeral.text_eq, List.append_assoc]

end shorten

theorem Cut.shorten {s r r' : List Char} {tok : Token} (h : Cut s tok r) (hr : Shortens r' r) :
    Cut (tok.text ++ r') tok r' := by
  cases h with
  | word w r => exact .word w r'
  | @blank c hc r =>
    obtain ⟨htake, hdrop⟩ := while_shorten hr
    have hcut := Cut.blank hc (r.takeWhile isSpace ++ r')
    rwa [htake, hdrop] at hcut
  | mark hc r => exact .mark hc r'
  | quoted hb r =>
    have hcut := Cut.quoted hb r'
    simpa [Token.text] using hcut
  | numeral h => exact .numeral (scanNumeral_shorten hr h)

theorem lex_front {s : List Char} {ts us : List Token} (h : lex s = some (ts ++ us)) :
    lex (ts.flatMap Token.text) = some ts := by
  induction ts generalizing s with
  | nil => exact lex_nil
  | cons tok ts ih =>
    obtain ⟨r, hcut, hr⟩ := cut_of_lex_cons h
    replace hr : lex r = some (ts ++ us) := hr
    have hshort : Shortens (ts.flatMap Token.text) r := by
      intro c hc
      rw [← lex_text hr, List.flatMap_append, List.head?_append, hc]
      rfl
    rw [List.flatMap_cons, lex_of_cut (hcut.shorten hshort), ih hr]
    rfl

theorem lex_back {s : List Char} {ts us : List Token} (h : lex s = some (ts ++ us)) :
    lex (us.flatMap Token.text) = some us := by
  induction ts generalizing s with
  | nil =>
    have hs : us.flatMap Token.text = s := lex_text h
    rwa [hs]
  | cons tok ts ih =>
    obtain ⟨r, -, hr⟩ := cut_of_lex_cons h
    exact ih hr

end Switchboard.Json
