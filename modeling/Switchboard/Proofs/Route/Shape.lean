import Mathlib.Data.List.Basic
import Switchboard.Route.Lookup
import Switchboard.Route.Register

/-!
# Shapes

The shape of a pattern is its text with the names of the parameters left out. Shapes say what a set of
routes answers without any tree: which of them fit a path, and which one of those goes first.
-/

namespace Switchboard.Route

/-- The text without the names of the parameters; a name runs to the next slash. -/
def shape : List Char → List Char
  | [] => []
  | c :: rest => if c = ':' then ':' :: shape (rest.dropWhile (· != '/')) else c :: shape rest
termination_by s => s.length
decreasing_by
  · have := (List.dropWhile_suffix (· != '/') (l := rest)).length_le
    simp
    omega
  · simp

/-- The names of the parameters, in order; that of a catch-all is a star. -/
def paramNames : List Char → List String
  | [] => []
  | c :: rest =>
    if c = ':' then
      String.ofList (rest.takeWhile (· != '/')) :: paramNames (rest.dropWhile (· != '/'))
    else if c = '*' then "*" :: paramNames rest
    else paramNames rest
termination_by s => s.length
decreasing_by
  · have := (List.dropWhile_suffix (· != '/') (l := rest)).length_le
    simp
    omega
  · simp
  · simp

/-- Whether a shape fits a path. A colon takes what stands before the next slash and needs something
to be left, a star at the end takes all that is left, and anything else stands for itself. -/
def fits : List Char → List Char → Bool
  | [], path => path.isEmpty
  | c :: s, path =>
    if c = ':' then !path.isEmpty && fits s (path.dropWhile (· != '/'))
    else if c = '*' ∧ s = [] then true
    else
      match path with
      | d :: rest => c == d && fits s rest
      | [] => false

/-- What a shape goes on with: the end or a text of its own first, then a parameter, then a
catch-all. -/
def rank : List Char → Nat
  | ':' :: _ => 1
  | '*' :: _ => 2
  | _ => 0

/-- Whether a shape goes before another: the first place where they part decides. -/
def outranks : List Char → List Char → Bool
  | a :: s, b :: s' => if a = b then outranks s s' else decide (rank (a :: s) < rank (b :: s'))
  | s, s' => decide (rank s < rank s')

def marks (s : List Char) : Nat := s.countP fun c => c == ':' || c == '*'

def captures : List Char → List Char → List String
  | [], _ => []
  | c :: s, path =>
    if c = ':' then
      String.ofList (path.takeWhile (· != '/')) :: captures s (path.dropWhile (· != '/'))
    else if c = '*' ∧ s = [] then [String.ofList path]
    else captures s (path.drop 1)

def Literal (s : List Char) : Prop := ':' ∉ s ∧ '*' ∉ s

/-! ## Literal texts -/

theorem literal_nil : Literal [] := ⟨List.not_mem_nil, List.not_mem_nil⟩

theorem literal_cons {c : Char} {s : List Char} :
    Literal (c :: s) ↔ (c ≠ ':' ∧ c ≠ '*') ∧ Literal s := by
  simp only [Literal, List.mem_cons, not_or]
  constructor
  · intro ⟨⟨h1, h2⟩, h3, h4⟩
    exact ⟨⟨Ne.symm h1, Ne.symm h3⟩, h2, h4⟩
  · intro ⟨⟨h1, h3⟩, h2, h4⟩
    exact ⟨⟨Ne.symm h1, h2⟩, Ne.symm h3, h4⟩

theorem literal_append {s s' : List Char} : Literal (s ++ s') ↔ Literal s ∧ Literal s' := by
  simp only [Literal, List.mem_append, not_or]
  constructor
  · intro ⟨⟨h1, h2⟩, h3, h4⟩
    exact ⟨⟨h1, h3⟩, h2, h4⟩
  · intro ⟨⟨h1, h3⟩, h2, h4⟩
    exact ⟨⟨h1, h2⟩, h3, h4⟩

/-! ## Fitting -/

theorem fits_nil (p : List Char) : fits [] p = true ↔ p = [] := by
  simp [fits]

theorem fits_colon (s p : List Char) :
    fits (':' :: s) p = true ↔ p ≠ [] ∧ fits s (p.dropWhile (· != '/')) = true := by
  simp [fits]

theorem fits_star (p : List Char) : fits ['*'] p = true := by simp [fits]

theorem fits_cons {c : Char} (hc : c ≠ ':' ∧ c ≠ '*') (s p : List Char) :
    fits (c :: s) p = true ↔ ∃ rest, p = c :: rest ∧ fits s rest = true := by
  have hstar : ¬ (c = '*' ∧ s = []) := fun h => hc.2 h.1
  cases p with
  | nil => simp [fits, hc.1, hstar]
  | cons d rest =>
    simp only [fits, if_neg hc.1, if_neg hstar, Bool.and_eq_true, beq_iff_eq, List.cons.injEq]
    constructor
    · rintro ⟨rfl, h⟩
      exact ⟨rest, ⟨rfl, rfl⟩, h⟩
    · rintro ⟨_, ⟨rfl, rfl⟩, h⟩
      exact ⟨rfl, h⟩

theorem fits_append {w : List Char} (hw : Literal w) (s p : List Char) :
    fits (w ++ s) p = true ↔ ∃ rest, Tree.strip? w p = some rest ∧ fits s rest = true := by
  induction w generalizing p with
  | nil => simp [Tree.strip?]
  | cons c w ih =>
    rw [literal_cons] at hw
    rw [List.cons_append, fits_cons hw.1]
    cases p with
    | nil => simp [Tree.strip?]
    | cons d p =>
      simp only [Tree.strip?]
      by_cases hcd : c = d
      · subst hcd
        simp [← ih hw.2]
      · simp [hcd, Ne.symm hcd]

theorem strip?_eq_some {w p rest : List Char} : Tree.strip? w p = some rest ↔ p = w ++ rest := by
  induction w generalizing p with
  | nil => simp [Tree.strip?]
  | cons c w ih =>
    cases p with
    | nil => simp [Tree.strip?]
    | cons d p =>
      simp only [Tree.strip?]
      by_cases hcd : c = d
      · subst hcd
        simp [ih]
      · simp [hcd, Ne.symm hcd]

theorem fits_empty {s : List Char} (h : fits s [] = true) : s = [] ∨ s = ['*'] := by
  cases s with
  | nil => exact Or.inl rfl
  | cons c s =>
    by_cases hc : c = ':'
    · subst hc
      exact absurd rfl ((fits_colon s []).mp h).1
    · by_cases hs : c = '*' ∧ s = []
      · rw [hs.1, hs.2]
        exact Or.inr rfl
      · simp [fits, hc, hs] at h

/-! ## Marks -/

theorem marks_append (s s' : List Char) : marks (s ++ s') = marks s + marks s' :=
  List.countP_append

theorem marks_literal {s : List Char} (h : Literal s) : marks s = 0 := by
  rw [marks, List.countP_eq_zero]
  intro c hc hm
  rcases Bool.or_eq_true _ _ ▸ hm with h1 | h1
  · exact h.1 (beq_iff_eq.mp h1 ▸ hc)
  · exact h.2 (beq_iff_eq.mp h1 ▸ hc)

theorem captures_append {w : List Char} (hw : Literal w) (s rest : List Char) :
    captures (w ++ s) (w ++ rest) = captures s rest := by
  induction w with
  | nil => rfl
  | cons c w ih =>
    rw [literal_cons] at hw
    have hstar : ¬ (c = '*' ∧ w ++ s = []) := fun h => hw.1.2 h.1
    rw [List.cons_append, captures, if_neg hw.1.1, if_neg hstar]
    exact ih hw.2

/-! ## Shapes along a pattern -/

theorem shape_nil : shape [] = [] := by
  rw [shape]

theorem paramNames_nil : paramNames [] = [] := by
  rw [paramNames]

theorem shape_colon (rest : List Char) :
    shape (':' :: rest) = ':' :: shape (rest.dropWhile (· != '/')) := by
  rw [shape, if_pos rfl]

theorem shape_cons {c : Char} (hc : c ≠ ':') (rest : List Char) :
    shape (c :: rest) = c :: shape rest := by
  rw [shape, if_neg hc]

theorem paramNames_colon (rest : List Char) :
    paramNames (':' :: rest) =
      String.ofList (rest.takeWhile (· != '/')) :: paramNames (rest.dropWhile (· != '/')) := by
  rw [paramNames, if_pos rfl]

theorem paramNames_star (rest : List Char) : paramNames ('*' :: rest) = "*" :: paramNames rest := by
  rw [paramNames, if_neg (by decide), if_pos rfl]

theorem paramNames_cons {c : Char} (hc : c ≠ ':') (hs : c ≠ '*') (rest : List Char) :
    paramNames (c :: rest) = paramNames rest := by
  rw [paramNames, if_neg hc, if_neg hs]

theorem marks_shape (s : List Char) : marks (shape s) = (paramNames s).length := by
  fun_induction shape s with
  | case1 => rw [paramNames_nil]; rfl
  | case2 rest ih =>
    rw [paramNames_colon, List.length_cons, ← ih]
    simp [marks]
  | case3 c rest hc ih =>
    by_cases hs : c = '*'
    · subst hs
      rw [paramNames_star, List.length_cons, ← ih]
      simp [marks]
    · rw [paramNames_cons hc hs, ← ih]
      simp [marks, hc, hs]

/-! ## Precedence -/

theorem outranks_append (u s s' : List Char) : outranks (u ++ s) (u ++ s') = outranks s s' := by
  induction u with
  | nil => rfl
  | cons c u ih => simp [outranks, ih]

theorem outranks_of_rank {s s' : List Char} (h : rank s < rank s') : outranks s s' = true := by
  cases s with
  | nil => simpa [outranks] using h
  | cons a s =>
    cases s' with
    | nil => simp [rank] at h
    | cons b s' =>
      have hab : a ≠ b := by
        rintro rfl
        by_cases h1 : a = ':'
        · subst h1; simp [rank] at h
        · by_cases h2 : a = '*'
          · subst h2; simp [rank] at h
          · simp [rank, h1, h2] at h
      simp [outranks, hab, h]

theorem outranks_asymm {s s' : List Char} (h : outranks s s' = true) : outranks s' s = false := by
  fun_induction outranks s s' with
  | case1 s a s' ih => simp [outranks, ih h]
  | case2 a s b s' hab =>
    have := of_decide_eq_true h
    simp [outranks, Ne.symm hab]
    omega
  | case3 s s' hs =>
    have := of_decide_eq_true h
    cases s with
    | nil =>
      cases s' with
      | nil => exact absurd this (Nat.lt_irrefl _)
      | cons b s' => simp [outranks]; omega
    | cons a s =>
      cases s' with
      | nil => simp [rank] at this
      | cons b s' => exact absurd rfl (hs a s b s' rfl)

end Switchboard.Route
