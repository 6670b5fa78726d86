import Mathlib.Data.List.DropRight
import Switchboard.Text.Blank
import Switchboard.Text.Pieces

/-!
# Texts without blanks around them

Trimming keeps a text that has no blank at either end, and takes away whatever blanks are put around it.
Such texts can be joined by a separator that none of them has, and are the pieces again.
-/

namespace Switchboard.Text

structure Tight (s : List Char) : Prop where
  head : ∀ c ∈ s.head?, isBlank c = false
  last : ∀ c ∈ s.getLast?, isBlank c = false

theorem tight_trim (s : List Char) : Tight (trim s) := by
  have hprefix : trim s <+: s.dropWhile isBlank := List.rdropWhile_prefix isBlank _
  constructor
  · intro c hc
    have hhead : (s.dropWhile isBlank).head? = some c := by
      obtain ⟨u, hu⟩ := hprefix
      rw [← hu, List.head?_append, hc]
      rfl
    have hdropped := List.head?_dropWhile_not isBlank s
    rw [hhead] at hdropped
    simpa using hdropped
  · intro c hc
    rw [trim, dropEnds, dropEndWhile, List.getLast?_reverse] at hc
    have hdropped := List.head?_dropWhile_not isBlank (s.dropWhile isBlank).reverse
    rw [hc] at hdropped
    simpa using hdropped

/-- Blanks around a text are taken away, down to what is tight. -/
theorem trim_around {pre s post : List Char} (hpre : ∀ c ∈ pre, isBlank c = true)
    (hpost : ∀ c ∈ post, isBlank c = true) (hs : Tight s) (hne : s ≠ []) :
    trim (pre ++ s ++ post) = s := by
  have hfront : ∀ u, (s ++ u).dropWhile isBlank = s ++ u := by
    cases s with
    | nil => exact absurd rfl hne
    | cons c s =>
      have hc : isBlank c = false := hs.head c rfl
      simp [hc]
  have hback : s.reverse.dropWhile isBlank = s.reverse := by
    cases hrev : s.reverse with
    | nil => rfl
    | cons c r =>
      have hlast : s.getLast? = some c := by rw [← List.head?_reverse, hrev, List.head?_cons]
      have hc : isBlank c = false := hs.last c hlast
      simp [hc]
  have hpost' : ∀ c ∈ post.reverse, isBlank c = true := fun c hc => hpost c (List.mem_reverse.mp hc)
  rw [trim, dropEnds, dropEndWhile, List.append_assoc, List.dropWhile_append_of_pos hpre, hfront,
    List.reverse_append, List.dropWhile_append_of_pos hpost', hback, List.reverse_reverse]

theorem trim_eq_self_iff {s : List Char} : trim s = s ↔ Tight s := by
  constructor
  · intro h
    rw [← h]
    exact tight_trim s
  · intro hs
    cases s with
    | nil => rfl
    | cons c s =>
      have h : trim ([] ++ (c :: s) ++ []) = c :: s :=
        trim_around (by simp) (by simp) hs (List.cons_ne_nil c s)
      simpa using h

/-! ## Joined texts -/

variable {sep : Char}

theorem pieces_of_notMem {p : List Char} (hp : sep ∉ p) : pieces sep p = [p] := by
  induction p with
  | nil => rfl
  | cons c p ih =>
    rw [List.mem_cons, not_or] at hp
    rw [pieces, if_neg (Ne.symm hp.1), ih hp.2]

theorem pieces_append_sep (s s' : List Char) :
    pieces sep (s ++ sep :: s') = pieces sep s ++ pieces sep s' := by
  induction s with
  | nil => simp [pieces]
  | cons c s ih =>
    rw [List.cons_append, pieces, pieces, ih]
    split
    · rfl
    · cases hs : pieces sep s with
      | nil => exact absurd hs (pieces_ne_nil sep s)
      | cons p ps => rfl

theorem pieces_append {p : List Char} (hp : sep ∉ p) (s : List Char) :
    pieces sep (p ++ sep :: s) = p :: pieces sep s := by
  rw [pieces_append_sep, pieces_of_notMem hp, List.singleton_append]

theorem pieces_join {ps : List (List Char)} (hps : ∀ p ∈ ps, sep ∉ p) (hne : ps ≠ []) :
    pieces sep (join sep ps) = ps := by
  induction ps with
  | nil => exact absurd rfl hne
  | cons p ps ih =>
    obtain ⟨hp, hps⟩ := List.forall_mem_cons.mp hps
    cases ps with
    | nil => exact pieces_of_notMem hp
    | cons q ps => rw [join, pieces_append hp, ih hps (List.cons_ne_nil q ps)]

theorem head?_join {p : List Char} (hp : p ≠ []) (ps : List (List Char)) :
    (join sep (p :: ps)).head? = p.head? := by
  cases ps with
  | nil => rfl
  | cons q ps => rw [join, List.head?_append_of_ne_nil _ hp]

theorem tight_join {ps : List (List Char)} (hps : ∀ p ∈ ps, p ≠ [] ∧ Tight p) :
    Tight (join sep ps) := by
  induction ps with
  | nil => exact ⟨by simp [join], by simp [join]⟩
  | cons p ps ih =>
    obtain ⟨⟨hne, hp⟩, hps⟩ := List.forall_mem_cons.mp hps
    cases ps with
    | nil => exact hp
    | cons q ps =>
      have hjoin : join sep (q :: ps) ≠ [] := by
        intro h
        have hhead : (join sep (q :: ps)).head? = q.head? :=
          head?_join (hps q List.mem_cons_self).1 ps
        rw [h] at hhead
        exact (hps q List.mem_cons_self).1 (List.head?_eq_none_iff.mp hhead.symm)
      constructor
      · rw [head?_join hne]
        exact hp.head
      · rw [join, List.getLast?_append_of_ne_nil _ (List.cons_ne_nil _ _),
          List.getLast?_cons_of_ne_nil hjoin]
        exact (ih hps).last

end Switchboard.Text
