/-!
# Pieces of a text

Cutting a text at every separator, or once at the first, and joining pieces.
-/

namespace Switchboard.Text

/-- The pieces between separators; an empty text is one empty piece. -/
def pieces (sep : Char) : List Char → List (List Char)
  | [] => [[]]
  | c :: s =>
    if c = sep then [] :: pieces sep s
    else
      match pieces sep s with
      | p :: ps => (c :: p) :: ps
      | [] => [[c]]

def join (sep : Char) : List (List Char) → List Char
  | [] => []
  | [p] => p
  | p :: q :: ps => p ++ sep :: join sep (q :: ps)

theorem pieces_ne_nil (sep : Char) (s : List Char) : pieces sep s ≠ [] := by
  cases s with
  | nil => simp [pieces]
  | cons c s =>
    rw [pieces]
    split
    · simp
    · split <;> simp

def cut (sep : Char) (s : List Char) : List Char × Option (List Char) :=
  match s.dropWhile (· != sep) with
  | [] => (s, none)
  | _ :: rest => (s.takeWhile (· != sep), some rest)

def lowerAscii (s : List Char) : List Char := s.map Char.toLower

def sameAscii (a b : String) : Bool := lowerAscii a.toList == lowerAscii b.toList

end Switchboard.Text
