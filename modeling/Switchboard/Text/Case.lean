import Switchboard.Text.CaseTable

/-!
# Letter case

Large and small letters of all scripts, and the change of a whole text to one case. A character may
have a case form of several characters. The large sigma becomes the final small sigma at the end of
a word and the ordinary one elsewhere.
-/

namespace Switchboard.Text

open CaseTable

def inRuns (runs : List (Nat × Nat × Nat)) (n : Nat) : Bool :=
  runs.any fun (first, last, step) => first ≤ n && n ≤ last && (n - first) % step == 0

def shiftBy (runs : List (Nat × Nat × Nat × Int)) (n : Nat) : Option Nat :=
  (runs.find? fun (first, last, step, _) => first ≤ n && n ≤ last && (n - first) % step == 0).map
    fun (_, _, _, d) => (n + d).toNat

/-! ## Single characters -/

def isUpper (c : Char) : Bool :=
  if c.toNat < 128 then c.isUpper else inRuns upperRuns c.toNat

def isLower (c : Char) : Bool :=
  if c.toNat < 128 then c.isLower else inRuns lowerRuns c.toNat

def isCased (c : Char) : Bool := isUpper c || isLower c || inRuns titleRuns c.toNat

def isCaseIgnorable (c : Char) : Bool :=
  if c.toNat < 128 then c == '\'' || c == ':' || c == '^' || c == '.' || c == '`'
  else inRuns ignorableRuns c.toNat

/-- The case form of a character: a listed sequence, a shifted character, or itself. -/
def caseForm (lists : List (Nat × List Nat)) (runs : List (Nat × Nat × Nat × Int)) (c : Char) :
    List Char :=
  match lists.lookup c.toNat with
  | some ns => ns.map Char.ofNat
  | none => [((shiftBy runs c.toNat).map Char.ofNat).getD c]

def lowerOf (c : Char) : List Char :=
  if c.toNat < 128 then [c.toLower] else caseForm toLowerLists toLowerRuns c

def upperOf (c : Char) : List Char :=
  if c.toNat < 128 then [c.toUpper] else caseForm toUpperLists toUpperRuns c

/-! ## Texts -/

def meetsCased (s : List Char) : Bool :=
  match s.dropWhile isCaseIgnorable with
  | c :: _ => isCased c
  | [] => false

/-- The small form of `s`, where `before` is what precedes it, last character first. -/
def lowerAfter (before : List Char) : List Char → List Char
  | [] => []
  | c :: r =>
    (if c == 'Σ' then (if meetsCased before && !meetsCased r then ['ς'] else ['σ']) else lowerOf c)
      ++ lowerAfter (c :: before) r

def lowerText (s : List Char) : List Char := lowerAfter [] s

def upperText (s : List Char) : List Char := s.flatMap upperOf

end Switchboard.Text
