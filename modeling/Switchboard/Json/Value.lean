/-!
# JSON values

A number is an integer of at most 64 bits or a finite double. The members of an object stand in the
order in which they are written; `Members.insert` keeps them sorted by key with one member a key,
which is the order of every object that has been read.
-/

namespace Switchboard

inductive Json.Number where
  | int (n : Int)
  | float (x : Float)
deriving DecidableEq, Repr

inductive Json where
  | null
  | bool (b : Bool)
  | num (n : Json.Number)
  | str (s : String)
  | arr (items : List Json)
  | obj (members : List (String × Json))
deriving Repr, Inhabited

namespace Json

/-! ## Equality

None can be derived for a type that stands within lists of its own. -/

mutual

def decEq : (a b : Json) → Decidable (a = b)
  | .null, b => match b with
    | .null => isTrue rfl
    | .bool _ | .num _ | .str _ | .arr _ | .obj _ => isFalse nofun
  | .bool x, b => match b with
    | .bool y => decidable_of_iff (x = y) (by simp)
    | .null | .num _ | .str _ | .arr _ | .obj _ => isFalse nofun
  | .num x, b => match b with
    | .num y => decidable_of_iff (x = y) (by simp)
    | .null | .bool _ | .str _ | .arr _ | .obj _ => isFalse nofun
  | .str x, b => match b with
    | .str y => decidable_of_iff (x = y) (by simp)
    | .null | .bool _ | .num _ | .arr _ | .obj _ => isFalse nofun
  | .arr xs, b => match b with
    | .arr ys => @decidable_of_iff _ (xs = ys) (by simp) (decEqItems xs ys)
    | .null | .bool _ | .num _ | .str _ | .obj _ => isFalse nofun
  | .obj xs, b => match b with
    | .obj ys => @decidable_of_iff _ (xs = ys) (by simp) (decEqMembers xs ys)
    | .null | .bool _ | .num _ | .str _ | .arr _ => isFalse nofun

def decEqItems : (xs ys : List Json) → Decidable (xs = ys)
  | [], [] => isTrue rfl
  | x :: xs, y :: ys =>
    @decidable_of_iff _ (x = y ∧ xs = ys) (by simp)
      (@instDecidableAnd _ _ (decEq x y) (decEqItems xs ys))
  | [], _ :: _ | _ :: _, [] => isFalse nofun

def decEqMembers : (xs ys : List (String × Json)) → Decidable (xs = ys)
  | [], [] => isTrue rfl
  | (j, x) :: xs, (k, y) :: ys =>
    @decidable_of_iff _ (j = k ∧ x = y ∧ xs = ys) (by simp [and_assoc])
      (@instDecidableAnd _ _ _ (@instDecidableAnd _ _ (decEq x y) (decEqMembers xs ys)))
  | [], _ :: _ | _ :: _, [] => isFalse nofun

end

instance : DecidableEq Json := decEq

def int (n : Int) : Json := .num (.int n)

def nat (n : Nat) : Json := .num (.int n)

def text (s : List Char) : Json := .str (String.ofList s)

/-- A double as JSON; what is not finite has no number and becomes `null`. -/
def ofFloat (x : Float) : Json := if x.isFinite then .num (.float x) else .null

/-! ## Members -/

abbrev Members := List (String × Json)

def Members.insert (ms : Members) (key : String) (value : Json) : Members :=
  match ms with
  | [] => [(key, value)]
  | (k, v) :: rest =>
    if key < k then (key, value) :: (k, v) :: rest
    else if k = key then (key, value) :: rest
    else (k, v) :: Members.insert rest key value

def Members.find? (ms : Members) (key : String) : Option Json := ms.lookup key

def Members.erase (ms : Members) (key : String) : Members := ms.filter (·.1 != key)

/-- Members in key order; of several with one key the last is kept. -/
def Members.sorted (ms : Members) : Members := ms.foldl (fun acc (k, v) => acc.insert k v) []

def get? (j : Json) (key : String) : Option Json :=
  match j with
  | .obj ms => Members.find? ms key
  | _ => none

end Json

end Switchboard
