import Switchboard.Json.Reader

/-!
# Records in JSON

A record is an object with known members, or a list with the fields in order. Members that are not
known are only read for their shape; a known one may stand once. A field that is missing is `none`.
-/

namespace Switchboard.Json.Tree

def named? : List (List Char × Tree) → Option (List (String × Tree))
  | [] => some []
  | (k, t) :: ms => do
    let key ← unquote k
    let rest ← named? ms
    some ((String.ofList key, t) :: rest)

/-- The member under a name; a second one of that name is refused. -/
def single? (ms : List (String × Tree)) (name : String) : Option (Option Tree) :=
  match ms.filter (·.1 == name) with
  | [] => some none
  | [(_, t)] => some (some t)
  | _ => none

def record? (names : List String) : Tree → Option (List (Option Tree))
  | object ms _ => (named? ms).bind fun ms => names.mapM (single? ms)
  | list items _ =>
    if items.length ≤ names.length then
      some (items.map some ++ List.replicate (names.length - items.length) none)
    else none
  | _ => none

end Switchboard.Json.Tree

namespace Switchboard.Json

/-! ## Simple values -/

def string? : Json → Option String
  | .str s => some s
  | _ => none

def uint64? : Json → Option Nat
  | .num (.int n) => if 0 ≤ n then some n.toNat else none
  | _ => none

def int64? : Json → Option Int
  | .num (.int n) => if -9223372036854775808 ≤ n ∧ n ≤ 9223372036854775807 then some n else none
  | _ => none

def bool? : Json → Option Bool
  | .bool b => some b
  | _ => none

def float? : Json → Option Float
  | .num (.float x) => some x
  | .num (.int n) => some (Float.ofInt n)
  | _ => none

def items? : Json → Option (List Json)
  | .arr items => some items
  | _ => none

def int64s? (j : Json) : Option (List Int) := j.items?.bind fun items => items.mapM int64?

def optional? {α : Type} (read? : Json → Option α) : Json → Option (Option α)
  | .null => some none
  | j => (read? j).map some

def memberOr? {α : Type} (j : Json) (key : String) (default : α) (read? : Json → Option α) :
    Option α :=
  match j.get? key with
  | some v => read? v
  | none => some default

end Switchboard.Json
