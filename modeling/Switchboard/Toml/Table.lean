/-!
# TOML tables

A document is a table of tables and values. How a table came to be decides what may still be added to
it: a table with a header is open to keys below that header only, one that a longer header implies may
get its own header later, one made by dotted keys grows by dotted keys, and an inline table is closed.
-/

namespace Switchboard.Toml

inductive Form where
  | header | implied | dotted | inline
deriving DecidableEq, Repr

inductive Node where
  | text (s : String)
  | int (n : Int)
  | float (x : Float)
  | bool (b : Bool)
  /-- A date, a time, or both. -/
  | moment (written : List Char)
  | array (items : List Node)
  | table (form : Form) (members : List (String × Node))
  /-- The tables under a header in double brackets: the one opened last, and those before it, last
  first. -/
  | tables (last : List (String × Node)) (before : List (List (String × Node)))
deriving Inhabited

abbrev Members := List (String × Node)

namespace Members

def find? (ms : Members) (key : String) : Option Node := ms.lookup key

def replace (ms : Members) (key : String) (value : Node) : Members :=
  ms.map fun (k, v) => if k = key then (k, value) else (k, v)

/-- The table that a header path leads to, changed by `f`. Tables that are missing on the way are
implied; of several tables under one header the last is meant. -/
def alterAt (f : Members → Option Members) : List String → Members → Option Members
  | [], ms => f ms
  | k :: path, ms =>
    match ms.find? k with
    | none => (alterAt f path []).map fun inner => ms ++ [(k, .table .implied inner)]
    | some (.table form inner) =>
      if form = .inline then none
      else (alterAt f path inner).map fun inner => ms.replace k (.table form inner)
    | some (.tables last before) =>
      (alterAt f path last).map fun last => ms.replace k (.tables last before)
    | some _ => none

def openTable (ms : Members) (path : List String) (key : String) : Option Members :=
  alterAt (fun ms =>
    match ms.find? key with
    | none => some (ms ++ [(key, .table .header [])])
    | some (.table .implied inner) => some (ms.replace key (.table .header inner))
    | some _ => none) path ms

def openElement (ms : Members) (path : List String) (key : String) : Option Members :=
  alterAt (fun ms =>
    match ms.find? key with
    | none => some (ms ++ [(key, .tables [] [])])
    | some (.tables last before) => some (ms.replace key (.tables [] (last :: before)))
    | some _ => none) path ms

/-- Puts a value under a dotted key. Only tables made by dotted keys, or below an implied one, are
entered, and the value must be new. `form` is that of the table, and `first` says that no part of
the key has been used. -/
def put? (form : Form) (first : Bool) (key : String) (value : Node) :
    List String → Members → Option Members
  | [], ms =>
    if (form = .dotted) = first ∨ (ms.find? key).isSome then none else some (ms ++ [(key, value)])
  | k :: path, ms =>
    match ms.find? k with
    | none =>
      (put? .dotted false key value path []).map fun inner => ms ++ [(k, .table .dotted inner)]
    | some (.table inside inner) =>
      if inside = .dotted ∨ inside = .implied then
        (put? inside false key value path inner).map fun inner => ms.replace k (.table inside inner)
      else none
    | some (.tables last before) =>
      (put? .header false key value path last).map fun last => ms.replace k (.tables last before)
    | some _ => none

end Members

end Switchboard.Toml
