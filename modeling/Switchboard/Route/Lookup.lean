import Switchboard.Route.Tree

/-!
# Lookup

A path is matched from the root on, at each node first with the static child, then with the
parameter child, then with the catch-all; a branch that leads nowhere is left again. Captured texts
go into slots that the caller provides, and a route that needs more slots does not match.
-/

namespace Switchboard.Route

inductive Lookup (α : Type) where
  | matched (handler : α)
  | methodNotAllowed
  | notFound
deriving DecidableEq, Repr

structure Found (α : Type) where
  outcome : Lookup α
  template : String
  names : List String
  slots : List String

namespace Tree

variable {α : Type}

def strip? (stem s : List Char) : Option (List Char) :=
  match stem, s with
  | [], s => some s
  | a :: as, b :: bs => if a = b then strip? as bs else none
  | _ :: _, [] => none

/-- What a static or parameter node leaves of `s`, the slots used after it, and the slots. -/
def consume (n : Node α) (s : List Char) (np : Nat) (slots : List String) :
    Option (List Char × Nat × List String) :=
  match n.kind with
  | .static => (strip? n.stem s).map fun rest => (rest, np, slots)
  | .param =>
    if np < slots.length then
      some (s.dropWhile (· != '/'), np + 1,
        slots.set np (String.ofList (s.takeWhile (· != '/'))))
    else none
  | .any => none

/-- The children that may match what is left of a path, in the order of trial. An empty rest is
only for a catch-all. -/
def candidates (t : Tree α) (i : Nat) (rest : List Char) : List Nat :=
  (if rest = [] then []
    else (t.child? i (firstOctet rest) .static).toList ++ (t.childOfKind? i .param).toList) ++
  (t.childOfKind? i .any).toList

def firstOf (visit : Nat → List String → Option Nat × List String) :
    List Nat → List String → Option Nat × List String
  | [], slots => (none, slots)
  | c :: cs, slots =>
    match visit c slots with
    | (some i, slots) => (some i, slots)
    | (none, slots) => firstOf visit cs slots

/-- Matches `s` from node `i` on, with `np` slots used so far. The slots keep what was written into
them also when the branch leads nowhere. `fuel` bounds the depth of the tree. -/
def search (t : Tree α) : Nat → Nat → List Char → Nat → List String → Option Nat × List String
  | 0, _, _, _, slots => (none, slots)
  | fuel + 1, i, s, np, slots =>
    let n := t.node i
    if n.kind = .any then
      if np < slots.length then (some i, slots.set np (String.ofList s)) else (none, slots)
    else
      match consume n s np slots with
      | none => (none, slots)
      | some (rest, np, slots) =>
        if rest = [] ∧ n.hasHandlers then (some i, slots)
        else firstOf (fun c slots => t.search fuel c rest np slots) (t.candidates i rest) slots

def outcome (n : Node α) (m : Method) : Lookup α :=
  match n.handlers m with
  | some h => .matched h
  | none => if n.hasHandlers then .methodNotAllowed else .notFound

def clearFrom (k : Nat) (slots : List String) : List String :=
  slots.take k ++ (slots.drop k).map fun _ => ""

/-- A catch-all below the node may take the empty rest when the node itself has no handler for the
method; its slot is emptied. -/
def fallback? (t : Tree α) (i : Nat) (m : Method) : Option Nat :=
  match outcome (t.node i) m with
  | .matched _ => none
  | _ => (t.childOfKind? i .any).filter fun c => (t.node c).hasHandlers

/-- Looks up a method and a path. Slots beyond those of the route that was met are emptied, and all
of them when there is none. -/
def find (t : Tree α) (m : Method) (path : String) (slots : List String) : Found α :=
  let s := path.toList
  match if s = [] then (none, slots) else t.search t.nodes.size root s 0 slots with
  | (none, slots) => ⟨.notFound, "", [], clearFrom 0 slots⟩
  | (some i, slots) =>
    let (i, slots) :=
      match t.fallback? i m with
      | some c => (c, slots.set ((t.node c).leaf.names.length - 1) "")
      | none => (i, slots)
    let n := t.node i
    ⟨outcome n m, n.leaf.template, n.leaf.names, clearFrom n.leaf.names.length slots⟩

end Tree

end Switchboard.Route
