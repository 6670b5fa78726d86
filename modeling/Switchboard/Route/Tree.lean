import Switchboard.Http.Method

/-!
# The route tree

The routes of all methods share one radix tree. Nodes stand in a table and refer to each other by
position; position 0 is the root. A node holds a piece of the paths below it, its children in the
order static, parameter, catch-all, and the handlers of the routes that end at it.
-/

namespace Switchboard.Route

inductive Kind where
  | static | param | any
deriving DecidableEq, Repr

namespace Kind

def rank : Kind → Nat
  | static => 0
  | param => 1
  | any => 2

end Kind

/-- The octet by which a child is found: the first one of its text. -/
def firstOctet : List Char → UInt8
  | [] => 0
  | c :: _ => (String.utf8EncodeChar c).headD 0

structure Leaf where
  template : String
  names : List String
deriving DecidableEq, Repr

structure Node (α : Type) where
  kind : Kind
  label : UInt8
  stem : List Char
  parent : Option Nat
  children : List Nat := []
  handlers : Method → Option α := fun _ => none
  leaf : Leaf := ⟨"", []⟩

namespace Node

variable {α : Type}

def new (kind : Kind) (stem : List Char) (parent : Option Nat) : Node α :=
  { kind, label := firstOctet stem, stem, parent }

def hasHandlers (n : Node α) : Bool := Method.all.any fun m => (n.handlers m).isSome

def setHandler (n : Node α) (m : Method) (h : α) : Node α :=
  { n with handlers := fun k => if k = m then some h else n.handlers k }

def offer (n : Node α) (m : Method) : Option α → Node α
  | some h => n.setHandler m h
  | none => n

def describe (n : Node α) : Option Leaf → Node α
  | some leaf => { n with leaf }
  | none => n

end Node

/-- The tree, and the largest number of parameters that a registered pattern has. -/
structure Tree (α : Type) where
  nodes : Array (Node α)
  maxParam : Nat

namespace Tree

variable {α : Type}

def empty : Tree α := ⟨#[Node.new .static [] none], 0⟩

def root : Nat := 0

/-- The node at a position; a position outside the table has an empty node. -/
def node (t : Tree α) (i : Nat) : Node α := (t.nodes[i]?).getD (Node.new .static [] none)

def modify (t : Tree α) (i : Nat) (f : Node α → Node α) : Tree α :=
  { t with nodes := t.nodes.modify i f }

def push (t : Tree α) (n : Node α) : Tree α := { t with nodes := t.nodes.push n }

def childWithLabel? (t : Tree α) (i : Nat) (label : UInt8) : Option Nat :=
  (t.node i).children.find? fun c => (t.node c).label == label

def child? (t : Tree α) (i : Nat) (label : UInt8) (kind : Kind) : Option Nat :=
  (t.node i).children.find? fun c => (t.node c).label == label && (t.node c).kind == kind

def childOfKind? (t : Tree α) (i : Nat) (kind : Kind) : Option Nat :=
  (t.node i).children.find? fun c => (t.node c).kind == kind

/-- Puts a child before the first one of a later kind. -/
def insertChild (t : Tree α) (kind : Kind) (child : Nat) : List Nat → List Nat
  | [] => [child]
  | c :: cs =>
    if kind.rank < (t.node c).kind.rank then child :: c :: cs
    else c :: insertChild t kind child cs

def addChild (t : Tree α) (parent child : Nat) : Tree α :=
  let children := t.insertChild (t.node child).kind child (t.node parent).children
  t.modify parent fun n => { n with children }

/-- Every registered method with its pattern, parents before children and in the order of children.
`fuel` bounds the number of nodes visited. -/
def listFrom (t : Tree α) : Nat → List Nat → List (Method × String)
  | 0, _ => []
  | _, [] => []
  | fuel + 1, i :: stack =>
    let n := t.node i
    ((Method.all.filter fun m => (n.handlers m).isSome).map fun m => (m, n.leaf.template)) ++
      listFrom t fuel (n.children ++ stack)

def routes (t : Tree α) : List (Method × String) := t.listFrom t.nodes.size [root]

end Tree

end Switchboard.Route
