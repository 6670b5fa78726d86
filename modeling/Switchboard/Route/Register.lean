import Switchboard.Route.Tree

/-!
# Registration

A pattern is walked from left to right. What stands before a parameter or a catch-all gets a node
of its own, so that parameters share nodes whatever they are called; the last piece takes the
handler. A refused pattern leaves behind what was put in before the fault was met.
-/

namespace Switchboard.Route

inductive Refusal where
  | unnamedParameter (template : String)
  | catchAllNotLast (template : String)
  | emptySplit (path : String)
  /-- Two texts part inside the octets of one character. -/
  | insideCharacter
deriving DecidableEq, Repr

def Refusal.message : Refusal → String
  | unnamedParameter t => "invalid route `" ++ t ++ "`: unnamed parameter"
  | catchAllNotLast t => "invalid route `" ++ t ++ "`: `*` must be the last segment"
  | emptySplit p => "invalid route `" ++ p ++ "`: cannot split an empty tree"
  | insideCharacter => "byte index is not a char boundary"

def common : List Char → List Char → List Char × List Char × List Char
  | a :: as, b :: bs =>
    if a = b then
      let (c, x, y) := common as bs
      (a :: c, x, y)
    else ([], a :: as, b :: bs)
  | as, bs => ([], as, bs)

theorem common_append (as bs : List Char) :
    (common as bs).1 ++ (common as bs).2.1 = as ∧ (common as bs).1 ++ (common as bs).2.2 = bs := by
  fun_induction common as bs <;> simp_all

def partInside (a b : List Char) : Bool :=
  !a.isEmpty && !b.isEmpty && firstOctet a == firstOctet b

namespace Tree

variable {α : Type}

def newLeaf (t : Tree α) (parent : Nat) (kind : Kind) (stem : List Char) (m : Method)
    (handler : Option α) (leaf : Option Leaf) : Tree α :=
  let n := ((Node.new kind stem (some parent)).offer m handler).describe leaf
  let j := t.nodes.size
  (t.push n).addChild parent j

/-- Cuts a node in two: the node keeps the beginning of its text, and a new child takes the rest
with all else that the node had. -/
def split (t : Tree α) (i : Nat) (keep rest : List Char) : Tree α :=
  let n := t.node i
  let tail : Node α :=
    { n with stem := rest, label := firstOctet rest, parent := some i }
  let j := t.nodes.size
  let t := t.modify i fun _ =>
    Node.new .static keep n.parent
  let t := n.children.foldl (fun t c => t.modify c fun k => { k with parent := some j }) t
  (t.push tail).addChild i j

def fillRoot (t : Tree α) (kind : Kind) (path : List Char) (m : Method) (handler : Option α)
    (leaf : Option Leaf) : Tree α :=
  t.modify root fun n =>
    let n := { n with label := firstOctet path, stem := path }
    match handler with
    | some h => ({ n with kind }.setHandler m h).describe leaf
    | none => n

/-- A node that exists already takes a handler; its names stay unless it has none. -/
def update (t : Tree α) (i : Nat) (m : Method) (handler : Option α) (leaf : Option Leaf) : Tree α :=
  match handler with
  | none => t
  | some h =>
    t.modify i fun n =>
      let n := n.setHandler m h
      match leaf with
      | some l =>
        { n with leaf := ⟨l.template, if n.leaf.names.isEmpty then l.names else n.leaf.names⟩ }
      | none => n

/-- Puts the text `todo` below node `i`; `path` is the whole text, for the wording of a refusal. -/
def insertAt (t : Tree α) (path : List Char) (m : Method) (handler : Option α) (kind : Kind)
    (leaf : Option Leaf) (i : Nat) (todo : List Char) : Tree α × Option Refusal :=
  let n := t.node i
  match _h : common todo n.stem with
  | (shared, todo', stem') =>
    if partInside todo' stem' then (t, some .insideCharacter)
    else if _hs : shared = [] then
      if i ≠ root ∨ n.stem ≠ [] ∨ todo = [] then (t, some (.emptySplit (String.ofList path)))
      else (t.fillRoot kind path m handler leaf, none)
    else if stem' ≠ [] then
      let t := t.split i shared stem'
      if todo' = [] then
        (t.modify i fun n => ({ n with kind }.offer m handler).describe leaf, none)
      else (t.newLeaf i kind todo' m handler leaf, none)
    else if todo' ≠ [] then
      match t.childWithLabel? i (firstOctet todo') with
      | some c => insertAt t path m handler kind leaf c todo'
      | none => (t.newLeaf i kind todo' m handler leaf, none)
    else (t.update i m handler leaf, none)
termination_by todo.length
decreasing_by
  have h := (common_append todo n.stem).1
  rw [_h] at h
  have hs : 0 < shared.length := List.length_pos_iff.2 _hs
  have := congrArg List.length h
  simp at this
  omega

/-- Puts a text into the tree; a route that ends there may need more parameters than any before. -/
def insert (t : Tree α) (path : List Char) (m : Method) (handler : Option α) (kind : Kind)
    (leaf : Option Leaf) : Tree α × Option Refusal :=
  let t :=
    match leaf with
    | some l => { t with maxParam := max t.maxParam l.names.length }
    | none => t
  t.insertAt path m handler kind leaf root path

def andThen (r : Tree α × Option Refusal) (f : Tree α → Tree α × Option Refusal) :
    Tree α × Option Refusal :=
  match r with
  | (t, none) => f t
  | refused => refused

/-- Walks the pattern: `read` is what has been read, last first and with its parameter names left
out, and `names` are the names. -/
def addFrom (t : Tree α) (m : Method) (handler : α) (template : String) (read : List Char)
    (names : List String) : List Char → Tree α × Option Refusal
  | [] => t.insert read.reverse m (some handler) .static (some ⟨template, names⟩)
  | c :: rest =>
    if c = ':' then
      andThen (t.insert read.reverse m none .static none) fun t =>
        let name := rest.takeWhile (· != '/')
        let after := rest.dropWhile (· != '/')
        let names := names ++ [String.ofList name]
        let read := ':' :: read
        if name = [] then (t, some (.unnamedParameter template))
        else if after = [] then
          t.insert read.reverse m (some handler) .param (some ⟨template, names⟩)
        else
          andThen (t.insert read.reverse m none .param none) fun t =>
            addFrom t m handler template read names after
    else if c = '*' then
      if rest ≠ [] then (t, some (.catchAllNotLast template))
      else
        andThen (t.insert read.reverse m none .static none) fun t =>
          t.insert ('*' :: read).reverse m (some handler) .any (some ⟨template, names ++ ["*"]⟩)
    else addFrom t m handler template (c :: read) names rest
termination_by s => s.length
decreasing_by
  · have := (List.dropWhile_suffix (· != '/') (l := rest)).length_le
    simp
    omega
  · simp

def normalize (pattern : List Char) : List Char :=
  match pattern with
  | '/' :: _ => pattern
  | _ => '/' :: pattern

def add (t : Tree α) (m : Method) (pattern : String) (handler : α) : Tree α × Option Refusal :=
  let path := normalize pattern.toList
  t.addFrom m handler (String.ofList path) [] [] path

end Tree

end Switchboard.Route
