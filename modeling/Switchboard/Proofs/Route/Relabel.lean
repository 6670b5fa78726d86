import Switchboard.Route.Lookup
import Switchboard.Route.Register

/-!
# Exchanging handlers

A tree carries its handlers and never looks into them: whether they are exchanged before or after a
registration makes no difference, and a lookup in the tree with other handlers meets the same node.
-/

namespace Switchboard.Route

variable {α β : Type} (g : Method → α → β)

def Node.relabel (n : Node α) : Node β where
  kind := n.kind
  label := n.label
  stem := n.stem
  parent := n.parent
  children := n.children
  handlers m := (n.handlers m).map (g m)
  leaf := n.leaf

namespace Node

theorem relabel_new (kind : Kind) (stem : List Char) (parent : Option Nat) :
    (new kind stem parent : Node α).relabel g = new kind stem parent := rfl

theorem relabel_setHandler (n : Node α) (m : Method) (h : α) :
    (n.setHandler m h).relabel g = (n.relabel g).setHandler m (g m h) := by
  simp only [relabel, setHandler, Node.mk.injEq, true_and, and_true]
  funext k
  split
  · rename_i hk
    rw [hk]
    rfl
  · rfl

theorem relabel_offer (n : Node α) (m : Method) (h : Option α) :
    (n.offer m h).relabel g = (n.relabel g).offer m (h.map (g m)) := by
  cases h with
  | none => rfl
  | some h => exact relabel_setHandler g n m h

theorem relabel_describe (n : Node α) (l : Option Leaf) :
    (n.describe l).relabel g = (n.relabel g).describe l := by
  cases l <;> rfl

theorem hasHandlers_relabel (n : Node α) : (n.relabel g).hasHandlers = n.hasHandlers := by
  simp only [hasHandlers, relabel, Option.isSome_map]

end Node

def Lookup.map (f : α → β) : Lookup α → Lookup β
  | .matched h => .matched (f h)
  | .methodNotAllowed => .methodNotAllowed
  | .notFound => .notFound

theorem Lookup.map_injective {f : α → β} (hf : f.Injective) : (Lookup.map f).Injective := by
  rintro (a | _ | _) (b | _ | _) h
  · exact congrArg matched (hf (Lookup.matched.inj h))
  all_goals first | rfl | cases h

def Found.map (f : α → β) (r : Found α) : Found β :=
  ⟨r.outcome.map f, r.template, r.names, r.slots⟩

theorem Found.map_injective {f : α → β} (hf : f.Injective) : (Found.map f).Injective := by
  intro ⟨o, template, names, slots⟩ ⟨o', _, _, _⟩ h
  simp only [Found.map, Found.mk.injEq] at h
  obtain ⟨ho, rfl, rfl, rfl⟩ := h
  rw [Lookup.map_injective hf ho]

theorem Found.eq_of_map_eq {f : α → β} {r r' : Found α} (hr : ∀ h, r.outcome ≠ .matched h)
    (h : r'.map f = r.map f) : r' = r := by
  obtain ⟨o, template, names, slots⟩ := r
  obtain ⟨o', _, _, _⟩ := r'
  simp only [Found.map, Found.mk.injEq] at h
  obtain ⟨ho, rfl, rfl, rfl⟩ := h
  cases o with
  | matched h => exact absurd rfl (hr h)
  | methodNotAllowed | notFound =>
    cases o' with
    | matched => cases ho
    | methodNotAllowed | notFound => first | rfl | cases ho

namespace Tree

def relabel (t : Tree α) : Tree β := ⟨t.nodes.map (·.relabel g), t.maxParam⟩

variable (t : Tree α)

@[simp] theorem node_relabel (i : Nat) : (t.relabel g).node i = (t.node i).relabel g := by
  rw [node, node, relabel, Array.getElem?_map]
  cases t.nodes[i]? <;> rfl

@[simp] theorem size_relabel : (t.relabel g).nodes.size = t.nodes.size := Array.size_map

theorem relabel_relabel {γ : Type} (g' : Method → β → γ) :
    (t.relabel g).relabel g' = t.relabel fun m h => g' m (g m h) := by
  simp only [relabel, Array.map_map, Tree.mk.injEq, and_true]
  refine congrArg (t.nodes.map ·) (funext fun n => ?_)
  simp only [Function.comp_apply, Node.relabel, Option.map_map, Function.comp_def]

/-! ## Changes of the table -/

theorem relabel_push (n : Node α) : (t.push n).relabel g = (t.relabel g).push (n.relabel g) := by
  simp [relabel, push]

theorem relabel_modify {f : Node α → Node α} {f' : Node β → Node β}
    (hf : ∀ n, (f n).relabel g = f' (n.relabel g)) (i : Nat) :
    (t.modify i f).relabel g = (t.relabel g).modify i f' := by
  simp only [relabel, modify, Tree.mk.injEq, and_true]
  apply Array.ext_getElem?
  intro k
  simp only [Array.getElem?_map, Array.getElem?_modify]
  split
  · cases t.nodes[k]? with
    | none => rfl
    | some n => exact congrArg some (hf n)
  · rfl

theorem insertChild_relabel (kind : Kind) (child : Nat) (l : List Nat) :
    (t.relabel g).insertChild kind child l = t.insertChild kind child l := by
  induction l with
  | nil => rfl
  | cons c cs ih =>
    rw [insertChild, insertChild, ih, node_relabel]
    rfl

theorem relabel_addChild (i j : Nat) : (t.addChild i j).relabel g = (t.relabel g).addChild i j := by
  simp only [addChild, insertChild_relabel, node_relabel]
  exact relabel_modify g t (fun _ => rfl) i

theorem relabel_newLeaf (i : Nat) (kind : Kind) (stem : List Char) (m : Method) (h : Option α)
    (l : Option Leaf) :
    (t.newLeaf i kind stem m h l).relabel g =
      (t.relabel g).newLeaf i kind stem m (h.map (g m)) l := by
  simp only [newLeaf, relabel_addChild, relabel_push, Node.relabel_describe, Node.relabel_offer,
    Node.relabel_new, size_relabel]

theorem relabel_adopt (j : Nat) (l : List Nat) :
    (l.foldl (fun t c => t.modify c fun k => { k with parent := some j }) t).relabel g =
      l.foldl (fun t c => t.modify c fun k => { k with parent := some j }) (t.relabel g) := by
  induction l generalizing t with
  | nil => rfl
  | cons c l ih =>
    rw [List.foldl_cons, List.foldl_cons, ih]
    exact congrArg (l.foldl _) (relabel_modify g t (fun _ => rfl) c)

theorem relabel_split (i : Nat) (keep rest : List Char) :
    (t.split i keep rest).relabel g = (t.relabel g).split i keep rest := by
  have hkeep : (t.modify i fun _ => Node.new .static keep (t.node i).parent).relabel g =
      (t.relabel g).modify i fun _ => Node.new .static keep (t.node i).parent :=
    relabel_modify g t (fun _ => rfl) i
  simp only [split, relabel_addChild, relabel_push, relabel_adopt, size_relabel, node_relabel]
  rw [hkeep]
  rfl

theorem relabel_fillRoot (kind : Kind) (path : List Char) (m : Method) (h : Option α)
    (l : Option Leaf) :
    (t.fillRoot kind path m h l).relabel g =
      (t.relabel g).fillRoot kind path m (h.map (g m)) l := by
  refine relabel_modify g t (fun n => ?_) root
  cases h with
  | none => rfl
  | some h =>
    show (Node.describe _ _).relabel g = _
    rw [Node.relabel_describe, Node.relabel_setHandler]
    rfl

theorem relabel_update (i : Nat) (m : Method) (h : Option α) (l : Option Leaf) :
    (t.update i m h l).relabel g = (t.relabel g).update i m (h.map (g m)) l := by
  cases h with
  | none => rfl
  | some h =>
    refine relabel_modify g t (fun n => ?_) i
    rw [← Node.relabel_setHandler]
    cases l <;> rfl

/-! ## Registration -/

def relabelled (r : Tree α × Option Refusal) : Tree β × Option Refusal := (r.1.relabel g, r.2)

theorem common_relabel (i : Nat) (todo : List Char) :
    common todo ((t.relabel g).node i).stem = common todo (t.node i).stem := by
  rw [node_relabel]
  rfl

theorem childWithLabel?_relabel (i : Nat) (label : UInt8) :
    (t.relabel g).childWithLabel? i label = t.childWithLabel? i label := by
  simp only [childWithLabel?, node_relabel]
  rfl

theorem insertAt_relabel (path : List Char) (m : Method) (h : Option α) (kind : Kind)
    (l : Option Leaf) (i : Nat) (todo : List Char) :
    (t.relabel g).insertAt path m (h.map (g m)) kind l i todo =
      relabelled g (t.insertAt path m h kind l i todo) := by
  fun_induction insertAt t path m h kind l i todo with
  | case1 i todo n shared todo' stem' hcommon hinside =>
    rw [insertAt]
    simp only [(common_relabel g t i todo).trans hcommon, if_pos hinside]
    rfl
  | case2 i todo n todo' stem' hinside hroot hcommon =>
    rw [insertAt]
    simp only [(common_relabel g t i todo).trans hcommon, if_neg hinside, dif_pos]
    rw [node_relabel]
    exact if_pos hroot
  | case3 i todo n todo' stem' hinside hroot hcommon =>
    rw [insertAt]
    simp only [(common_relabel g t i todo).trans hcommon, if_neg hinside, dif_pos]
    rw [node_relabel, relabelled, relabel_fillRoot]
    exact if_neg hroot
  | case4 i todo n shared stem' hshared hstem' t' hcommon hinside =>
    rw [insertAt]
    simp only [(common_relabel g t i todo).trans hcommon, if_neg hinside, dif_neg hshared]
    rw [if_pos hstem', if_pos trivial, relabelled, ← relabel_split]
    refine Prod.ext ((relabel_modify g _ (fun n => ?_) i).symm) rfl
    rw [Node.relabel_describe, Node.relabel_offer]
    rfl
  | case5 i todo n shared todo' stem' hcommon hinside hshared hstem' t' htodo' =>
    rw [insertAt]
    simp only [(common_relabel g t i todo).trans hcommon, if_neg hinside, dif_neg hshared]
    rw [if_pos hstem', if_neg htodo', relabelled, relabel_newLeaf, relabel_split]
  | case6 i todo n shared todo' stem' hcommon hinside hshared hstem' htodo' c hc ih =>
    rw [insertAt]
    simp only [(common_relabel g t i todo).trans hcommon, if_neg hinside, dif_neg hshared,
      childWithLabel?_relabel, hc]
    rw [if_neg hstem', if_pos htodo', ih]
  | case7 i todo n shared todo' stem' hcommon hinside hshared hstem' htodo' hc =>
    rw [insertAt]
    simp only [(common_relabel g t i todo).trans hcommon, if_neg hinside, dif_neg hshared,
      childWithLabel?_relabel, hc]
    rw [if_neg hstem', if_pos htodo', relabelled, relabel_newLeaf]
  | case8 i todo n shared todo' stem' hcommon hinside hshared hstem' htodo' =>
    rw [insertAt]
    simp only [(common_relabel g t i todo).trans hcommon, if_neg hinside, dif_neg hshared]
    rw [if_neg hstem', if_neg htodo', relabelled, relabel_update]

theorem insert_relabel (path : List Char) (m : Method) (h : Option α) (kind : Kind)
    (l : Option Leaf) :
    (t.relabel g).insert path m (h.map (g m)) kind l = relabelled g (t.insert path m h kind l) := by
  cases l with
  | none => exact insertAt_relabel g t path m h kind none root path
  | some l =>
    exact insertAt_relabel g { t with maxParam := max t.maxParam l.names.length } path m h kind
      (some l) root path

theorem andThen_relabel {r : Tree α × Option Refusal} {f : Tree α → Tree α × Option Refusal}
    {f' : Tree β → Tree β × Option Refusal}
    (hf : ∀ t, f' (t.relabel g) = relabelled g (f t)) :
    andThen (relabelled g r) f' = relabelled g (andThen r f) := by
  obtain ⟨t, _ | refusal⟩ := r
  · exact hf t
  · rfl

theorem addFrom_relabel (m : Method) (h : α) (template : String) (read : List Char)
    (names : List String) (todo : List Char) :
    (t.relabel g).addFrom m (g m h) template read names todo =
      relabelled g (t.addFrom m h template read names todo) := by
  have hend : ∀ (t : Tree α) read kind l, (t.relabel g).insert read m (some (g m h)) kind l =
      relabelled g (t.insert read m (some h) kind l) :=
    fun t read kind l => insert_relabel g t read m (some h) kind l
  have hway : ∀ (t : Tree α) read kind, (t.relabel g).insert read m none kind none =
      relabelled g (t.insert read m none kind none) :=
    fun t read kind => insert_relabel g t read m none kind none
  fun_induction addFrom t m h template read names todo with
  | case1 t read names => rw [addFrom, hend]
  | case2 t read names rest ih =>
    rw [addFrom, if_pos rfl, hway]
    refine andThen_relabel g fun t₁ => ?_
    dsimp only
    split
    · rfl
    · split
      · exact hend t₁ _ _ _
      · rw [hway]
        exact andThen_relabel g fun t₂ => ih t₂
  | case3 t read names rest hrest =>
    rw [addFrom, if_neg (by decide), if_pos rfl, if_pos hrest]
    rfl
  | case4 t read names rest hrest =>
    rw [addFrom, if_neg (by decide), if_pos rfl, if_neg hrest, hway]
    exact andThen_relabel g fun t₁ => hend t₁ _ _ _
  | case5 t read names c rest hcolon hstar ih => rw [addFrom, if_neg hcolon, if_neg hstar, ih]

/-- Registering a handler and exchanging it is registering the other one. -/
theorem add_relabel (m : Method) (pattern : String) (h : α) :
    (t.relabel g).add m pattern (g m h) = relabelled g (t.add m pattern h) :=
  addFrom_relabel g t m h _ [] [] _

/-! ## Lookup -/

theorem candidates_relabel (i : Nat) (rest : List Char) :
    (t.relabel g).candidates i rest = t.candidates i rest := by
  simp only [candidates, child?, childOfKind?, node_relabel]
  rfl

theorem search_relabel (fuel i : Nat) (s : List Char) (np : Nat) (slots : List String) :
    (t.relabel g).search fuel i s np slots = t.search fuel i s np slots := by
  induction fuel generalizing i s np slots with
  | zero => rfl
  | succ fuel ih =>
    have hconsume : consume ((t.node i).relabel g) s np slots = consume (t.node i) s np slots := rfl
    have hkind : ((t.node i).relabel g).kind = (t.node i).kind := rfl
    simp only [search, node_relabel, candidates_relabel, Node.hasHandlers_relabel, hconsume, hkind, ih]

theorem outcome_relabel (n : Node α) (m : Method) :
    outcome (n.relabel g) m = (outcome n m).map (g m) := by
  have hslot : (n.relabel g).handlers m = (n.handlers m).map (g m) := rfl
  rw [outcome, outcome, hslot, Node.hasHandlers_relabel]
  cases n.handlers m with
  | some h => rfl
  | none => cases n.hasHandlers <;> rfl

theorem fallback?_relabel (i : Nat) (m : Method) :
    (t.relabel g).fallback? i m = t.fallback? i m := by
  simp only [fallback?, childOfKind?, node_relabel, outcome_relabel, Node.hasHandlers_relabel]
  cases outcome (t.node i) m <;> rfl

theorem find_relabel (m : Method) (path : String) (slots : List String) :
    (t.relabel g).find m path slots = (t.find m path slots).map (g m) := by
  simp only [find, size_relabel, search_relabel, fallback?_relabel, node_relabel, outcome_relabel]
  split
  · rfl
  · cases t.fallback? _ m <;> rfl

theorem listFrom_relabel (fuel : Nat) (stack : List Nat) :
    (t.relabel g).listFrom fuel stack = t.listFrom fuel stack := by
  induction fuel generalizing stack with
  | zero => rfl
  | succ fuel ih =>
    cases stack with
    | nil => rfl
    | cons i stack => simp only [listFrom, node_relabel, Node.relabel, Option.isSome_map, ih]

theorem routes_relabel : (t.relabel g).routes = t.routes := by
  rw [routes, size_relabel, listFrom_relabel, routes]

end Tree

end Switchboard.Route
