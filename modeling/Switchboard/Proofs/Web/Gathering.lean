import Switchboard.Proofs.Web.Reading

/-!
# Gathering objects

What a request is bound to, without the contexts that reading passes on: the object is gathered from
what is found for the leaves of the field tree, and what is found for a leaf depends on the sources that
are consulted for it, up to the first that supplies something.
-/

namespace Switchboard

namespace Binding

open Json (Members)

theorem eq_ok_of_toOption {δ α : Type} {r : Except δ α} {a : α} (h : r.toOption = some a) :
    r = .ok a := by
  cases r with
  | ok b => exact congrArg Except.ok (Option.some.inj h)
  | error e => cases h

/-! ## Sources that are consulted -/

/-- The value that a source has under a name, unless it counts as none. -/
def supplied (c : Context) (name : String) (kind : FieldKind) (s : FieldSource) :
    Except Error (Option Json) := counted (fromSource c name kind s).1

theorem lookUp_fst_cons (c : Context) (name : String) (kind : FieldKind) (steps : List TextStep)
    (s : FieldSource) (ss : List FieldSource) :
    (lookUp c name kind steps (s :: ss)).1 =
      (supplied c name kind s).bind fun r => r.elim (lookUp c name kind steps ss).1 fun raw =>
        (convert kind steps raw).map some := by
  rw [lookUp_cons]
  unfold supplied
  cases counted (fromSource c name kind s).1 with
  | error e => rfl
  | ok r =>
    cases r with
    | none => exact (steady_lookUp name kind steps ss).same ((steady_fromSource name kind s).alike c)
    | some raw => rfl

/-- The sources up to the first that has a value that counts, or that cannot be read. -/
def consulted (c : Context) (name : String) (kind : FieldKind) : List FieldSource → List FieldSource
  | [] => []
  | s :: ss =>
    match supplied c name kind s with
    | .ok none => s :: consulted c name kind ss
    | _ => [s]

theorem lookUp_congr {c c' : Context} {name : String} {kind : FieldKind} {sources : List FieldSource}
    (h : ∀ s ∈ consulted c name kind sources, supplied c' name kind s = supplied c name kind s)
    (steps : List TextStep) :
    (lookUp c' name kind steps sources).1 = (lookUp c name kind steps sources).1 := by
  induction sources with
  | nil => rfl
  | cons s ss ih =>
    have hs : supplied c' name kind s = supplied c name kind s := by
      apply h
      unfold consulted
      split <;> simp
    rw [lookUp_fst_cons, lookUp_fst_cons, hs]
    cases hr : supplied c name kind s with
    | error e => rfl
    | ok r =>
      cases r with
      | some raw => rfl
      | none =>
        refine ih fun s' hs' => h s' ?_
        simp [consulted, hr, hs']

theorem lookUp_first {c : Context} {name : String} {kind : FieldKind} {earlier : List FieldSource}
    (hearlier : ∀ e ∈ earlier, supplied c name kind e = .ok none) {s : FieldSource} {raw : Json}
    (hs : supplied c name kind s = .ok (some raw)) (steps : List TextStep)
    (later : List FieldSource) :
    (lookUp c name kind steps (earlier ++ s :: later)).1 = (convert kind steps raw).map some := by
  induction earlier with
  | nil =>
    rw [List.nil_append, lookUp_fst_cons, hs]
    rfl
  | cons e es ih =>
    rw [List.cons_append, lookUp_fst_cons, hearlier e (by simp)]
    exact ih fun e' he' => hearlier e' (by simp [he'])

theorem lookUp_silent {c : Context} {name : String} {kind : FieldKind} {sources : List FieldSource}
    (h : ∀ s ∈ sources, supplied c name kind s = .ok none) (steps : List TextStep) :
    (lookUp c name kind steps sources).1 = .ok none := by
  induction sources with
  | nil => rfl
  | cons s ss ih =>
    rw [lookUp_fst_cons, h s (by simp)]
    exact ih fun s' hs' => h s' (by simp [hs'])

/-! ## Leaves -/

/-- A plain field: where its value may come from and what it is converted to. -/
structure Leaf where
  name : String
  sources : List FieldSource
  kind : FieldKind
  steps : List TextStep

namespace Leaf

variable (l : Leaf) (c : Context)

def supplied (s : FieldSource) : Except Error (Option Json) := Binding.supplied c l.name l.kind s

def consulted : List FieldSource := Binding.consulted c l.name l.kind l.sources

def found : Except Error (Option Json) := (lookUp c l.name l.kind l.steps l.sources).1

end Leaf

mutual
/-- The leaves of a field, each with the names of the objects around it. -/
def leavesOf : Field → List (List String × Leaf)
  | .plain name sources kind steps => [([], ⟨name, sources, kind, steps⟩)]
  | .object name fields => (leaves fields).map fun p => (name :: p.1, p.2)
def leaves : List Field → List (List String × Leaf)
  | [] => []
  | f :: fs => leavesOf f ++ leaves fs
end

theorem mem_leavesOf_object {name : String} {fields : List Field} {path : List String} {l : Leaf} :
    (path, l) ∈ leavesOf (.object name fields) ↔
      ∃ inner, path = name :: inner ∧ (inner, l) ∈ leaves fields := by
  rw [leavesOf, List.mem_map]
  constructor
  · rintro ⟨⟨inner, l'⟩, hmem, heq⟩
    obtain ⟨rfl, rfl⟩ := Prod.mk.inj heq
    exact ⟨inner, rfl, hmem⟩
  · rintro ⟨inner, rfl, hmem⟩
    exact ⟨(inner, l), hmem, rfl⟩

theorem mem_leaves_cons {f : Field} {fs : List Field} {p : List String × Leaf} :
    p ∈ leaves (f :: fs) ↔ p ∈ leavesOf f ∨ p ∈ leaves fs := by
  rw [leaves, List.mem_append]

/-! ## Objects -/

mutual
/-- Puts what `find` gives for the leaves of one field into an object. -/
def gatherField (find : Leaf → Except Error (Option Json)) (ms : Members) :
    Field → Except Error Members
  | .plain name sources kind steps => (find ⟨name, sources, kind, steps⟩).map (place ms name)
  | .object name fields => (gather find (innerOf ms name) fields).map (putBack ms name)
def gather (find : Leaf → Except Error (Option Json)) (ms : Members) :
    List Field → Except Error Members
  | [] => .ok ms
  | f :: fs => (gatherField find ms f).bind fun ms => gather find ms fs
end

mutual
theorem bindField_fst (c : Context) (ms : Members) :
    ∀ f : Field, (bindField c ms f).1 = gatherField (·.found c) ms f
  | .plain name sources kind steps => by
    rw [bindField_plain]
    rfl
  | .object name fields => by
    rw [bindField_object, gatherField, bindFields_fst c _ fields]
theorem bindFields_fst (c : Context) (ms : Members) :
    ∀ fs : List Field, (bindFields c ms fs).1 = gather (·.found c) ms fs
  | [] => rfl
  | f :: fs => by
    rw [bindFields_cons, gather, ← bindField_fst c ms f]
    cases h : (bindField c ms f).1 with
    | error e => rfl
    | ok ms' =>
      -- what the first field has remembered does not show in what the others give
      show (bindFields (bindField c ms f).2 ms' fs).1 = gather _ ms' fs
      rw [← bindFields_fst c ms' fs]
      exact (steady_bindFields ms' fs).same ((steady_bindField ms f).alike c)
end

mutual
theorem gatherField_congr {find find' : Leaf → Except Error (Option Json)} (ms : Members) :
    ∀ f : Field, (∀ p ∈ leavesOf f, find p.2 = find' p.2) →
      gatherField find ms f = gatherField find' ms f
  | .plain name sources kind steps, h => by
    have hleaf := h ([], ⟨name, sources, kind, steps⟩) (by simp [leavesOf])
    rw [gatherField, gatherField, hleaf]
  | .object name fields, h => by
    rw [gatherField, gatherField, gather_congr _ fields fun p hp => ?_]
    exact h (name :: p.1, p.2) (mem_leavesOf_object.mpr ⟨p.1, rfl, hp⟩)
theorem gather_congr {find find' : Leaf → Except Error (Option Json)} (ms : Members) :
    ∀ fs : List Field, (∀ p ∈ leaves fs, find p.2 = find' p.2) →
      gather find ms fs = gather find' ms fs
  | [], _ => rfl
  | f :: fs, h => by
    rw [gather, gather, gatherField_congr ms f fun p hp => h p (mem_leaves_cons.mpr (.inl hp))]
    cases gatherField find' ms f with
    | error e => rfl
    | ok ms' => exact gather_congr ms' fs fun p hp => h p (mem_leaves_cons.mpr (.inr hp))
end

end Binding

namespace Context

theorem bindObject_fst (c : Context) (fields : List Field) :
    (c.bindObject fields).1 =
      (Binding.bodyObject c).bind fun ms => Binding.gather (·.found c) ms fields := by
  rw [bindObject_eq]
  cases Binding.bodyObject c with
  | error e => rfl
  | ok ms => exact Binding.bindFields_fst c ms fields

theorem bind_fst {α : Type} (c : Context) (fields : List Field) (read? : Json → Option α) :
    (c.bind fields read?).1 = (c.bindObject fields).1.bind (readAs read?) := by
  rw [bind_eq]

end Context

end Switchboard
