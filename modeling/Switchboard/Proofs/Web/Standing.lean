import Switchboard.Proofs.Json.Members
import Switchboard.Proofs.Web.Gathering

/-!
# Bodies that stand

When no source supplies anything, a body is bound as it is exactly if it has, wherever a field has
fields of its own, nothing or an object that is not empty. All else there is lost: the field takes it out
of the body, finds no object in it, and puts nothing back.
-/

namespace Switchboard

open Json (Members Ordered)

namespace Binding

theorem ordered_innerOf {ms : Members} (h : Ordered (.obj ms)) (name : String) :
    Ordered (.obj (innerOf ms name)) := by
  unfold innerOf
  split
  · rename_i inner hinner
    exact h.of_find? hinner
  · exact .obj List.Pairwise.nil (by simp)

/-! ## What remains of an object -/

mutual
/-- Where the field has fields of its own the object has nothing, or an object that is not empty and in
which the same goes for these. -/
def standsFor (ms : Members) : Field → Bool
  | .plain .. => true
  | .object name fields =>
    (ms.find? name).isNone || (!(innerOf ms name).isEmpty && stands (innerOf ms name) fields)
def stands (ms : Members) : List Field → Bool
  | [] => true
  | f :: fs => standsFor ms f && stands ms fs
end

/-- What an object becomes when nothing is found: it is as it was, or it has become less. -/
structure Remains (ms ms' : Members) (stands : Bool) : Prop where
  ordered : Ordered (.obj ms')
  same : stands = true → ms' = ms
  less : stands = false → sizeOf ms' < sizeOf ms

theorem Remains.iff {ms ms' : Members} {b : Bool} (h : Remains ms ms' b) : ms' = ms ↔ b = true := by
  cases b with
  | true => simp [h.same]
  | false =>
    have hless := h.less rfl
    simp only [Bool.false_eq_true, iff_false]
    intro heq
    rw [heq] at hless
    exact Nat.lt_irrefl _ hless

theorem Remains.nil {ms' : Members} {b : Bool} (h : Remains [] ms' b) : ms' = [] := by
  cases b with
  | true => exact h.same rfl
  | false =>
    have hless := h.less rfl
    cases ms' with
    | nil => rfl
    | cons m ms' => simp at hless

theorem Remains.le {ms ms' : Members} {b : Bool} (h : Remains ms ms' b) : sizeOf ms' ≤ sizeOf ms := by
  cases b with
  | true => rw [h.same rfl]
  | false => exact (h.less rfl).le

theorem Remains.cons {ms ms₁ ms₂ : Members} {b : Bool} {fs : List Field} (h : Remains ms ms₁ b)
    (h₁ : Remains ms₁ ms₂ (stands ms₁ fs)) : Remains ms ms₂ (b && stands ms fs) := by
  cases b with
  | true =>
    obtain rfl := h.same rfl
    exact h₁
  | false =>
    refine ⟨h₁.ordered, by simp, fun _ => ?_⟩
    exact Nat.lt_of_le_of_lt h₁.le (h.less rfl)

theorem ordered_putBack {ms inner : Members} (hms : Ordered (.obj ms)) (name : String)
    (hinner : Ordered (.obj inner)) : Ordered (.obj (putBack ms name inner)) := by
  cases inner with
  | nil => exact hms.erase name
  | cons m inner => exact (hms.erase name).insert name hinner

theorem find?_of_innerOf {ms inner : Members} {name : String} {m : String × Json}
    (h : innerOf ms name = m :: inner) : ms.find? name = some (.obj (m :: inner)) := by
  unfold innerOf at h
  split at h
  · rename_i hfind
    rw [hfind, h]
  · cases h

theorem Remains.putBack {ms inner : Members} {b : Bool} (hms : Ordered (.obj ms)) {name : String}
    (h : Remains (innerOf ms name) inner b) :
    Remains ms (putBack ms name inner)
      ((ms.find? name).isNone || (!(innerOf ms name).isEmpty && b)) := by
  have hordered := ordered_putBack hms name h.ordered
  cases hinner : innerOf ms name with
  | nil =>
    rw [hinner] at h
    obtain rfl := h.nil
    cases hfind : ms.find? name with
    | none =>
      refine ⟨hordered, fun _ => ?_, by simp⟩
      exact Members.erase_of_find? hfind
    | some v =>
      -- no object, or an empty one: it is taken out and nothing goes back
      refine ⟨hordered, by simp, fun _ => ?_⟩
      exact Members.sizeOf_erase_lt hfind
  | cons m rest =>
    have hfind := find?_of_innerOf hinner
    rw [hinner] at h
    rw [hfind]
    cases b with
    | true =>
      -- the object goes back as it was, and by the order of the keys to where it stood
      obtain rfl := h.same rfl
      refine ⟨hordered, fun _ => ?_, by simp⟩
      exact hms.ascending.insert_erase hfind
    | false =>
      refine ⟨hordered, by simp, fun _ => ?_⟩
      have hless := h.less rfl
      cases inner with
      | nil =>
        exact Members.sizeOf_erase_lt hfind
      | cons m' inner =>
        apply Members.sizeOf_replace_lt hfind
        simp only [Json.obj.sizeOf_spec]
        omega

/-! ## Gathering nothing -/

variable {find : Leaf → Except Error (Option Json)}

mutual
theorem gatherField_nothing {ms : Members} (hms : Ordered (.obj ms)) : ∀ f : Field,
    (∀ p ∈ leavesOf f, find p.2 = .ok none) →
      ∃ ms', gatherField find ms f = .ok ms' ∧ Remains ms ms' (standsFor ms f)
  | .plain name sources kind steps, hnone => by
    refine ⟨ms, ?_, ⟨hms, fun _ => rfl, by simp [standsFor]⟩⟩
    rw [gatherField, hnone ([], ⟨name, sources, kind, steps⟩) (by simp [leavesOf])]
    rfl
  | .object name fields, hnone => by
    obtain ⟨inner, hgather, hremains⟩ := gather_nothing (ordered_innerOf hms name) fields
      fun p hp => hnone (name :: p.1, p.2) (mem_leavesOf_object.mpr ⟨p.1, rfl, hp⟩)
    refine ⟨putBack ms name inner, ?_, hremains.putBack hms⟩
    rw [gatherField, hgather]
    rfl
theorem gather_nothing {ms : Members} (hms : Ordered (.obj ms)) : ∀ fs : List Field,
    (∀ p ∈ leaves fs, find p.2 = .ok none) →
      ∃ ms', gather find ms fs = .ok ms' ∧ Remains ms ms' (stands ms fs)
  | [], _ => ⟨ms, rfl, ⟨hms, fun _ => rfl, by simp [stands]⟩⟩
  | f :: fs, hnone => by
    obtain ⟨ms₁, hfirst, hremains⟩ := gatherField_nothing hms f fun p hp =>
      hnone p (mem_leaves_cons.mpr (.inl hp))
    obtain ⟨ms₂, hrest, hremains₁⟩ := gather_nothing hremains.ordered fs fun p hp =>
      hnone p (mem_leaves_cons.mpr (.inr hp))
    refine ⟨ms₂, ?_, hremains.cons hremains₁⟩
    rw [gather, hfirst]
    exact hrest
end

theorem bodyObject_of_json {c : Context} {ms : Members}
    (hjson : c.request.hasType "application/json" = true)
    (hbody : Json.ofBytes? c.request.body = some (.obj ms)) : bodyObject c = .ok ms := by
  have hne : c.request.body ≠ [] := by
    intro hnil
    rw [hnil, show Json.ofBytes? [] = none by decide +kernel] at hbody
    cases hbody
  simp [bodyObject, hjson, hne, hbody]

end Binding

namespace Context

open Binding (leaves stands)

/-- When no source of any leaf supplies a value, a request with a JSON object for its body is bound to
that object, and so as the body is read without fields, exactly if the body stands for the fields. -/
theorem body_stands_iff {c : Context} {fields : List Field} {ms : Members}
    (hjson : c.request.hasType "application/json" = true)
    (hbody : Json.ofBytes? c.request.body = some (.obj ms))
    (hnone : ∀ p ∈ leaves fields, ∀ s ∈ p.2.sources, p.2.supplied c s = .ok none) :
    (∃ ms', (c.bindObject fields).1 = .ok ms' ∧ (ms' = ms ↔ stands ms fields = true)) ∧
      ((∀ (α : Type) (read? : Json → Option α), (c.bind fields read?).1 = readAs read? ms) ↔
        stands ms fields = true) := by
  obtain ⟨ms', hgather, hremains⟩ :
      ∃ ms', Binding.gather (·.found c) ms fields = .ok ms' ∧
        Binding.Remains ms ms' (stands ms fields) := by
    apply Binding.gather_nothing (Json.ordered_ofBytes? hbody)
    intro p hp
    exact Binding.lookUp_silent (hnone p hp) p.2.steps
  have hobject : (c.bindObject fields).1 = .ok ms' := by
    rw [bindObject_fst, Binding.bodyObject_of_json hjson hbody]
    exact hgather
  refine ⟨⟨ms', hobject, hremains.iff⟩, ?_⟩
  constructor
  · intro h
    have hsame := h Json some
    rw [bind_fst, hobject] at hsame
    have heq : ms' = ms := by simpa [readAs, Except.bind] using hsame
    exact hremains.iff.mp heq
  · intro h α read?
    rw [bind_fst, hobject, hremains.iff.mpr h]
    rfl

/-- A request that has a body and nothing else to take values from. -/
def posting (body : Bytes) : Context where
  request := { Request.new "POST" "/" with
    header := [("content-type", "application/json")]
    body }

def filterFields : List Field := [.object "filter" [.plain "min" [.query, .form] .float []]]

theorem supplied_filter (body : Bytes) : ∀ p ∈ leaves filterFields, ∀ s ∈ p.2.sources,
    p.2.supplied (posting body) s = .ok none := by
  have hform : (posting body).isForm = false := by
    show Form.isAnnounced (posting []).request = false
    decide
  simp only [filterFields, leaves, Binding.leavesOf, List.map_cons, List.map_nil, List.append_nil,
    List.forall_mem_cons]
  refine ⟨⟨rfl, ?_, by simp⟩, by simp⟩
  simp [Binding.Leaf.supplied, Binding.supplied, Binding.fromSource, Binding.announcedForm_eq, hform,
    Binding.counted, Except.map]

theorem body_stands_filter :
    ((posting (Utf8.ofText "\x7b\"filter\":\x7b\"by\":[]\x7d\x7d")).bindObject filterFields).1 =
        .ok [("filter", .obj [("by", .arr [])])] ∧
      ∀ (α : Type) (read? : Json → Option α),
        ((posting (Utf8.ofText "\x7b\"filter\":\x7b\"by\":[]\x7d\x7d")).bind filterFields read?).1 =
          readAs read? [("filter", .obj [("by", .arr [])])] := by
  have hstands : stands [("filter", .obj [("by", .arr [])])] filterFields = true := by decide
  have hbody : Json.ofBytes? (Utf8.ofText "\x7b\"filter\":\x7b\"by\":[]\x7d\x7d") =
      some (.obj [("filter", .obj [("by", .arr [])])]) := by decide +kernel
  obtain ⟨⟨ms', hobject, hsame⟩, hbound⟩ :=
    body_stands_iff (by decide) hbody
      (supplied_filter (Utf8.ofText "\x7b\"filter\":\x7b\"by\":[]\x7d\x7d"))
  constructor
  · rw [hobject, hsame.mpr hstands]
  · exact hbound.mpr hstands

theorem scalar_filter_lost :
    Json.ofBytes? (Utf8.ofText "\x7b\"filter\":5\x7d") = some (.obj [("filter", .num (.int 5))]) ∧
      (∀ p ∈ leaves filterFields, ∀ s ∈ p.2.sources,
        p.2.supplied (posting (Utf8.ofText "\x7b\"filter\":5\x7d")) s = .ok none) ∧
      ((posting (Utf8.ofText "\x7b\"filter\":5\x7d")).bindObject filterFields).1 = .ok [] := by
  have hbody : Json.ofBytes? (Utf8.ofText "\x7b\"filter\":5\x7d") =
      some (.obj [("filter", .num (.int 5))]) := by decide +kernel
  refine ⟨hbody, supplied_filter _, ?_⟩
  rw [bindObject_fst, Binding.bodyObject_of_json (by decide) hbody]
  rfl

end Context

end Switchboard
