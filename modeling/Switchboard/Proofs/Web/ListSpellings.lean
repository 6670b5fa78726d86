import Switchboard.Proofs.Json.Lists
import Switchboard.Proofs.Web.BadRequests

/-!
# Spellings of lists

A list of texts can be sent as one value with commas, as one value that is a JSON array, or as a value
for each text. A field of a list kind is bound to the same list in each case, or refused for the same text.
-/

namespace Switchboard

namespace Binding

/-- Texts that can stand between commas: without a comma, not blank, with no blank at either end. The
first does not begin as an array does. -/
structure Listable (items : List String) : Prop where
  nonempty : items ≠ []
  filled : ∀ i ∈ items, i.toList ≠ []
  trimmed : ∀ i ∈ items, Text.trim i.toList = i.toList
  comma : ∀ i ∈ items, ',' ∉ i.toList
  bracket : ∀ i ∈ items.head?, i.toList.head? ≠ some '['

inductive Spelling (items : List String) : List String → Prop
  | joined : Spelling items [String.ofList (Text.join ',' (items.map String.toList))]
  | array {a : String} (h : Json.ofString? a = some (.arr (items.map .str))) : Spelling items [a]
  | repeated (h : 2 ≤ items.length) : Spelling items items

theorem spelling_render (items : List String) :
    Spelling items [(Json.arr (items.map .str)).render] := by
  refine .array ?_
  rw [Json.ofString?, Json.render, String.toList_ofList, Json.ofText?_print_texts]

section conversion

variable {items : List String} (steps : List TextStep) (item : FieldKind)

def convertEach (items : List String) : Except Error (List Json) :=
  items.mapM fun i => convertText steps item i.toList

theorem convertItems_texts (items : List String) :
    convertItems (convertText steps item) (items.map .str) =
      (convertEach steps item items).map Json.arr := by
  unfold convertItems convertEach
  rw [List.mapM_map]
  rfl

theorem listItems_join (h : Listable items) :
    listItems (Text.join ',' (items.map String.toList)) = items.map String.toList := by
  have htrim : (items.map String.toList).map Text.trim = items.map String.toList := by
    rw [List.map_map]
    exact List.map_congr_left h.trimmed
  have hfilter : (items.map String.toList).filter (!·.isEmpty) = items.map String.toList := by
    rw [List.filter_eq_self]
    simpa using h.filled
  unfold listItems
  rw [Text.pieces_join, htrim, hfilter]
  · simpa using h.comma
  · simpa using h.nonempty

theorem exists_head_join (h : Listable items) :
    ∃ c, (Text.join ',' (items.map String.toList)).head? = some c ∧ c ≠ '[' := by
  cases items with
  | nil => exact absurd rfl h.nonempty
  | cons i items =>
    have hfilled : i.toList ≠ [] := h.filled i List.mem_cons_self
    cases hi : i.toList with
    | nil => exact absurd hi hfilled
    | cons c s =>
      refine ⟨c, ?_, ?_⟩
      · rw [List.map_cons, Text.head?_join hfilled, hi, List.head?_cons]
      · rintro rfl
        exact h.bracket i rfl (by rw [hi, List.head?_cons])

theorem convertText_join (h : Listable items) :
    convertText steps (.list item) (Text.join ',' (items.map String.toList)) =
      (convertEach steps item items).map Json.arr := by
  have htight : Text.Tight (Text.join ',' (items.map String.toList)) := by
    refine Text.tight_join ?_
    intro p hp
    obtain ⟨i, hi, rfl⟩ := List.mem_map.mp hp
    exact ⟨h.filled i hi, Text.trim_eq_self_iff.mp (h.trimmed i hi)⟩
  obtain ⟨c, hhead, hc⟩ := exists_head_join h
  have hbracket : (Text.join ',' (items.map String.toList)).head? ≠ some '[' := by
    rw [hhead]
    simpa using hc
  rw [convertText]
  simp only [Text.trim_eq_self_iff.mpr htight, hbracket, if_false, listItems_join h]
  rw [List.mapM_map]
  rfl

theorem convertText_array {a : String} (h : Json.ofString? a = some (.arr (items.map .str))) :
    convertText steps (.list item) a.toList = (convertEach steps item items).map Json.arr := by
  obtain ⟨hhead, htext⟩ := Json.ofText?_trim h
  rw [convertText]
  simp only [hhead, htext, if_true]
  exact convertItems_texts steps item items

/-- What a source supplies by any of the spellings counts, and is converted text by text. -/
theorem convert_spelling {values : List String} (hitems : Listable items)
    (hvalues : Spelling items values) :
    isEmpty (textsToJson (.list item) values) = false ∧
      convert (.list item) steps (textsToJson (.list item) values) =
        (convertEach steps item items).map Json.arr := by
  have htext {v : String} (hv : v.toList ≠ []) : isEmpty (.str v) = false := by
    rw [isEmpty, String.isEmpty_eq_false_iff]
    rintro rfl
    exact hv rfl
  cases hvalues with
  | joined =>
    constructor
    · obtain ⟨c, hhead, -⟩ := exists_head_join hitems
      refine htext fun hnil => ?_
      rw [String.toList_ofList] at hnil
      rw [hnil] at hhead
      cases hhead
    · show convertText steps (.list item) (String.ofList _).toList = _
      rw [String.toList_ofList, convertText_join steps item hitems]
  | @array a h =>
    constructor
    · obtain ⟨hhead, -⟩ := Json.ofText?_trim h
      refine htext fun hnil => ?_
      rw [hnil] at hhead
      cases hhead
    · exact convertText_array steps item h
  | repeated h =>
    match items, h with
    | i :: j :: rest, _ =>
      constructor
      · have hi : isEmpty (.str i) = false := htext (hitems.filled i List.mem_cons_self)
        show (isEmpty (.str i) && areEmpty _) = false
        rw [hi, Bool.false_and]
      · exact convertItems_texts steps item (i :: j :: rest)

end conversion

/-! ## Fields -/

/-- The query of the context has the texts under the name, in one of the spellings. -/
def Sends (c : Context) (name : String) (items : List String) : Prop :=
  ∃ values, c.queryParams.1.values? name = some values ∧ Spelling items values

theorem found_sends {c : Context} {name : String} {items : List String} (hitems : Listable items)
    (hc : Sends c name items) (item : FieldKind) (steps : List TextStep) (later : List FieldSource) :
    Leaf.found ⟨name, .query :: later, .list item, steps⟩ c =
      (convertEach steps item items).map fun js => some (.arr js) := by
  obtain ⟨values, hquery, hvalues⟩ := hc
  obtain ⟨hcounts, hconvert⟩ := convert_spelling steps item hitems hvalues
  have hsupplied : supplied c name (.list item) .query =
      .ok (some (textsToJson (.list item) values)) := by
    have hsource : (fromSource c name (.list item) .query).1 =
        .ok ((c.queryParams.1.values? name).map (textsToJson (.list item))) := rfl
    rw [supplied, hsource, hquery]
    simp [counted, Except.map, hcounts]
  have hfirst : (lookUp c name (.list item) steps ([] ++ .query :: later)).1 = _ :=
    lookUp_first (by simp) hsupplied steps later
  rw [List.nil_append, hconvert] at hfirst
  refine Eq.trans hfirst ?_
  cases convertEach steps item items <;> rfl

end Binding

namespace Context

open Binding

/-- A list that the query sends by any of its spellings is bound to the list of its texts, converted one
by one, or is refused as a bad request for the first text that is not converted. -/
theorem spellings_agree {α : Type} {items : List String} (hitems : Listable items) {name : String}
    {c c' : Context} (hc : Sends c name items) (hc' : Sends c' name items)
    (hbody : bodyObject c' = bodyObject c) (item : FieldKind) (steps : List TextStep)
    (later : List FieldSource) (read? : Json → Option α) :
    let fields : List Field := [.plain name (.query :: later) (.list item) steps]
    ((c.bindObject fields).1 = (bodyObject c).bind fun ms =>
        (convertEach steps item items).map fun js => ms.insert name (.arr js)) ∧
      (c'.bindObject fields).1 = (c.bindObject fields).1 ∧
      (c'.bind fields read?).1 = (c.bind fields read?).1 ∧ OrBadRequest (c.bind fields read?).1 := by
  intro fields
  have hbound {c : Context} (hc : Sends c name items) :
      (c.bindObject fields).1 = (bodyObject c).bind fun ms =>
        (convertEach steps item items).map fun js => ms.insert name (.arr js) := by
    rw [bindObject_fst]
    congr 1
    funext ms
    rw [gather, gatherField, found_sends hitems hc]
    cases convertEach steps item items <;> rfl
  have hagree : (c'.bindObject fields).1 = (c.bindObject fields).1 := by
    rw [hbound hc, hbound hc', hbody]
  refine ⟨hbound hc, hagree, ?_, c.bind_orBadRequest fields read?⟩
  rw [bind_fst, bind_fst, hagree]

def asking (target : String) : Context := { request := Request.new "GET" target }

theorem bodyObject_asking (target : String) : bodyObject (asking target) = .ok [] := by
  simp [bodyObject, asking, Request.new]

theorem spellings_agree_tags :
    let items := ["a\"bc", "é"]
    let fields : List Field := [.plain "tags" [.query] (.list .text) [.cut 3]]
    let sent := asking "/?tags=a%22bc,%C3%A9"
    Listable items ∧ Sends sent "tags" items ∧
      (sent.bindObject fields).1 = .ok [("tags", .arr [.str "a\"b", .str "é"])] ∧
      ∀ other ∈ ["/?tags=%5B%22a%5C%22bc%22,%22%C3%A9%22%5D", "/?tags=a%22bc&tags=%C3%A9"],
        Sends (asking other) "tags" items ∧
          ((asking other).bindObject fields).1 = (sent.bindObject fields).1 := by
  intro items fields sent
  have hitems : Listable items := ⟨by decide, by decide, by decide, by decide, by decide⟩
  have hjoined : Sends sent "tags" items := ⟨_, by decide +kernel, .joined⟩
  have harray : Sends (asking "/?tags=%5B%22a%5C%22bc%22,%22%C3%A9%22%5D") "tags" items :=
    ⟨_, by decide +kernel, spelling_render items⟩
  have hrepeated : Sends (asking "/?tags=a%22bc&tags=%C3%A9") "tags" items :=
    ⟨_, by decide +kernel, .repeated (Nat.le_refl 2)⟩
  have hagree {target : String} (h : Sends (asking target) "tags" items) :=
    Context.spellings_agree hitems hjoined h
      ((bodyObject_asking target).trans (bodyObject_asking _).symm) .text [.cut 3] [] some
  refine ⟨hitems, hjoined, ?_, ?_⟩
  · have heach : convertEach [.cut 3] .text items = .ok [.str "a\"b", .str "é"] :=
      eq_ok_of_toOption (by decide +kernel)
    refine (hagree hjoined).1.trans ?_
    rw [bodyObject_asking, heach]
    rfl
  · simp only [List.forall_mem_cons]
    exact ⟨⟨harray, (hagree harray).2.1⟩, ⟨hrepeated, (hagree hrepeated).2.1⟩, by simp⟩

end Context

end Switchboard
