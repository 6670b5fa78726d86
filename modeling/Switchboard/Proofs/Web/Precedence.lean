import Switchboard.Proofs.Json.Members
import Switchboard.Proofs.Web.Gathering

/-!
# Precedence of sources

Two requests that supply the same at the sources that are consulted are bound to the same. The value of a
leaf is the conversion of the first value that one of its sources has, whatever the body held in its place.
-/

namespace Switchboard

namespace Binding

open Json (Members)

/-! ## Places of leaves -/

def nameOf : Field → String
  | .plain name .. => name
  | .object name _ => name

/-- What stands under a name, in the object at the end of a path of names. -/
def valueAt (ms : Members) (name : String) : List String → Option Json
  | [] => ms.find? name
  | k :: path => valueAt (innerOf ms k) name path

mutual
def distinctIn : Field → Prop
  | .plain .. => True
  | .object _ fields => Distinct fields
def Distinct : List Field → Prop
  | [] => True
  | f :: fs => distinctIn f ∧ (∀ g ∈ fs, nameOf g ≠ nameOf f) ∧ Distinct fs
end

theorem innerOf_congr {ms ms' : Members} {k : String} (h : ms'.find? k = ms.find? k) :
    innerOf ms' k = innerOf ms k := by
  unfold innerOf
  rw [h]

theorem valueAt_congr {ms ms' : Members} {f : Field} (h : ms'.find? (nameOf f) = ms.find? (nameOf f))
    {path : List String} {l : Leaf} (hl : (path, l) ∈ leavesOf f) :
    valueAt ms' l.name path = valueAt ms l.name path := by
  cases f with
  | plain name sources kind steps =>
    simp only [leavesOf, List.mem_singleton, Prod.mk.injEq] at hl
    obtain ⟨rfl, rfl⟩ := hl
    exact h
  | object name fields =>
    obtain ⟨inner, rfl, -⟩ := mem_leavesOf_object.mp hl
    unfold valueAt
    rw [innerOf_congr (k := name) h]

theorem innerOf_putBack (ms : Members) (name : String) (inner : Members) :
    innerOf (putBack ms name inner) name = inner := by
  cases inner with
  | nil =>
    unfold innerOf putBack
    rw [Members.find?_erase_self]
  | cons m inner =>
    unfold innerOf putBack
    rw [Members.find?_insert_self]

/-! ## What fields leave alone -/

theorem find?_place (ms : Members) {name k : String} (h : k ≠ name) (r : Option Json) :
    (place ms name r).find? k = ms.find? k := by
  cases r with
  | none => rfl
  | some v => exact Members.find?_insert_ne ms v h

theorem find?_putBack (ms : Members) {name k : String} (h : k ≠ name) (inner : Members) :
    (putBack ms name inner).find? k = ms.find? k := by
  cases inner with
  | nil => exact Members.find?_erase_ne ms h
  | cons m inner =>
    unfold putBack
    rw [Members.find?_insert_ne _ _ h, Members.find?_erase_ne ms h]

theorem map_eq_ok {ε α β : Type} {r : Except ε α} {g : α → β} {b : β} (h : r.map g = .ok b) :
    ∃ a, r = .ok a ∧ g a = b := by
  cases r with
  | error e => cases h
  | ok a => exact ⟨a, rfl, Except.ok.inj h⟩

theorem bind_eq_ok {ε α β : Type} {r : Except ε α} {g : α → Except ε β} {b : β}
    (h : r.bind g = .ok b) : ∃ a, r = .ok a ∧ g a = .ok b := by
  cases r with
  | error e => cases h
  | ok a => exact ⟨a, rfl, h⟩

variable {find : Leaf → Except Error (Option Json)} {ms ms' : Members} {k : String}

theorem find?_gatherField {f : Field} (h : gatherField find ms f = .ok ms') (hk : k ≠ nameOf f) :
    ms'.find? k = ms.find? k := by
  cases f with
  | plain name sources kind steps =>
    rw [gatherField] at h
    obtain ⟨r, -, rfl⟩ := map_eq_ok h
    exact find?_place ms hk r
  | object name fields =>
    rw [gatherField] at h
    obtain ⟨inner, -, rfl⟩ := map_eq_ok h
    exact find?_putBack ms hk inner

theorem find?_gather {fs : List Field} (h : gather find ms fs = .ok ms')
    (hk : ∀ f ∈ fs, nameOf f ≠ k) : ms'.find? k = ms.find? k := by
  induction fs generalizing ms with
  | nil =>
    rw [gather] at h
    rw [Except.ok.inj h]
  | cons f fs ih =>
    rw [gather] at h
    obtain ⟨ms₁, hfirst, hrest⟩ := bind_eq_ok h
    rw [ih hrest fun g hg => hk g (List.mem_cons_of_mem _ hg)]
    exact find?_gatherField hfirst (Ne.symm (hk f List.mem_cons_self))

/-! ## What leaves hold -/

theorem mem_leaves_iff {fs : List Field} {p : List String × Leaf} :
    p ∈ leaves fs ↔ ∃ f ∈ fs, p ∈ leavesOf f := by
  induction fs with
  | nil => simp [leaves]
  | cons f fs ih => simp [mem_leaves_cons, ih]

mutual
/-- In the place of a leaf stands what has been found for it, or what stood there before. -/
theorem valueAt_gatherField_eq {ms ms' : Members} {path : List String} {l : Leaf} :
    ∀ {f : Field}, gatherField find ms f = .ok ms' → distinctIn f → (path, l) ∈ leavesOf f →
      ∃ r, find l = .ok r ∧ valueAt ms' l.name path = r.or (valueAt ms l.name path)
  | .plain name sources kind steps, h, _, hl => by
    simp only [leavesOf, List.mem_singleton, Prod.mk.injEq] at hl
    obtain ⟨rfl, rfl⟩ := hl
    rw [gatherField] at h
    obtain ⟨r, hr, rfl⟩ := map_eq_ok h
    refine ⟨r, hr, ?_⟩
    cases r with
    | none => rfl
    | some v => exact Members.find?_insert_self ms name v
  | .object name fields, h, hdistinct, hl => by
    obtain ⟨inner, rfl, hinner⟩ := mem_leavesOf_object.mp hl
    rw [gatherField] at h
    obtain ⟨gathered, hgather, rfl⟩ := map_eq_ok h
    rw [valueAt, innerOf_putBack]
    exact valueAt_gather_eq hgather hdistinct hinner
theorem valueAt_gather_eq {ms ms' : Members} {path : List String} {l : Leaf} :
    ∀ {fs : List Field}, gather find ms fs = .ok ms' → Distinct fs → (path, l) ∈ leaves fs →
      ∃ r, find l = .ok r ∧ valueAt ms' l.name path = r.or (valueAt ms l.name path)
  | f :: fs, h, hdistinct, hl => by
    obtain ⟨hf, hnames, hfs⟩ := hdistinct
    rw [gather] at h
    obtain ⟨ms₁, hfirst, hrest⟩ := bind_eq_ok h
    -- fields have other names than those before and behind them, and leave their places alone
    rcases mem_leaves_cons.mp hl with hl | hl
    · rw [valueAt_congr (find?_gather hrest hnames) hl]
      exact valueAt_gatherField_eq hfirst hf hl
    · obtain ⟨g, hg, hlg⟩ := mem_leaves_iff.mp hl
      rw [← valueAt_congr (find?_gatherField hfirst (hnames g hg)) hlg]
      exact valueAt_gather_eq hrest hfs hl
end

/-- What has been found for a leaf stands in its place: nothing that is gathered later takes it away. -/
theorem valueAt_gather {ms ms' : Members} {path : List String} {l : Leaf} {fs : List Field}
    (h : gather find ms fs = .ok ms') (hdistinct : Distinct fs) (hl : (path, l) ∈ leaves fs) :
    ∃ r, find l = .ok r ∧ ∀ v, r = some v → valueAt ms' l.name path = some v := by
  obtain ⟨r, hr, hvalue⟩ := valueAt_gather_eq h hdistinct hl
  refine ⟨r, hr, ?_⟩
  rintro v rfl
  exact hvalue

/-! ## What bodies decide -/

theorem hasType_congr {c c' : Context} (h : c'.header? "content-type" = c.header? "content-type")
    (kind : String) : c'.request.hasType kind = c.request.hasType kind := by
  unfold Request.hasType
  rw [show c'.request.text? "content-type" = c.request.text? "content-type" from h]

theorem bodyObject_of_not_json {c : Context} (h : c.request.hasType "application/json" = false) :
    bodyObject c = .ok [] := by
  simp [bodyObject, h]

theorem supplied_withBody (c : Context) (body : Bytes) (name : String) (kind : FieldKind)
    {s : FieldSource} (hform : s ≠ .form) (hfile : s ≠ .file) :
    supplied { c with request := c.request.withBody body } name kind s = supplied c name kind s := by
  cases s with
  | value | header | param | cookie => rfl
  | query =>
    unfold supplied
    simp only [fromSource, Context.queryParams_fst]
    rfl
  | form => exact absurd rfl hform
  | file => exact absurd rfl hfile

theorem bindObject_congr {c c' : Context} {fields : List Field} (hbody : bodyObject c' = bodyObject c)
    (hsources : ∀ p ∈ leaves fields, ∀ s ∈ p.2.consulted c, p.2.supplied c' s = p.2.supplied c s) :
    (c'.bindObject fields).1 = (c.bindObject fields).1 := by
  rw [Context.bindObject_fst, Context.bindObject_fst, hbody]
  congr 1
  funext ms
  apply gather_congr
  intro p hp
  exact lookUp_congr (hsources p hp) p.2.steps

end Binding

namespace Context

open Binding (leaves Distinct valueAt convert bodyObject)

/-- Requests that agree on the type of their content, on what a body of JSON is read as, and for each
leaf on what the sources up to the first that has a value supply, are bound to the same object or refused
with the same error. A leaf that a source has a value for holds the conversion of the first one. The
octets of a body that is no JSON do not matter where no form has to be read. -/
theorem first_source_decides {α : Type} {c c' : Context} {fields : List Field}
    (hdistinct : Distinct fields) (htype : c'.header? "content-type" = c.header? "content-type")
    (hbody : c.request.hasType "application/json" = true → bodyObject c' = bodyObject c)
    (hsources : ∀ p ∈ leaves fields, ∀ s ∈ p.2.consulted c, p.2.supplied c' s = p.2.supplied c s)
    (read? : Json → Option α) :
    (c'.bind fields read?).1 = (c.bind fields read?).1 ∧
    (∀ ms, (c.bindObject fields).1 = .ok ms → ∀ path l, (path, l) ∈ leaves fields →
      ∀ earlier s later raw, l.sources = earlier ++ s :: later →
        (∀ e ∈ earlier, l.supplied c e = .ok none) → l.supplied c s = .ok (some raw) →
        ∃ v, convert l.kind l.steps raw = .ok v ∧ valueAt ms l.name path = some v) ∧
    ∀ body, c.request.hasType "application/json" = false →
      (∀ p ∈ leaves fields, ∀ s ∈ p.2.consulted c, s ≠ .form ∧ s ≠ .file) →
      (({ c with request := c.request.withBody body } : Context).bind fields read?).1 =
        (c.bind fields read?).1 := by
  refine ⟨?_, ?_, ?_⟩
  · rw [bind_fst, bind_fst, Binding.bindObject_congr ?_ hsources]
    cases hjson : c.request.hasType "application/json" with
    | true => exact hbody hjson
    | false =>
      have hjson' := (Binding.hasType_congr htype _).trans hjson
      rw [Binding.bodyObject_of_not_json hjson, Binding.bodyObject_of_not_json hjson']
  · intro ms hms path l hl earlier s later raw hsplit hearlier hs
    rw [bindObject_fst] at hms
    obtain ⟨ms₀, -, hgather⟩ := Binding.bind_eq_ok hms
    obtain ⟨r, hr, hholds⟩ := Binding.valueAt_gather hgather hdistinct hl
    unfold Binding.Leaf.found at hr
    rw [hsplit, Binding.lookUp_first hearlier hs] at hr
    obtain ⟨v, hv, rfl⟩ := Binding.map_eq_ok hr
    exact ⟨v, hv, hholds v rfl⟩
  · intro body hjson hreached
    rw [bind_fst, bind_fst, Binding.bindObject_congr]
    · rw [Binding.bodyObject_of_not_json hjson, Binding.bodyObject_of_not_json (by exact hjson)]
    · intro p hp s hs
      obtain ⟨hform, hfile⟩ := hreached p hp s hs
      exact Binding.supplied_withBody c body _ _ hform hfile

/-- A value from the store, and one from a header for a field within a field. -/
def badgeFields : List Field :=
  [.plain "q" [.param, .value, .form] .text [], .object "f" [.plain "x" [.header, .file] .bool []]]

/-- Its form has no boundary and cannot be read, but no field gets as far as that. -/
def badge : Context where
  request := { Request.new "POST" "/" with
    header := [("content-type", "multipart/form-data"), ("x", "on")] }
  store := [("q", .text "a")]

def otherBadge : Context where
  request := { Request.new "GET" "/b?q=c" with
    header := [("x", "on"), ("content-type", "multipart/form-data"), ("x", "off")]
    body := [0x2D, 0x2D]
    values := [("q", .other)] }
  store := [("q", .constant "a"), ("x", .bool false)]

theorem bindObject_badge :
    (badge.bindObject badgeFields).1 = .ok [("f", .obj [("x", .bool true)]), ("q", .str "a")] := by
  have hq : Binding.Leaf.found ⟨"q", [.param, .value, .form], .text, []⟩ badge =
      .ok (some (.str "a")) := Binding.eq_ok_of_toOption (by decide +kernel)
  have hx : Binding.Leaf.found ⟨"x", [.header, .file], .bool, []⟩ badge =
      .ok (some (.bool true)) := Binding.eq_ok_of_toOption (by decide +kernel)
  rw [bindObject_fst, Binding.bodyObject_of_not_json (by decide)]
  simp only [Except.bind, badgeFields, Binding.gather, Binding.gatherField, hq, hx, Except.map]
  exact congrArg Except.ok (by decide +kernel)

theorem first_source_decides_badge :
    (otherBadge.bind badgeFields some).1 = (badge.bind badgeFields some).1 ∧
      (∃ ms, (badge.bindObject badgeFields).1 = .ok ms ∧
        valueAt ms "x" ["f"] = some (.bool true)) ∧
      ∀ body, (({ badge with request := badge.request.withBody body } : Context).bind badgeFields
        some).1 = (badge.bind badgeFields some).1 := by
  have hq : Binding.Leaf.consulted ⟨"q", [.param, .value, .form], .text, []⟩ badge =
      [.param, .value] := by decide
  have hx : Binding.Leaf.consulted ⟨"x", [.header, .file], .bool, []⟩ badge = [.header] := by decide
  have hleaves : leaves badgeFields = [([], ⟨"q", [.param, .value, .form], .text, []⟩),
      (["f"], ⟨"x", [.header, .file], .bool, []⟩)] := by
    simp [badgeFields, leaves, Binding.leavesOf]
  have hsame {r r' : Except Error (Option Json)} {a : Option Json} (h : r.toOption = some a)
      (h' : r'.toOption = some a) : r = r' :=
    (Binding.eq_ok_of_toOption h).trans (Binding.eq_ok_of_toOption h').symm
  have hsources : ∀ p ∈ leaves badgeFields, ∀ s ∈ p.2.consulted badge,
      p.2.supplied otherBadge s = p.2.supplied badge s := by
    simp only [hleaves, List.forall_mem_cons, hq, hx]
    refine ⟨⟨hsame (a := none) ?_ ?_, hsame (a := some (.str "a")) ?_ ?_, by simp⟩,
      ⟨hsame (a := some (.str "on")) ?_ ?_, by simp⟩, by simp⟩ <;> decide +kernel
  have hdistinct : Distinct badgeFields := by
    simp [badgeFields, Distinct, Binding.distinctIn, Binding.nameOf]
  obtain ⟨hbound, hholds, hbody⟩ := first_source_decides hdistinct (by decide +kernel)
    (fun h => absurd h (by decide)) hsources some
  refine ⟨hbound, ⟨_, bindObject_badge, ?_⟩, fun body => hbody body (by decide) ?_⟩
  · obtain ⟨v, hv, hvalue⟩ := hholds _ bindObject_badge ["f"] ⟨"x", [.header, .file], .bool, []⟩
      (by simp [hleaves]) [] .header [.file] (.str "on") rfl (by simp)
      (Binding.eq_ok_of_toOption (by decide +kernel))
    obtain rfl : v = .bool true :=
      Except.ok.inj (hv.symm.trans (Binding.eq_ok_of_toOption (by decide +kernel)))
    exact hvalue
  · simp [hleaves, hq, hx]

end Context

end Switchboard
