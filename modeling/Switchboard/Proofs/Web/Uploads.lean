import Switchboard.Proofs.Http.Uploads
import Switchboard.Proofs.Web.Precedence
import Switchboard.Proofs.Web.Standing

/-!
# Bound files

A file of the form is bound to the object that it travels in, and is read from there as it was uploaded,
with the size of its data. Whatever else is bound in the place of a file is JSON that another source or
the body has supplied, and has the size that stands there.
-/

namespace Switchboard

namespace Binding

open Json (Members)

/-! ## The source of files -/

theorem supplied_file {c : Context} (hform : c.isForm = true) (name : String) (kind : FieldKind) :
    supplied c name kind .file =
      c.readForm.1.map fun form => (form.file? name).map FormFile.bound := by
  have hraw : (fromSource c name kind .file).1 =
      c.readForm.1.map fun form => (form.file? name).map FormFile.bound := by
    simp only [fromSource, announcedForm_eq, hform, if_true]
    cases c.readForm.1 <;> rfl
  unfold supplied
  rw [hraw]
  cases c.readForm.1 with
  | error e => rfl
  | ok form =>
    show counted (.ok ((form.file? name).map FormFile.bound)) =
      .ok ((form.file? name).map FormFile.bound)
    cases form.file? name <;> rfl

theorem supplied_file_of_no_form {c : Context} (hform : c.isForm = false) (name : String)
    (kind : FieldKind) : supplied c name kind .file = .ok none := by
  simp [supplied, fromSource, announcedForm_eq, hform, counted, Except.map]

/-- What is found for a field is what the first of its sources that supplies something has, converted. -/
theorem lookUp_cases {c : Context} {name : String} {kind : FieldKind} {steps : List TextStep}
    {sources : List FieldSource} {r : Option Json}
    (h : (lookUp c name kind steps sources).1 = .ok r) :
    (r = none ∧ ∀ s ∈ sources, supplied c name kind s = .ok none) ∨
      ∃ earlier s later raw v, sources = earlier ++ s :: later ∧
        (∀ e ∈ earlier, supplied c name kind e = .ok none) ∧
        supplied c name kind s = .ok (some raw) ∧ convert kind steps raw = .ok v ∧ r = some v := by
  induction sources with
  | nil =>
    cases h
    exact .inl ⟨rfl, by simp⟩
  | cons s ss ih =>
    rw [lookUp_fst_cons] at h
    obtain ⟨raw?, hs, h⟩ := bind_eq_ok h
    cases raw? with
    | some raw =>
      obtain ⟨v, hv, rfl⟩ := map_eq_ok h
      exact .inr ⟨[], s, ss, raw, v, rfl, by simp, hs, hv, rfl⟩
    | none =>
      rcases ih h with ⟨rfl, hss⟩ | ⟨earlier, s', later, raw, v, rfl, hearlier, hs', hv, rfl⟩
      · refine .inl ⟨rfl, ?_⟩
        simpa [hs] using hss
      · refine .inr ⟨s :: earlier, s', later, raw, v, rfl, ?_, hs', hv, rfl⟩
        simpa [hs] using hearlier

theorem ok_of_toOption {ε α : Type} {r : Except ε α} {a : α} (h : r.toOption = some a) : r = .ok a := by
  cases r with
  | error e => cases h
  | ok b => exact congrArg Except.ok (Option.some.inj h)

theorem map_isOk_iff {ε α β : Type} {r : Except ε α} {g : α → β} :
    (∃ b, r.map g = .ok b) ↔ ∃ a, r = .ok a := by
  cases r with
  | error e => simp [Except.map]
  | ok a => exact ⟨fun _ => ⟨a, rfl⟩, fun _ => ⟨g a, rfl⟩⟩

mutual
theorem gatherField_isOk_iff {find : Leaf → Except Error (Option Json)} {ms : Members} : ∀ {f : Field},
    (∃ ms', gatherField find ms f = .ok ms') ↔ ∀ p ∈ leavesOf f, ∃ r, find p.2 = .ok r
  | .plain name sources kind steps => by
    simp only [gatherField, map_isOk_iff, leavesOf, List.mem_singleton, forall_eq]
  | .object name fields => by
    simp only [gatherField, map_isOk_iff, leavesOf, List.forall_mem_map]
    exact gather_isOk_iff
/-- An object is gathered unless what is found for a leaf is an error. -/
theorem gather_isOk_iff {find : Leaf → Except Error (Option Json)} {ms : Members} : ∀ {fs : List Field},
    (∃ ms', gather find ms fs = .ok ms') ↔ ∀ p ∈ leaves fs, ∃ r, find p.2 = .ok r
  | [] => by simp [gather, leaves]
  | f :: fs => by
    have hfirst : (∃ ms₁, gatherField find ms f = .ok ms₁) ↔ _ := gatherField_isOk_iff
    simp only [mem_leaves_cons, or_imp, forall_and]
    rw [← hfirst]
    constructor
    · rintro ⟨ms', h⟩
      rw [gather] at h
      obtain ⟨ms₁, hfirst, hrest⟩ := bind_eq_ok h
      exact ⟨⟨ms₁, hfirst⟩, gather_isOk_iff.mp ⟨ms', hrest⟩⟩
    · rintro ⟨⟨ms₁, hfirst⟩, hrest⟩
      rw [gather, hfirst]
      exact gather_isOk_iff.mpr hrest
end

theorem gather_isOk_iff_others {find : Leaf → Except Error (Option Json)} {ms : Members}
    {fs : List Field} {l : Leaf} {r : Option Json} (hfound : find l = .ok r) :
    (∃ ms', gather find ms fs = .ok ms') ↔ ∀ p ∈ leaves fs, p.2 ≠ l → ∃ r, find p.2 = .ok r := by
  rw [gather_isOk_iff]
  constructor
  · intro h p hp _
    exact h p hp
  · intro h p hp
    by_cases hpl : p.2 = l
    · rw [hpl]
      exact ⟨r, hfound⟩
    · exact h p hp hpl

/-! ## Other sources of files -/

theorem of_counted {r : Except Error (Option Json)} {raw : Json} (h : counted r = .ok (some raw)) :
    r = .ok (some raw) ∧ isEmpty raw = false := by
  obtain ⟨raw?, hr, hraw⟩ := map_eq_ok h
  obtain ⟨rfl, hfull⟩ := Option.filter_eq_some_iff.mp hraw
  exact ⟨hr, by simpa using hfull⟩

theorem textsToJson_file (values : List String) :
    textsToJson .file values = .null ∨ ∃ t, textsToJson .file values = .str t := by
  match values with
  | [] => exact .inl rfl
  | [v] => exact .inr ⟨v, rfl⟩
  | v :: _ :: _ => exact .inr ⟨v, rfl⟩

/-- For a file field, all sources but the store and the files of the form supply texts. -/
theorem text_of_supplied {c : Context} {name : String} {s : FieldSource} {raw : Json}
    (h : supplied c name .file s = .ok (some raw)) (hvalue : s ≠ .value) (hfile : s ≠ .file) :
    ∃ t, raw = .str t := by
  obtain ⟨hraw, hfull⟩ := of_counted h
  have htexts {values : Option (List String)} (hv : values.map (textsToJson .file) = some raw) :
      ∃ t, raw = .str t := by
    obtain ⟨vs, -, rfl⟩ := Option.map_eq_some_iff.mp hv
    rcases textsToJson_file vs with hnull | htext
    · rw [hnull] at hfull
      cases hfull
    · exact htext
  cases s with
  | value => exact absurd rfl hvalue
  | file => exact absurd rfl hfile
  | header | cookie =>
    obtain ⟨t, -, rfl⟩ := Option.map_eq_some_iff.mp (Except.ok.inj hraw)
    exact ⟨t, rfl⟩
  | param => 
    cases hraw
    exact ⟨_, rfl⟩
  | query => exact htexts (Except.ok.inj hraw)
  | form =>
    obtain ⟨form, -, hv⟩ := map_eq_ok hraw
    exact htexts hv

theorem upload_of_supplied {c : Context} {name : String} {kind : FieldKind} {steps : List TextStep}
    {raw j : Json} (h : supplied c name kind .file = .ok (some raw))
    (hj : convert kind steps raw = .ok j) :
    ∃ form f, c.readForm.1 = .ok form ∧ form.file? name = some f ∧ j = f.bound := by
  cases hisForm : c.isForm with
  | false =>
    rw [supplied_file_of_no_form hisForm] at h
    cases h
  | true =>
    rw [supplied_file hisForm] at h
    obtain ⟨form, hread, hraw⟩ := map_eq_ok h
    obtain ⟨f, hfile, rfl⟩ := Option.map_eq_some_iff.mp hraw
    exact ⟨form, f, hread, hfile, (Except.ok.inj hj).symm⟩

/-- Of the other sources only the store has what a file field can hold. -/
theorem stored_of_supplied {c : Context} {name : String} {steps : List TextStep} {s : FieldSource}
    {raw j : Json} (h : supplied c name .file s = .ok (some raw)) (hj : convert .file steps raw = .ok j)
    (hfile : s ≠ .file) : s = .value := by
  by_contra hvalue
  obtain ⟨t, rfl⟩ := text_of_supplied h hvalue hfile
  cases hj

/-! ## Fields of files -/

/-- The field is one of a file, and no source before the files of the form has a value for it. -/
structure Leaf.TakesFile (l : Leaf) (c : Context) : Prop where
  kind : l.kind = .file
  sources : ∃ earlier later, l.sources = earlier ++ .file :: later ∧
    ∀ e ∈ earlier, l.supplied c e = .ok none

theorem Leaf.TakesFile.found {l : Leaf} {c : Context} (h : l.TakesFile c) (hisForm : c.isForm = true)
    {form : Form} (hread : c.readForm.1 = .ok form) {f : FormFile} (hf : form.file? l.name = some f) :
    l.found c = .ok (some f.bound) := by
  obtain ⟨earlier, later, hsources, hearlier⟩ := h.sources
  have hsupplied : l.supplied c .file = .ok (some f.bound) := by
    show Binding.supplied c l.name l.kind .file = _
    rw [supplied_file hisForm, hread]
    show Except.ok ((form.file? l.name).map FormFile.bound) = _
    rw [hf]
    rfl
  unfold Leaf.found
  rw [hsources, lookUp_first hearlier hsupplied]
  rfl

end Binding

/-! ## Types of content -/

theorem Request.hasType_apart {r : Request} {kind kind' : String} (h : r.hasType kind = true)
    (hapart : ¬ kind.toList <+: kind'.toList ∧ ¬ kind'.toList <+: kind.toList) :
    r.hasType kind' = false := by
  rw [Bool.eq_false_iff]
  intro h'
  rcases List.prefix_or_prefix_of_prefix (List.isPrefixOf_iff_prefix.mp h)
    (List.isPrefixOf_iff_prefix.mp h') with hprefix | hprefix
  · exact hapart.1 hprefix
  · exact hapart.2 hprefix

theorem Form.parts_of_ofRequest {r : Request} {form : Form} (hmultipart : r.hasType multipart = true)
    (h : ofRequest r = .ok form) :
    ∃ b ps, Multipart.boundary? ((r.text? "content-type").getD "") = some b ∧
      Multipart.parts? b r.body = some ps ∧ form = ofParts ps := by
  have hurlencoded : r.hasType urlencoded = false := Request.hasType_apart hmultipart (by decide)
  simp only [ofRequest, hurlencoded, hmultipart, Bool.false_eq_true, if_false, if_true] at h
  split at h
  · cases h
  · rename_i b hb
    split at h
    · cases h
    · rename_i ps hps
      exact ⟨b, ps, hb, hps, (Except.ok.inj h).symm⟩

namespace Context

open Binding (leaves Distinct valueAt)

theorem bindObject_of_not_json {c : Context} (h : c.request.hasType "application/json" = false)
    (fields : List Field) :
    (c.bindObject fields).1 = Binding.gather (·.found c) [] fields := by
  rw [bindObject_fst, Binding.bodyObject_of_not_json h]
  rfl

theorem readForm_of_ofRequest {c : Context} {form : Form} (h : Form.ofRequest c.request = .ok form)
    (hform : c.form = none ∨ c.form = some form) : c.readForm.1 = .ok form := by
  rw [readForm_fst]
  rcases hform with hform | hform
  · rw [hform]
    exact h
  · rw [hform]

/-- A file is read from the text that is written for it as it was. In a multipart request, the first file
of a field's name is what the field is bound to: the object in its place is read as the file that the form
has. -/
theorem uploads_survive :
    (∀ f : FormFile, f.size < UInt64.size → FormFile.ofText? f.toJson.print = some f) ∧
    (∀ f : FormFile, ∃ ds, Base64.Digits f.data ds ∧
      f.toJson.get? "data" = some (Json.text (ds.map (Base64.alphabet.getD · '=') ++
        List.replicate ((3 - f.data.length % 3) % 3) '='))) ∧
    ∀ {c : Context} {form : Form}, c.request.hasType Form.multipart = true →
      Form.ofRequest c.request = .ok form → (c.form = none ∨ c.form = some form) →
      (∃ b ps, Multipart.boundary? ((c.request.text? "content-type").getD "") = some b ∧
        Multipart.parts? b c.request.body = some ps ∧
        ∀ name, form.file? name = ((ps.find? (·.isFileOf name)).bind Form.fileOf?).map Prod.snd) ∧
      (∀ name kind, Binding.supplied c name kind .file = .ok ((form.file? name).map FormFile.bound)) ∧
      ∀ {fields path l f}, Distinct fields → (path, l) ∈ leaves fields → l.TakesFile c →
        form.file? l.name = some f →
        ((∃ ms, (c.bindObject fields).1 = .ok ms) ↔
          ∀ p ∈ leaves fields, p.2 ≠ l → ∃ r, p.2.found c = .ok r) ∧
        ∀ ms, (c.bindObject fields).1 = .ok ms →
          ∃ j, valueAt ms l.name path = some j ∧ FormFile.ofJson? j = some f := by
  refine ⟨fun f => FormFile.ofText?_print, ?_, ?_⟩
  · intro f
    obtain ⟨ds, hds, hencode⟩ := Base64.encode_digits f.data
    refine ⟨ds, hds, ?_⟩
    rw [← hencode]
    rfl
  · intro c form hmultipart hform hkept
    have hread := readForm_of_ofRequest hform hkept
    have hisForm : c.isForm = true := by simp [isForm, Form.isAnnounced, hmultipart]
    refine ⟨?_, ?_, ?_⟩
    · obtain ⟨b, ps, hb, hps, rfl⟩ := Form.parts_of_ofRequest hmultipart hform
      exact ⟨b, ps, hb, hps, Form.file?_ofParts ps⟩
    · intro name kind
      rw [Binding.supplied_file hisForm, hread]
      rfl
    · intro fields path l f hdistinct hl htakes hf
      have hfound := htakes.found hisForm hread hf
      rw [bindObject_of_not_json (Request.hasType_apart hmultipart (by decide))]
      refine ⟨Binding.gather_isOk_iff_others hfound, ?_⟩
      intro ms hms
      obtain ⟨r, hr, hvalue⟩ := Binding.valueAt_gather hms hdistinct hl
      rw [hfound] at hr
      exact ⟨f.bound, hvalue _ (Except.ok.inj hr).symm, f.ofJson?_bound⟩

/-- A form with two files of one name. -/
def reporting : Context where
  request := { Request.new "POST" "/" with
    header := [("content-type", "multipart/form-data; boundary=X")]
    body := Utf8.ofText ("--X\r\nContent-Disposition: form-data; name=\"doc\"; filename=\"a\"\r\n\r\n" ++
      "hi\r\n--X\r\nContent-Disposition: form-data; name=\"doc\"; filename=\"b\"\r\n\r\n\r\n--X--\r\n") }

def reportFields : List Field := [.object "report" [.plain "doc" [.query, .file] .file []]]

def note : FormFile := ⟨"a", "application/octet-stream", 2, [0x68, 0x69]⟩

def reportForm : Form where
  files := [("doc", note), ("doc", ⟨"b", "application/octet-stream", 0, []⟩)]

theorem multipart_reporting : reporting.request.hasType Form.multipart = true := by decide

theorem not_json_reporting : reporting.request.hasType "application/json" = false :=
  Request.hasType_apart multipart_reporting (by decide)

theorem form_reporting : Form.ofRequest reporting.request = .ok reportForm :=
  Binding.ok_of_toOption (by decide +kernel)

def reportLeaf : Binding.Leaf := ⟨"doc", [.query, .file], .file, []⟩

theorem leaves_reportFields : leaves reportFields = [(["report"], reportLeaf)] := by
  simp [reportFields, leaves, Binding.leavesOf, reportLeaf]

theorem distinct_reportFields : Distinct reportFields := by
  simp [reportFields, Distinct, Binding.distinctIn]

theorem reportLeaf_takesFile : reportLeaf.TakesFile reporting := by
  have hquery : reportLeaf.supplied reporting .query = .ok none := by cbv
  exact ⟨rfl, [.query], [], rfl, by simpa using hquery⟩

theorem uploads_survive_reporting :
    FormFile.ofText? note.toJson.print = some note ∧
      ∃ ms, (reporting.bindObject reportFields).1 = .ok ms ∧
        ∃ j, valueAt ms "doc" ["report"] = some j ∧ FormFile.ofJson? j = some note := by
  have hl : (["report"], reportLeaf) ∈ leaves reportFields := by simp [leaves_reportFields]
  have hfile : reportForm.file? "doc" = some note := rfl
  obtain ⟨-, -, hbinds⟩ := uploads_survive.2.2 multipart_reporting form_reporting (.inl rfl)
  obtain ⟨hsucceeds, hbound⟩ := hbinds distinct_reportFields hl reportLeaf_takesFile hfile
  obtain ⟨ms, hms⟩ := hsucceeds.mpr (by simp [leaves_reportFields])
  exact ⟨uploads_survive.1 note (by decide), ms, hms, hbound ms hms⟩

/-! ## Sizes -/

def KeepsForm (c : Context) : Prop := ∀ form ∈ c.form, ∃ r, Form.ofRequest r = .ok form

theorem KeepsForm.of_readForm {c : Context} (h : c.KeepsForm) {form : Form}
    (hread : c.readForm.1 = .ok form) : ∃ r, Form.ofRequest r = .ok form := by
  rw [readForm_fst] at hread
  cases hform : c.form with
  | none =>
    rw [hform] at hread
    exact ⟨c.request, hread⟩
  | some kept =>
    rw [hform] at hread
    obtain rfl : kept = form := Except.ok.inj hread
    exact h kept hform

theorem KeepsForm.of_learns {c c' : Context} (h : c.KeepsForm) (hlearns : Learns c c') :
    c'.KeepsForm := by
  intro form hform
  rcases hlearns.form with hsame | ⟨form', hread, hform'⟩
  · rw [hsame] at hform
    exact h form hform
  · obtain rfl : form' = form := Option.some.inj (hform'.symm.trans hform)
    exact h.of_readForm hread

/-- What is in the place of a field has been given as JSON: by the first of its sources that supplies
anything, which is not the files of the form, or else by the body. -/
inductive GivenAsJson (c : Context) (path : List String) (l : Binding.Leaf) (j : Json) : Prop
  | source {earlier later : List FieldSource} {s : FieldSource} {raw : Json}
      (hsources : l.sources = earlier ++ s :: later)
      (hearlier : ∀ e ∈ earlier, l.supplied c e = .ok none) (hs : s ≠ .file)
      (hraw : l.supplied c s = .ok (some raw))
      (hj : Binding.convert l.kind l.steps raw = .ok j)
  | body {ms : Json.Members} (hsilent : ∀ s ∈ l.sources, l.supplied c s = .ok none)
      (hbody : Binding.bodyObject c = .ok ms) (hj : valueAt ms l.name path = some j)

/-- For a file field whose sources do not include the store, only the body gives it so. -/
theorem GivenAsJson.from_body {c : Context} {path : List String} {l : Binding.Leaf} {j : Json}
    (h : GivenAsJson c path l j) (hkind : l.kind = .file) (hstored : FieldSource.value ∉ l.sources) :
    ∃ ms, Binding.bodyObject c = .ok ms ∧ valueAt ms l.name path = some j := by
  cases h with
  | source hsources hearlier hs hraw hj =>
    rw [Binding.Leaf.supplied, hkind] at hraw
    rw [hkind] at hj
    rw [hsources, Binding.stored_of_supplied hraw hj hs] at hstored
    exact absurd (by simp) hstored
  | body hsilent hbody hj => exact ⟨_, hbody, hj⟩

/-- What has been bound to a field is a file of the form, of the size of its data, or has been given as JSON.
So whatever is read as a file there has the size of its data when the field is one of a file, does not look
into the store, and the body has nothing in its place, as a body that is no JSON. -/
theorem bound_file_sizes {c : Context} {fields : List Field} {ms : Json.Members} (hkeeps : c.KeepsForm)
    (hdistinct : Distinct fields) (hms : (c.bindObject fields).1 = .ok ms) :
    (c.bindObject fields).2.KeepsForm ∧
    ∀ {path l j}, (path, l) ∈ leaves fields → valueAt ms l.name path = some j →
      ((∃ form f, c.readForm.1 = .ok form ∧ form.file? l.name = some f ∧ j = f.bound ∧
        FormFile.ofJson? j = some f ∧ f.size = f.data.length) ∨ GivenAsJson c path l j) ∧
      (l.kind = .file → .value ∉ l.sources →
        (∀ body, Binding.bodyObject c = .ok body → valueAt body l.name path = none) →
        ∀ f, FormFile.ofJson? j = some f → f.size = f.data.length) := by
  refine ⟨hkeeps.of_learns ((steady_bindObject fields).learns c), ?_⟩
  intro path l j hl hj
  have hcases : (∃ form f, c.readForm.1 = .ok form ∧ form.file? l.name = some f ∧ j = f.bound ∧
      FormFile.ofJson? j = some f ∧ f.size = f.data.length) ∨ GivenAsJson c path l j := by
    rw [bindObject_fst] at hms
    obtain ⟨body, hbody, hgather⟩ := Binding.bind_eq_ok hms
    obtain ⟨r, hr, hvalue⟩ := Binding.valueAt_gather_eq hgather hdistinct hl
    rw [hj] at hvalue
    rcases Binding.lookUp_cases hr with ⟨rfl, hsilent⟩ |
        ⟨earlier, s, later, raw, v, hsources, hearlier, hraw, hv, rfl⟩
    · exact .inr (.body hsilent hbody hvalue.symm)
    · obtain rfl : j = v := Option.some.inj hvalue
      by_cases hs : s = .file
      · subst hs
        obtain ⟨form, f, hread, hfile, rfl⟩ := Binding.upload_of_supplied hraw hv
        obtain ⟨r, hr⟩ := hkeeps.of_readForm hread
        exact .inl ⟨form, f, hread, hfile, rfl, f.ofJson?_bound, Form.size_of_file? hr hfile⟩
      · exact .inr (.source hsources hearlier hs hraw hv)
  refine ⟨hcases, ?_⟩
  intro hkind hstored hempty f hf
  rcases hcases with ⟨form, f', -, -, -, hf', hsize⟩ | hgiven
  · obtain rfl : f' = f := Option.some.inj (hf'.symm.trans hf)
    exact hsize
  · obtain ⟨body, hbody, hgave⟩ := hgiven.from_body hkind hstored
    rw [hempty body hbody] at hgave
    cases hgave

theorem bindObject_reporting :
    (reporting.bindObject reportFields).1 = .ok [("report", .obj [("doc", note.bound)])] := by
  have hfound : reportLeaf.found reporting = .ok (some note.bound) :=
    reportLeaf_takesFile.found (by simp [isForm, Form.isAnnounced, multipart_reporting])
      (readForm_of_ofRequest form_reporting (.inl rfl)) rfl
  unfold reportLeaf at hfound
  rw [bindObject_of_not_json not_json_reporting]
  simp only [reportFields, Binding.gather, Binding.gatherField, hfound, Except.map]
  rfl

theorem bound_file_sizes_reporting :
    ∃ ms j f, (reporting.bindObject reportFields).1 = .ok ms ∧ valueAt ms "doc" ["report"] = some j ∧
      FormFile.ofJson? j = some f ∧ f.size = f.data.length := by
  have hl : (["report"], reportLeaf) ∈ leaves reportFields := by simp [leaves_reportFields]
  have hkeeps : reporting.KeepsForm := by
    intro form hform
    cases hform
  obtain ⟨-, hsizes⟩ := bound_file_sizes hkeeps distinct_reportFields bindObject_reporting
  obtain ⟨-, hsize⟩ := hsizes hl (j := note.bound) rfl
  have hempty : ∀ body, Binding.bodyObject reporting = .ok body →
      valueAt body "doc" ["report"] = none := by
    intro body hbody
    rw [Binding.bodyObject_of_not_json not_json_reporting] at hbody
    cases hbody
    rfl
  have hnote := hsize rfl (by decide) hempty note note.ofJson?_bound
  exact ⟨_, _, note, bindObject_reporting, rfl, note.ofJson?_bound, hnote⟩

/-- A file that the body gives, without any octet but with a size. -/
def hollow : Context := posting (Utf8.ofText
  "\x7b\"doc\":\x7b\"filename\":\"a\",\"content_type\":\"b\",\"size\":99,\"data\":\"\"\x7d\x7d")

theorem hollow_size_stands : ∃ f : FormFile,
    (hollow.bind [.plain "doc" [.file, .query] .file []] fun j =>
      (j.get? "doc").bind FormFile.ofJson?).1 = .ok f ∧ f.size ≠ f.data.length :=
  ⟨⟨"a", "b", 99, []⟩, Binding.ok_of_toOption (by decide +kernel), by decide⟩

end Context

end Switchboard
