import Switchboard.Http.Form
import Switchboard.Proofs.Json.Members
import Switchboard.Proofs.Json.Writing
import Switchboard.Proofs.Text.Base64

/-!
# Uploaded files

An uploaded file is read back as it was from each of its two JSON forms: the text that is written for it,
and the object that binding makes of it. The files of a form are those of its parts, and each has the size
of its data.
-/

namespace Switchboard

open Json (Members)
open Json.Tree (Member objectText spells_quote spells_digitsOf)

namespace FormFile

variable (f : FormFile)

/-! ## Files as JSON -/

theorem ofFields?_toJson : ofFields? (.str f.filename) (.str f.contentType) (Json.nat f.size)
    (Json.text (Base64.encode f.data)) = some f := by
  simp [ofFields?, Json.nat, Json.uint64?, Json.text, Base64.decode?_encode]

def written : List Member :=
  [⟨"filename", _, _, spells_quote f.filename.toList⟩,
    ⟨"content_type", _, _, spells_quote f.contentType.toList⟩,
    ⟨"size", _, _, spells_digitsOf f.size⟩,
    ⟨"data", _, _, spells_quote (String.ofList (Base64.encode f.data)).toList⟩]

theorem print_toJson : f.toJson.print = objectText f.written := by
  have hsize : (Json.nat f.size).print = Numerics.digitsOf f.size := by
    simp [Json.nat, Json.print, Json.Number.print, Numerics.formatInt]
  simp [toJson, Json.print, Json.printMembers, hsize, Json.text, objectText, Json.Tree.moreText,
    written, Member.written]

theorem record?_written (source : Json.Source) :
    (Json.Tree.object (f.written.map Member.read) source).record?
        ["filename", "content_type", "size", "data"] =
      some (f.written.map fun m => some m.tree) := by
  rw [Json.Tree.record?, Json.Tree.named?_read]
  simp [written, Json.Tree.single?]

variable {f}

theorem ofText?_print (h : f.size < UInt64.size) : ofText? f.toJson.print = some f := by
  obtain ⟨source, hspells⟩ := Json.Tree.spells_objectText f.written
  rw [print_toJson, ofText?, hspells.ofText?, Option.bind_eq_bind, Option.bind_some,
    Option.bind_eq_bind, record?_written, Option.bind_some]
  simp only [written, List.map_cons, List.map_nil, Json.Tree.value_quoted,
    Json.Tree.value_digitsOf h, Option.bind_eq_bind, Option.bind_some]
  exact ofFields?_toJson f

variable (f)

def bound : Json :=
  .obj [("content_type", .str f.contentType), ("data", Json.text (Base64.encode f.data)),
    ("filename", .str f.filename), ("size", Json.nat f.size)]

theorem ofJson?_bound : ofJson? f.bound = some f := by
  simp [ofJson?, bound, List.lookup_cons, ofFields?_toJson]

end FormFile

/-! ## Files of forms -/

def Multipart.Part.isFileOf (p : Multipart.Part) (name : String) : Bool :=
  p.name? == some name && p.filename?.isSome

namespace Form

theorem fileOf?_eq_some {p : Multipart.Part} {name : String} {f : FormFile}
    (h : fileOf? p = some (name, f)) :
    p.name? = some name ∧ p.filename? = some f.filename ∧ f.data = p.content ∧
      f.size = f.data.length := by
  unfold fileOf? at h
  split at h
  · rename_i hname hfilename
    cases h
    exact ⟨hname, hfilename, rfl, rfl⟩
  · cases h

theorem isFileOf_iff {p : Multipart.Part} {name : String} :
    p.isFileOf name = true ↔ ∃ f, fileOf? p = some (name, f) := by
  rw [Multipart.Part.isFileOf, Bool.and_eq_true, beq_iff_eq, Option.isSome_iff_exists]
  constructor
  · rintro ⟨hname, filename, hfilename⟩
    exact ⟨_, by rw [fileOf?, hname, hfilename]⟩
  · rintro ⟨f, hf⟩
    obtain ⟨hname, hfilename, -⟩ := fileOf?_eq_some hf
    exact ⟨hname, _, hfilename⟩

/-- The first file of a name is that of the first part with one. -/
theorem file?_ofParts (ps : List Multipart.Part) (name : String) :
    (ofParts ps).file? name = ((ps.find? (·.isFileOf name)).bind fileOf?).map Prod.snd := by
  show (ps.filterMap fileOf?).lookup name = _
  induction ps with
  | nil => rfl
  | cons p ps ih =>
    rw [List.find?_cons]
    cases hp : p.isFileOf name with
    | true =>
      obtain ⟨f, hf⟩ := isFileOf_iff.mp hp
      rw [List.filterMap_cons_some hf, List.lookup_cons_self]
      simp [hf]
    | false =>
      rw [← ih]
      cases hfile : fileOf? p with
      | none => rw [List.filterMap_cons_none hfile]
      | some nf =>
        obtain ⟨name', f⟩ := nf
        have hother : (name == name') = false := by
          rw [beq_eq_false_iff_ne]
          rintro rfl
          rw [isFileOf_iff.mpr ⟨f, hfile⟩] at hp
          cases hp
        rw [List.filterMap_cons_some hfile, List.lookup_cons, hother]

theorem size_of_mem_files {r : Request} {form : Form} (h : ofRequest r = .ok form) :
    ∀ p ∈ form.files, p.2.size = p.2.data.length := by
  unfold ofRequest at h
  split at h
  · cases h
    simp
  · split at h
    · split at h
      · cases h
      · split at h
        · cases h
        · cases h
          rintro ⟨name, f⟩ hp
          obtain ⟨p, -, hp⟩ := List.mem_filterMap.mp hp
          exact (fileOf?_eq_some hp).2.2.2
    · cases h
      simp

theorem size_of_file? {r : Request} {form : Form} (h : ofRequest r = .ok form) {name : String}
    {f : FormFile} (hf : form.file? name = some f) : f.size = f.data.length := by
  obtain ⟨before, after, hfiles, -⟩ := List.lookup_eq_some_iff.mp hf
  exact size_of_mem_files h (name, f) (by simp [hfiles])

end Form

end Switchboard
