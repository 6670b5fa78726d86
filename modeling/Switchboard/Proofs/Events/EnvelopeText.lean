import Mathlib.Data.List.Induction
import Switchboard.Events.Frames
import Switchboard.Proofs.Json.Writing

/-!
# Envelopes over the wire

The text written for an envelope is read as the same envelope. Only a body `null` is lost, and for
every reader of bodies no body and a body `null` are the same.
-/

namespace Switchboard

open Json (Trimmed)
open Json.Tree (Member Spells objectText named?_read value_quoted value_digitsOf)

namespace Envelope

/-- What the fields of an envelope can hold: a number of 64 bits, one text a name, and a body of raw
JSON, which has no blanks around it. -/
structure WellFormed (e : Envelope) : Prop where
  rid : e.rid < UInt64.size
  header : (e.header.map Prod.fst).Nodup
  body : ∀ b ∈ e.body, (Json.Tree.ofText? b).isSome ∧ Trimmed b

/-! ## Headers -/

def stringMember (p : String × String) : Member where
  key := p.1
  text := Json.quote p.2.toList
  tree := .quoted (p.2.toList.flatMap Json.escape)
  spells := Json.Tree.spells_quote p.2.toList

theorem print_members (h : List (String × String)) :
    Json.printMembers (h.map fun (k, v) => (k, .str v)) =
      Json.Tree.moreText (h.map stringMember) := by
  induction h with
  | nil => rfl
  | cons p h ih =>
    rw [List.map_cons, List.map_cons, Json.printMembers, ih]
    simp [Json.print, Json.Tree.moreText, Member.written, stringMember]

theorem print_header (h : List (String × String)) :
    Json.print (.obj (h.map fun (k, v) => (k, .str v))) = objectText (h.map stringMember) := by
  cases h with
  | nil => rfl
  | cons p h =>
    rw [List.map_cons, List.map_cons, Json.print, print_members]
    simp [Json.print, objectText, Member.written, stringMember]

/-- Fields with one value under each name, the last of those given. -/
def lastFields (fs : List (String × String)) : List (String × String) :=
  fs.foldl (fun h f => h.filter (·.1 != f.1) ++ [f]) []

theorem lastFields_concat (fs : List (String × String)) (f : String × String) :
    lastFields (fs ++ [f]) = (lastFields fs).filter (·.1 != f.1) ++ [f] := by
  unfold lastFields
  rw [List.foldl_append]
  rfl

theorem lastFields_of_nodup {fs : List (String × String)} (h : (fs.map Prod.fst).Nodup) :
    lastFields fs = fs := by
  induction fs using List.reverseRecOn with
  | nil => rfl
  | append_singleton fs f ih =>
    rw [List.map_append, List.nodup_append] at h
    obtain ⟨hfs, -, hapart⟩ := h
    have hkept : fs.filter (·.1 != f.1) = fs := by
      rw [List.filter_eq_self]
      intro g hg
      exact bne_iff_ne.mpr (hapart _ (List.mem_map_of_mem hg) _ (by simp))
    rw [lastFields_concat, ih hfs, hkept]

theorem headerOfTree?_strings {h : List (String × String)} (hh : (h.map Prod.fst).Nodup)
    (source : Json.Source) :
    headerOfTree? (.object ((h.map stringMember).map Member.read) source) = some h := by
  have hmapM {f : String × String → Option (String × String)} (hf : ∀ p, f p = some p) :
      h.mapM f = some h := by
    rw [funext hf]
    exact List.mapM_pure.trans (congrArg some (List.map_id' h))
  rw [headerOfTree?, named?_read]
  simp only [Option.bind_eq_bind, Option.bind_some, List.mapM_map]
  rw [hmapM, Option.bind_some]
  · exact congrArg some (lastFields_of_nodup hh)
  · intro p
    simp [stringMember, value_quoted]

/-! ## Bodies -/

theorem body_spells {e : Envelope} (h : e.WellFormed) :
    ∃ t, Spells (e.body.getD ['n', 'u', 'l', 'l']) t ∧
      bodyOfTree t = if e.body = some ['n', 'u', 'l', 'l'] then none else e.body := by
  have hnull : Spells ['n', 'u', 'l', 'l'] (.word .null) := Json.Tree.spells_word .null
  cases hb : e.body with
  | none => exact ⟨_, hnull, rfl⟩
  | some b =>
    obtain ⟨hsome, htrim⟩ := h.body b hb
    obtain ⟨t, ht⟩ := Option.isSome_iff_exists.mp hsome
    obtain ⟨hspells, htext⟩ := Json.Tree.spells_of_ofText? ht htrim
    refine ⟨t, hspells, ?_⟩
    by_cases hbnull : b = ['n', 'u', 'l', 'l']
    · subst hbnull
      obtain rfl : Json.Tree.word .null = t := by simpa [hnull.ofText?] using ht
      rfl
    · have hword : t ≠ .word .null := by
        rintro rfl
        exact hbnull (htext.symm.trans (Json.Source.text_piece _))
      rw [if_neg (by simpa using hbnull)]
      unfold bodyOfTree
      split
      · exact absurd rfl hword
      · rw [htext]

/-! ## The document -/

def members (e : Envelope) {t th : Json.Tree} (hbody : Spells (e.body.getD ['n', 'u', 'l', 'l']) t)
    (hheader : Spells (objectText (e.header.map stringMember)) th) : List Member :=
  [⟨"rid", _, _, Json.Tree.spells_digitsOf e.rid⟩, ⟨"uri", _, _, Json.Tree.spells_quote e.uri.toList⟩,
    ⟨"header", _, _, hheader⟩, ⟨"body", _, _, hbody⟩]

theorem toText_eq (e : Envelope) {t th : Json.Tree}
    (hbody : Spells (e.body.getD ['n', 'u', 'l', 'l']) t)
    (hheader : Spells (objectText (e.header.map stringMember)) th) :
    e.toText = objectText (e.members hbody hheader) := by
  rw [toText, print_header]
  simp [members, objectText, Json.Tree.moreText, Member.written, Json.quote, Json.escape]

theorem record?_members (e : Envelope) {t th : Json.Tree}
    (hbody : Spells (e.body.getD ['n', 'u', 'l', 'l']) t)
    (hheader : Spells (objectText (e.header.map stringMember)) th) (source : Json.Source) :
    (Json.Tree.object ((e.members hbody hheader).map Member.read) source).record?
        ["rid", "uri", "header", "body"] =
      some [some (.numeral ⟨false, Numerics.digitsOf e.rid, [], none⟩),
        some (.quoted (e.uri.toList.flatMap Json.escape)), some th, some t] := by
  rw [Json.Tree.record?, named?_read]
  simp [members, Json.Tree.single?]

/-- The envelope as it arrives: a body `null` is gone. -/
def received (e : Envelope) : Envelope :=
  { e with body := if e.body = some ['n', 'u', 'l', 'l'] then none else e.body }

theorem ofText?_toText {e : Envelope} (h : e.WellFormed) : ofText? e.toText = some e.received := by
  obtain ⟨t, hbody, hkept⟩ := body_spells h
  obtain ⟨sourceh, hheader⟩ := Json.Tree.spells_objectText (e.header.map stringMember)
  obtain ⟨source, hall⟩ := Json.Tree.spells_objectText (e.members hbody hheader)
  rw [toText_eq e hbody hheader, ofText?, hall.ofText?, Option.bind_some, ofTree?,
    record?_members]
  simp [value_digitsOf h.rid, value_quoted, headerOfTree?_strings h.header, Json.nat, Json.uint64?,
    Json.string?, hkept, received, -List.map_map]

/-- What a reader of JSON texts makes of the body; no body is read as null. -/
def bodyAs {α : Type} (read : List Char → α) (e : Envelope) : α :=
  read (e.body.getD ['n', 'u', 'l', 'l'])

theorem bodyAs_received (e : Envelope) {α : Type} (read : List Char → α) :
    e.received.bodyAs read = e.bodyAs read := by
  unfold bodyAs received
  by_cases hnull : e.body = some ['n', 'u', 'l', 'l'] <;> simp [hnull]

/-- An envelope goes over a connection as it is. A body `null` arrives as no body, which is the same
to every reader of it. -/
theorem toText_arrives {e : Envelope} (h : e.WellFormed) :
    ∃ e', (Frame.text e.toText).arrival? = some (.envelope e') ∧
      e'.rid = e.rid ∧ e'.uri = e.uri ∧ e'.header = e.header ∧
      e'.body = (if e.body = some ['n', 'u', 'l', 'l'] then none else e.body) ∧
      (∀ {α : Type} (read : List Char → α), e'.bodyAs read = e.bodyAs read) ∧
      e'.value? = e.value? := by
  refine ⟨e.received, ?_, rfl, rfl, rfl, rfl, bodyAs_received e, bodyAs_received e Json.ofText?⟩
  rw [Frame.arrival?, ofText?_toText h]
  rfl

/-- The greatest number, every kind of escape, and a body with blanks of its own. -/
def crowded : Envelope where
  rid := 18446744073709551615
  uri := "/a?b=\"\\\n\r\x08\x0c\x01é😀"
  header := [("", "\t\x7f"), ("X-\"Name", "")]
  body := some "[ 1e5,\n\x7b\"a\" :\tnull\x7d ]".toList

theorem crowded_arrives : crowded.WellFormed ∧
    (Frame.text crowded.toText).arrival? = some (.envelope crowded) := by
  have h : crowded.WellFormed := by
    refine ⟨by decide, by decide, fun b hb => ?_⟩
    obtain rfl := Option.some.inj hb
    exact ⟨by decide +kernel, by simp [Json.isSpace], by simp [Json.isSpace]⟩
  obtain ⟨e', harrival, hrid, huri, hheader, hbody, -⟩ := toText_arrives h
  refine ⟨h, harrival.trans ?_⟩
  cases e'
  simp_all [crowded]

end Envelope

end Switchboard
