import Switchboard.Proofs.Text.Trimming
import Switchboard.Web.Service

/-!
# Paths below a directory

A path is a sequence of components. Where each of them is a name or stands for the directory itself, the path
leads from any directory to what the names lead to, and never above it.
-/

namespace Switchboard

namespace FileTree

/-! ## Components -/

/-- A component of a path: the root, the directory itself, the one above it, or a name. -/
inductive Part where
  | root | here | up
  | name (text : String)
deriving DecidableEq, Repr

def Part.descends : Part → Bool
  | here | name _ => true
  | root | up => false

def part? (piece : String) : Option Part :=
  if piece = "" ∨ piece = "." then none
  else if piece = ".." then some .up
  else some (.name piece)

/-- The components of a path. Slashes in a row count as one, and a dot counts for nothing, unless it is at
the beginning. -/
def parts (path : String) : List Part :=
  (if isAbsolute path then [.root] else if (pieces path).head? = some "." then [.here] else []) ++
    (pieces path).filterMap part?

/-- Each component is a name or stands for the directory itself. -/
def Descends (path : String) : Prop := ∀ p ∈ parts path, p.descends = true

instance (path : String) : Decidable (Descends path) :=
  inferInstanceAs (Decidable (∀ p ∈ parts path, p.descends = true))

def names (path : String) : List String := (pieces path).filter fun p => p != "" && p != "."

theorem descends_of_part? {piece : String} {p : Part} (h : part? piece = some p) :
    p.descends = false ↔ piece = ".." := by
  unfold part? at h
  split at h
  · cases h
  · split at h
    · rename_i hup
      cases h
      simp [Part.descends, hup]
    · rename_i hup
      cases h
      simp [Part.descends, hup]

theorem staysBelow_iff (path : String) : Service.staysBelow path = true ↔ Descends path := by
  have hpieces : (∀ p ∈ (pieces path).filterMap part?, p.descends = true) ↔
      ".." ∉ pieces path := by
    constructor
    · intro hall hmem
      have hup : Part.up.descends = true := hall .up (List.mem_filterMap.mpr ⟨"..", hmem, rfl⟩)
      cases hup
    · intro hnone p hp
      obtain ⟨piece, hpiece, hpart⟩ := List.mem_filterMap.mp hp
      rw [← Bool.not_eq_false, descends_of_part? hpart]
      exact fun hup => hnone (hup ▸ hpiece)
  unfold Service.staysBelow Descends parts
  rw [List.forall_mem_append, hpieces]
  by_cases habsolute : isAbsolute path = true
  · simp [habsolute, Part.descends]
  · by_cases hdot : (pieces path).head? = some "."
    · simp [habsolute, hdot, Part.descends]
    · simp [habsolute, hdot]

/-! ## Walking -/

variable {t : FileTree} {here there : List String}

/-- Where one piece of a path leads from a directory; only a directory can be gone on from. -/
def enter? (t : FileTree) (here : List String) (piece : String) : Option (List String) :=
  if t.entry? here = some .directory then
    if piece = "" ∨ piece = "." then some here
    else if piece = ".." then some here.dropLast
    else some (here ++ [piece])
  else none

theorem walk?_cons (here : List String) (p : String) (ps : List String) :
    t.walk? here (p :: ps) = (t.enter? here p).bind fun there => t.walk? there ps := by
  unfold enter?
  by_cases hentry : t.entry? here = some .directory
  · rw [if_pos hentry]
    by_cases hdot : p = "" ∨ p = "."
    · simp only [walk?, hentry, hdot, if_true, Option.bind_some]
    · by_cases hup : p = ".."
      · simp [walk?, hentry, hup]
      · simp only [walk?, hentry, hdot, hup, if_false, Option.bind_some]
  · rw [if_neg hentry, Option.bind_none]
    unfold walk?
    split
    · rename_i hdirectory
      exact absurd hdirectory hentry
    · rfl

theorem walk?_append (here ps qs : List String) :
    t.walk? here (ps ++ qs) = (t.walk? here ps).bind fun there => t.walk? there qs := by
  induction ps generalizing here with
  | nil => rfl
  | cons p ps ih =>
    rw [List.cons_append, walk?_cons, walk?_cons, Option.bind_assoc]
    simp only [ih]

theorem directory_of_enter? {piece : String} (h : t.enter? here piece = some there) :
    t.entry? here = some .directory := by
  unfold enter? at h
  split at h
  · assumption
  · cases h

theorem enter?_here (h : t.entry? here = some .directory) : t.enter? here "" = some here := by
  rw [enter?, if_pos h, if_pos (.inl rfl)]

theorem enter?_down {piece : String} (hup : piece ≠ "..") (h : t.enter? here piece = some there) :
    there = here ++ [piece].filter fun p => p != "" && p != "." := by
  have hentry := directory_of_enter? h
  rw [enter?, if_pos hentry] at h
  by_cases hdot : piece = "" ∨ piece = "."
  · rw [if_pos hdot] at h
    rcases hdot with rfl | rfl <;> simpa using h.symm
  · rw [if_neg hdot, if_neg hup] at h
    rw [not_or] at hdot
    simpa [hdot] using h.symm

/-- Without a piece that leads up, a walk ends where the names on the way lead to. -/
theorem walk?_down {ps : List String} (hup : ".." ∉ ps) (h : t.walk? here ps = some there) :
    there = here ++ ps.filter fun p => p != "" && p != "." := by
  induction ps generalizing here with
  | nil => simpa [walk?] using h.symm
  | cons p ps ih =>
    rw [List.mem_cons, not_or] at hup
    rw [walk?_cons] at h
    obtain ⟨next, hnext, hrest⟩ := Option.bind_eq_some_iff.mp h
    rw [ih hup.2 hrest, enter?_down (Ne.symm hup.1) hnext, List.append_assoc, ← List.filter_append]
    rfl

/-! ## Joined paths -/

theorem pieces_ne_nil (path : String) : pieces path ≠ [] := by
  unfold pieces
  simpa using Text.pieces_ne_nil '/' path.toList

theorem pieces_slash (a b : String) : pieces (a ++ "/" ++ b) = pieces a ++ pieces b := by
  have htext : (a ++ "/" ++ b).toList = a.toList ++ '/' :: b.toList := by simp
  rw [pieces, htext, Text.pieces_append_sep, List.map_append]
  rfl

theorem exists_of_hasFinalSlash {path : String} (h : hasFinalSlash path = true) :
    ∃ a, path = a ++ "/" := by
  obtain ⟨s, hs⟩ := List.getLast?_eq_some_iff.mp (beq_iff_eq.mp h)
  refine ⟨String.ofList s, String.toList_inj.mp ?_⟩
  rw [hs, String.toList_append, String.toList_ofList]
  rfl

/-- A slash at the end is a piece of its own, which leads nowhere but needs a directory; so does whatever
piece comes next. -/
theorem walk?_slash (here ps : List String) (rest : String) :
    t.walk? here (ps ++ [""] ++ pieces rest) = t.walk? here (ps ++ pieces rest) := by
  obtain ⟨p, ps', hrest⟩ := List.exists_cons_of_ne_nil (pieces_ne_nil rest)
  rw [List.append_assoc, walk?_append, walk?_append, hrest]
  refine congrArg _ (funext fun base => ?_)
  by_cases hdirectory : t.entry? base = some .directory
  · rw [List.singleton_append, walk?_cons, enter?_here hdirectory, Option.bind_some]
  · have hnone (piece : String) : t.enter? base piece = none := if_neg hdirectory
    rw [List.singleton_append, walk?_cons, walk?_cons, hnone, hnone, Option.bind_none, Option.bind_none]

/-- A path below another one leads to where it leads from the end of that one. -/
theorem walk?_join {root rest : String} (hrest : isAbsolute rest = false) (here : List String) :
    t.walk? here (pieces (join root rest)) =
      (t.walk? here (pieces root)).bind fun base => t.walk? base (pieces rest) := by
  rw [← walk?_append]
  unfold join
  rw [hrest, if_neg Bool.false_ne_true]
  by_cases hroot : root = "" ∨ hasFinalSlash root = true
  · rw [if_pos hroot]
    rcases hroot with rfl | hroot
    · rw [String.empty_append]
      exact (walk?_slash here [] rest).symm
    · obtain ⟨a, rfl⟩ := exists_of_hasFinalSlash hroot
      have hends : pieces (a ++ "/") = pieces a ++ [""] := by
        have hslash := pieces_slash a ""
        rwa [String.append_empty] at hslash
      rw [hends, walk?_slash, pieces_slash]
  · rw [if_neg hroot, pieces_slash]

theorem isAbsolute_append {root : String} (hroot : root ≠ "") (rest : String) :
    isAbsolute (root ++ rest) = isAbsolute root := by
  unfold isAbsolute
  obtain ⟨c, cs, hcs⟩ := List.exists_cons_of_ne_nil (mt String.toList_eq_nil_iff.mp hroot)
  rw [String.toList_append, hcs]
  rfl

/-- The walk to what is below a root begins where that to the root does. -/
theorem origin_join {root rest : String} (hrest : isAbsolute rest = false) :
    t.origin (join root rest) = t.origin root := by
  have habsolute : isAbsolute (join root rest) = isAbsolute root := by
    unfold join
    rw [hrest, if_neg Bool.false_ne_true]
    by_cases hroot : root = ""
    · rw [hroot, if_pos (.inl rfl), String.empty_append, hrest]
      rfl
    · split
      · exact isAbsolute_append hroot rest
      · rw [String.append_assoc, isAbsolute_append hroot]
  rw [origin, origin, habsolute]

section below

variable {root rest : String} (hrest : Descends rest)
include hrest

theorem Descends.pieces : isAbsolute rest = false ∧ ".." ∉ pieces rest := by
  have hbelow := (staysBelow_iff rest).mpr hrest
  simpa [Service.staysBelow] using hbelow

theorem Descends.join_eq : join root rest =
    if root = "" ∨ hasFinalSlash root = true then root ++ rest else root ++ "/" ++ rest := by
  rw [join, hrest.pieces.1, if_neg Bool.false_ne_true]

theorem walk?_join_down {here : List String} (h : t.walk? here (pieces (join root rest)) = some there) :
    ∃ base, t.walk? here (pieces root) = some base ∧ there = base ++ names rest := by
  obtain ⟨habsolute, hup⟩ := hrest.pieces
  rw [walk?_join habsolute] at h
  obtain ⟨base, hbase, hthere⟩ := Option.bind_eq_some_iff.mp h
  exact ⟨base, hbase, walk?_down hup hthere⟩

/-- What stands at a path below a root stands below the directory that the root leads to. -/
theorem find?_join_down {e : FileEntry} (h : t.find? (join root rest) = some e) :
    ∃ base, t.walk? (t.origin root) (pieces root) = some base ∧
      t.entry? (base ++ names rest) = some e := by
  unfold find? at h
  split at h
  · cases h
  · obtain ⟨there, hthere, hentry⟩ := Option.bind_eq_some_iff.mp h
    rw [origin_join hrest.pieces.1] at hthere
    obtain ⟨base, hbase, rfl⟩ := walk?_join_down hrest hthere
    exact ⟨base, hbase, hentry⟩

/-- And so does what stands below that, at a path that leads nowhere else than down either. -/
theorem find?_join_join_down {index : String} (hindex : Descends index) {e : FileEntry}
    (h : t.find? (join (join root rest) index) = some e) :
    ∃ base, t.walk? (t.origin root) (pieces root) = some base ∧
      t.entry? (base ++ names rest ++ names index) = some e := by
  obtain ⟨there, hthere, hentry⟩ := find?_join_down hindex h
  rw [origin_join hrest.pieces.1] at hthere
  obtain ⟨base, hbase, rfl⟩ := walk?_join_down hrest hthere
  exact ⟨base, hbase, hentry⟩

end below

end FileTree

end Switchboard
