import Mathlib.Data.List.TakeWhile
import Switchboard.Proofs.Route.Patterns

/-!
# Captured values

The values that a lookup leaves in the slots are what the parameters of the pattern stand for: put in
their places, they give the path again. Nothing of what the slots held before is left, whatever
branches of the tree the search has tried and left.
-/

namespace Switchboard.Route

variable {α : Type}

/-- The path of a pattern whose parameters have these values, a catch-all the last one. -/
def substitute : List Char → List String → List Char
  | [], _ => []
  | c :: rest, values =>
    if c = ':' then
      (values.headD "").toList ++ substitute (rest.dropWhile (· != '/')) values.tail
    else if c = '*' ∧ rest = [] then (values.headD "").toList
    else c :: substitute rest values
termination_by s => s.length
decreasing_by
  · have := (List.dropWhile_suffix (· != '/') (l := rest)).length_le
    simp
    omega
  · simp

theorem shape_eq_nil {pattern : List Char} : shape pattern = [] ↔ pattern = [] := by
  cases pattern with
  | nil => simp [shape_nil]
  | cons c rest =>
    by_cases hc : c = ':'
    · subst hc
      simp [shape_colon]
    · simp [shape_cons hc]

theorem substitute_captures {pattern path : List Char} (hfit : fits (shape pattern) path = true) :
    substitute pattern (captures (shape pattern) path) = path := by
  fun_induction shape pattern generalizing path with
  | case1 => rw [(fits_nil path).mp hfit, substitute]
  | case2 rest ih =>
    rw [captures, if_pos rfl, substitute, if_pos rfl, List.headD_cons, List.tail_cons,
      ih ((fits_colon _ _).mp hfit).2, String.toList_ofList, List.takeWhile_append_dropWhile]
  | case3 c rest hc ih =>
    rw [captures, if_neg hc, substitute, if_neg hc]
    by_cases hstar : c = '*' ∧ rest = []
    · rw [if_pos hstar, if_pos ⟨hstar.1, shape_eq_nil.mpr hstar.2⟩, List.headD_cons,
        String.toList_ofList]
    · have hstar' : ¬ (c = '*' ∧ shape rest = []) := fun h => hstar ⟨h.1, shape_eq_nil.mp h.2⟩
      rw [if_neg hstar, if_neg hstar']
      cases path with
      | nil => simp [fits, hc, hstar'] at hfit
      | cons d path =>
        rw [fits, if_neg hc, if_neg hstar', Bool.and_eq_true, beq_iff_eq] at hfit
        rw [hfit.1, List.drop_one, List.tail_cons, ih hfit.2]

theorem slash_notMem_captures {s path : List Char} :
    ∀ v ∈ (captures s path).take (s.count ':'), '/' ∉ v.toList := by
  fun_induction captures s path with
  | case1 => simp
  | case2 s path ih =>
    rw [List.count_cons_self, List.take_succ_cons]
    refine List.forall_mem_cons.mpr ⟨fun h => ?_, ih⟩
    rw [String.toList_ofList] at h
    have := List.mem_takeWhile_imp h
    simp at this
  | case3 c s path _ hstar =>
    obtain ⟨rfl, rfl⟩ := hstar
    simp
  | case4 c s path hc _ ih => rwa [List.count_cons_of_ne hc]

theorem fits_concat_star {s path : List Char} (hs : '*' ∉ s) (hfit : fits s path = true) :
    fits (s ++ ['*']) path = true := by
  induction s generalizing path with
  | nil => exact fits_star path
  | cons c s ih =>
    rw [List.mem_cons, not_or] at hs
    rw [List.cons_append]
    by_cases hc : c = ':'
    · subst hc
      obtain ⟨hne, hrest⟩ := (fits_colon s path).mp hfit
      exact (fits_colon _ path).mpr ⟨hne, ih hs.2 hrest⟩
    · obtain ⟨rest, rfl, hrest⟩ := (fits_cons ⟨hc, Ne.symm hs.1⟩ s path).mp hfit
      exact (fits_cons ⟨hc, Ne.symm hs.1⟩ _ _).mpr ⟨rest, rfl, ih hs.2 hrest⟩

/-! ## What a lookup leaves in the slots -/

def Found.values (f : Found α) : List String := f.slots.take f.names.length

/-- As many values as the pattern has parameters give the path again. Only that of a catch-all may have
a slash in it, and no other slot holds anything. -/
structure Found.Reproduces (f : Found α) (path : String) : Prop where
  names_length : f.names.length = (paramNames f.template.toList).length
  values_length : f.values.length = f.names.length
  path_eq : String.ofList (substitute f.template.toList f.values) = path
  segments : ∀ v ∈ f.values.take ((shape f.template.toList).count ':'), '/' ∉ v.toList
  cleared : ∀ v ∈ f.slots.drop f.names.length, v = ""

section lookup

variable {rs : List (Registration α)} {t : Tree α} (h : Tree.empty.addAll rs = (t, none))
include h

theorem fits_answering {m : Method} {s path : List Char} (hfit : fits s path = true) :
    fits (answering (registered rs) m s) path = true := by
  obtain ⟨text, H⟩ := Tree.addAll_empty_holds h
  by_cases ha : answering (registered rs) m s = s
  · rwa [ha]
  · obtain ⟨hstar, _, hno⟩ := H.answering_star ha
    rw [hstar]
    exact fits_concat_star hno hfit

theorem find_reproduces (m : Method) {path : String} (hpath : path ≠ "") {slots : List String}
    (hslots : t.maxParam ≤ slots.length) (hx : (t.find m path slots).outcome ≠ .notFound) :
    (t.find m path slots).Reproduces path := by
  obtain ⟨s, a, f, l, hs, ha, hf, hl, hfind⟩ := find_routed h m hpath hslots hx
  obtain ⟨hmem, hla⟩ := lastRoute_shape hl
  have hfit : fits a path.toList = true := ha ▸ fits_answering h hs.fits
  have hcap : (captures a path.toList).length = marks a :=
    length_captures (star_last_of_routed h ⟨l, hmem, hla⟩) _
  have hnames : f.leaf.names.length = marks a := by rw [names_length, (firstRoute_shape hf).2]
  have htemplate : l.leaf.template.toList = l.path := String.toList_ofList
  have hvalues : (t.find m path slots).values = captures a path.toList := by
    rw [Found.values, hfind, hnames, ← hcap, List.take_left]
  have hla : shape l.path = a := hla
  refine ⟨?_, ?_, ?_, ?_, ?_⟩
  · rw [hfind, htemplate, ← marks_shape, hla, hnames]
  · rw [hvalues, hcap, hfind, hnames]
  · rw [hvalues, hfind, htemplate, ← hla, substitute_captures (hla.symm ▸ hfit), String.ofList_toList]
  · rw [hvalues, hfind, htemplate, hla]
    exact slash_notMem_captures
  · rw [hfind, hnames, ← hcap, List.drop_left]
    exact fun v hv => List.eq_of_mem_replicate hv

theorem slots_of_notFound (m : Method) {path : String} {slots : List String}
    (hslots : t.maxParam ≤ slots.length) (hx : (t.find m path slots).outcome = .notFound) :
    (t.find m path slots).slots = List.replicate slots.length "" := by
  by_cases hpath : path = ""
  · subst hpath
    simp [Tree.find, Tree.clearFrom]
  · rcases find_spec h m hpath hslots with ⟨_, hfind⟩ | ⟨s, _, hs, _, _, _⟩
    · rw [hfind]
    · obtain ⟨r, hr, rfl⟩ := hs.mem
      have hfit := hs.fits
      rw [(find_outcome h m hpath hslots).1.mp hx r hr] at hfit
      cases hfit

end lookup

/-- The values of the route that a lookup meets reproduce the path, and nothing else stands in the
slots; all of them are empty where no route is met. What they held before makes no difference. -/
theorem slots_reproduce_path {rs : List (Registration α)} {t : Tree α}
    (h : Tree.empty.addAll rs = (t, none)) (m : Method) (path : String) {slots : List String}
    (hslots : t.maxParam ≤ slots.length) :
    ((t.find m path slots).outcome ≠ .notFound → (t.find m path slots).Reproduces path) ∧
    ((t.find m path slots).outcome = .notFound →
      (t.find m path slots).slots = List.replicate slots.length "") ∧
    ∀ slots' : List String, slots'.length = slots.length →
      (t.find m path slots').slots = (t.find m path slots).slots := by
  have hempty : ∀ slots, (t.find m "" slots).outcome = .notFound := fun _ => rfl
  refine ⟨fun hx => ?_, slots_of_notFound h m hslots, fun slots' hlen => ?_⟩
  · exact find_reproduces h m (fun e => hx (by rw [e]; exact hempty slots)) hslots hx
  · have hslots' : t.maxParam ≤ slots'.length := hlen ▸ hslots
    by_cases hpath : path = ""
    · subst hpath
      rw [slots_of_notFound h m hslots (hempty _), slots_of_notFound h m hslots' (hempty _), hlen]
    -- whether a route is met, and which, is told from the registrations alone
    have hsame : (t.find m path slots').outcome = .notFound ↔
        (t.find m path slots).outcome = .notFound :=
      (find_outcome h m hpath hslots').1.trans (find_outcome h m hpath hslots).1.symm
    by_cases hx : (t.find m path slots).outcome = .notFound
    · rw [slots_of_notFound h m hslots hx, slots_of_notFound h m hslots' (hsame.mpr hx), hlen]
    · obtain ⟨s, a, f, l, hs, rfl, _, _, hfind⟩ := find_routed h m hpath hslots hx
      obtain ⟨s', a', f', l', hs', rfl, _, _, hfind'⟩ :=
        find_routed h m hpath hslots' (mt hsame.mp hx)
      rw [hfind, hfind', hs.unique hs', hlen]

/-- A static branch that stands in the way of a parameter, and a catch-all right behind a route of
another method. -/
def shelfRoutes : List (Registration Nat) :=
  [⟨.get, "/shelf/:row/*", 0⟩, ⟨.get, "/shelf/new/book", 1⟩, ⟨.post, "/shelf/", 2⟩,
    ⟨.get, "/shelf/*", 3⟩]

theorem slots_reproduce_path_shelfRoutes :
    let t := (Tree.empty.addAll shelfRoutes).1
    (t.find .get "/shelf/new/b/c" ["x", "y", "z"]).Reproduces "/shelf/new/b/c" ∧
      (t.find .get "/shelf/new/b/c" ["x", "y", "z"]).slots = ["new", "b/c", ""] ∧
      (t.find .get "/shelf/" ["x", "y", "z"]).Reproduces "/shelf/" ∧
      (t.find .get "/shelf" ["x", "y", "z"]).slots = ["", "", ""] := by
  have hadded : Tree.empty.addAll shelfRoutes = ((Tree.empty.addAll shelfRoutes).1, none) :=
    Prod.ext rfl (by decide +kernel)
  have hslots : (Tree.empty.addAll shelfRoutes).1.maxParam ≤ ["x", "y", "z"].length := by
    decide +kernel
  refine ⟨(slots_reproduce_path hadded .get _ hslots).1 (by decide +kernel), by decide +kernel,
    (slots_reproduce_path hadded .get _ hslots).1 (by decide +kernel),
    (slots_reproduce_path hadded .get _ hslots).2.1 (by decide +kernel)⟩

end Switchboard.Route
