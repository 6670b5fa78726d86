import Switchboard.Proofs.Route.Listing
import Switchboard.Proofs.Route.Selection
import Switchboard.Web.Context

/-!
# Patterns of routes

A node has one pattern and one list of names for the routes of all methods. Of the routes on a shape
the last one leaves its pattern there and the first one its names, and this is what lookups and the
listing show, whichever route answers.
-/

namespace Switchboard.Route

variable {α : Type}

/-! ## Captures -/

theorem length_captures {s : List Char} (hstar : ∀ u v, s = u ++ '*' :: v → v = [])
    (path : List Char) : (captures s path).length = marks s := by
  induction s generalizing path with
  | nil => rfl
  | cons c s ih =>
    have ih := ih fun u v h => hstar (c :: u) v (congrArg (c :: ·) h)
    have hmarks : marks (c :: s) = marks [c] + marks s := marks_append [c] s
    rw [captures, hmarks]
    split
    · rename_i hc
      rw [hc, List.length_cons, ih, Nat.add_comm]
      rfl
    · rename_i hc
      split
      · rename_i hs
        rw [hs.1, hs.2]
        rfl
      · rename_i hs
        have hc' : c ≠ '*' := fun e => hs ⟨e, hstar [] s (congrArg (· :: s) e)⟩
        rw [ih, marks_literal (literal_cons.mpr ⟨⟨hc, hc'⟩, literal_nil⟩), Nat.zero_add]

theorem captures_star {s : List Char} (hs : '*' ∉ s) {path : List Char} (hfit : fits s path = true) :
    captures (s ++ ['*']) path = captures s path ++ [""] := by
  induction s generalizing path with
  | nil =>
    rw [(fits_nil path).mp hfit]
    rfl
  | cons c s ih =>
    rw [List.mem_cons, not_or] at hs
    rw [List.cons_append, captures, captures]
    by_cases hc : c = ':'
    · subst hc
      rw [if_pos rfl, if_pos rfl, ih hs.2 ((fits_colon s path).mp hfit).2, List.cons_append]
    · obtain ⟨rest, rfl, hrest⟩ := (fits_cons ⟨hc, Ne.symm hs.1⟩ s path).mp hfit
      rw [if_neg hc, if_neg hc, if_neg fun h => hs.1 h.1.symm, if_neg fun h => hs.1 h.1.symm]
      exact ih hs.2 hrest

/-! ## The first and the last route on a shape -/

def firstRoute (rs : List (Registration α)) (s : List Char) : Option (Registration α) :=
  (rs.filter fun r => r.shape = s).head?

def lastRoute (rs : List (Registration α)) (s : List Char) : Option (Registration α) :=
  (rs.filter fun r => r.shape = s).getLast?

theorem shape_of_mem_filter {rs : List (Registration α)} {s : List Char} {r : Registration α}
    (h : r ∈ rs.filter fun r => r.shape = s) : r ∈ rs ∧ r.shape = s := by
  rwa [List.mem_filter, decide_eq_true_eq] at h

theorem lastRoute_shape {rs : List (Registration α)} {s : List Char} {l : Registration α}
    (h : lastRoute rs s = some l) : l ∈ rs ∧ l.shape = s :=
  shape_of_mem_filter (List.mem_of_getLast? h)

theorem firstRoute_shape {rs : List (Registration α)} {s : List Char} {f : Registration α}
    (h : firstRoute rs s = some f) : f ∈ rs ∧ f.shape = s :=
  shape_of_mem_filter (List.mem_of_head? h)

theorem lastFor_shape {rs : List (Registration α)} {m : Method} {s : List Char}
    {r : Registration α} (h : lastFor rs m s = some r) : r ∈ rs ∧ r.method = m ∧ r.shape = s := by
  have hr := List.mem_of_getLast? h
  rw [List.mem_filter, decide_eq_true_eq] at hr
  exact hr

theorem names_length (r : Registration α) : r.leaf.names.length = marks r.shape :=
  (marks_shape r.path).symm

theorem registered_of_not_routed {rs : List (Registration α)} {s : List Char} (h : ¬ Routed rs s) :
    registered rs s = {} := by
  induction rs using List.reverseRecOn with
  | nil => rfl
  | append_singleton rs r ih =>
    have hr : r.shape ≠ s := fun e => h ⟨r, List.mem_append_right rs List.mem_cons_self, e⟩
    rw [registered_concat, Registration.place, if_neg hr]
    refine ih ?_
    rintro ⟨r', hr', e⟩
    exact h ⟨r', List.mem_append_left _ hr', e⟩

theorem registered_template {rs : List (Registration α)} {s : List Char} {l : Registration α}
    (h : lastRoute rs s = some l) : (registered rs s).leaf.template = l.leaf.template := by
  induction rs using List.reverseRecOn with
  | nil => cases h
  | append_singleton rs r ih =>
    rw [lastRoute, List.filter_append] at h
    rw [registered_concat, Registration.place]
    by_cases hs : r.shape = s
    · simp only [List.filter_cons, hs, decide_true, if_true, List.filter_nil,
        List.getLast?_append, List.getLast?_singleton, Option.some_or] at h
      obtain rfl := Option.some.inj h
      rw [if_pos hs]
      rfl
    · rw [if_neg hs]
      simp only [List.filter_cons, hs, decide_false, Bool.false_eq_true, if_false,
        List.filter_nil, List.append_nil] at h
      exact ih h

theorem not_routed_of_firstRoute {rs : List (Registration α)} {s : List Char}
    (h : firstRoute rs s = none) : ¬ Routed rs s := by
  intro ⟨r, hr, hs⟩
  have hnil := List.head?_eq_none_iff.mp h
  have hmem : r ∈ rs.filter fun r => r.shape = s := List.mem_filter.mpr ⟨hr, decide_eq_true hs⟩
  rw [hnil] at hmem
  cases hmem

theorem registered_names {rs : List (Registration α)} {s : List Char} {f : Registration α}
    (h : firstRoute rs s = some f) : (registered rs s).leaf.names = f.leaf.names := by
  induction rs using List.reverseRecOn with
  | nil => cases h
  | append_singleton rs r ih =>
    rw [firstRoute, List.filter_append, List.head?_append] at h
    rw [registered_concat, Registration.place]
    cases hf : firstRoute rs s with
    | none =>
      rw [show (rs.filter fun r => r.shape = s).head? = none from hf, Option.none_or] at h
      obtain ⟨hr, hs⟩ := shape_of_mem_filter (List.mem_of_head? h)
      rw [List.mem_singleton.mp hr] at hs ⊢
      rw [if_pos hs, registered_of_not_routed (not_routed_of_firstRoute hf)]
      rfl
    | some f' =>
      rw [show (rs.filter fun r => r.shape = s).head? = some f' from hf, Option.some_or] at h
      obtain rfl := Option.some.inj h
      have ih := ih hf
      split
      · rename_i hs
        show (if (registered rs s).leaf.names.isEmpty then r.leaf.names
          else (registered rs s).leaf.names) = f'.leaf.names
        split
        · -- shapes that are equal have as many names, so there are none on either side
          rename_i hempty
          have hnil := List.isEmpty_iff.mp hempty
          have hlen := names_length r
          rw [hs, ← (firstRoute_shape hf).2, ← names_length f', ← ih, hnil] at hlen
          rw [← ih, hnil]
          exact List.length_eq_zero_iff.mp hlen
        · exact ih
      · exact ih

theorem exists_firstRoute {rs : List (Registration α)} {s : List Char} (h : Routed rs s) :
    ∃ f, firstRoute rs s = some f := by
  cases hf : firstRoute rs s with
  | none => exact absurd h (not_routed_of_firstRoute hf)
  | some f => exact ⟨f, rfl⟩

theorem exists_lastRoute {rs : List (Registration α)} {s : List Char} (h : Routed rs s) :
    ∃ l, lastRoute rs s = some l := by
  obtain ⟨f, hf⟩ := exists_firstRoute h
  cases hl : lastRoute rs s with
  | none =>
    rw [firstRoute, List.getLast?_eq_none_iff.mp hl] at hf
    cases hf
  | some l => exact ⟨l, rfl⟩

theorem routed_answering {rs : List (Registration α)} {s : List Char} (hs : Routed rs s) (m : Method) :
    Routed rs (answering (registered rs) m s) :=
  (registered_live rs _).mp (answering_live ((registered_live rs s).mpr hs) m)

theorem length_registered_names {rs : List (Registration α)} {s : List Char} (hs : Routed rs s) :
    (registered rs s).leaf.names.length = marks s := by
  obtain ⟨f, hf⟩ := exists_firstRoute hs
  rw [registered_names hf, names_length, (firstRoute_shape hf).2]

theorem lastHandler_of_matched {rs : List (Registration α)} {m : Method} {s : List Char} {x : α}
    (h : (registered rs s).answer m = .matched x) : lastHandler rs m s = some x := by
  rw [← registered_handlers]
  unfold Payload.answer at h
  split at h
  · rename_i hm
    cases h
    exact hm
  · cases h

theorem template_inj {r r' : Registration α} :
    r.leaf.template = r'.leaf.template ↔ r.path = r'.path :=
  ⟨fun e => String.ofList_injective e, fun e => congrArg String.ofList e⟩

/-! ## What a lookup shows -/

theorem clearFrom_prefix {values slots : List String} (h : values <+: slots) :
    Tree.clearFrom values.length slots =
      values ++ List.replicate (slots.length - values.length) "" := by
  obtain ⟨rest, rfl⟩ := h
  rw [Tree.clearFrom, List.take_left, List.drop_left, List.map_const', List.length_append,
    Nat.add_sub_cancel_left]

section holds

variable {rs : List (Registration α)} {t : Tree α} {text : Nat → List Char}
  (H : t.Holds text (registered rs))
include H

theorem Tree.Holds.star_last {s : List Char} (hs : Routed rs s) :
    ∀ u v, s = u ++ '*' :: v → v = [] := by
  obtain ⟨k, hk, rfl⟩ := H.exists_node ((registered_live rs s).mpr hs)
  exact fun u v e => (H.layout.star_last k hk u v e).1

/-- Where the selected shape does not answer itself, the catch-all right behind it does. -/
theorem Tree.Holds.answering_star {m : Method} {s : List Char}
    (ha : answering (registered rs) m s ≠ s) :
    answering (registered rs) m s = s ++ ['*'] ∧ Routed rs (s ++ ['*']) ∧ '*' ∉ s := by
  have hc : (registered rs s).handlers m = none ∧ (registered rs (s ++ ['*'])).live = true := by
    by_contra hc
    exact ha (if_neg hc)
  have hrouted := (registered_live rs _).mp hc.2
  refine ⟨if_pos hc, hrouted, fun hmem => ?_⟩
  obtain ⟨u, v, rfl⟩ := List.append_of_mem hmem
  have := H.star_last hrouted u (v ++ ['*']) (by simp)
  simp at this

theorem Tree.Holds.slots_kept {m : Method} {s path : List Char} {slots : List String}
    (hs : Routed rs s) (hfit : fits s path = true) (hcap : captures s path <+: slots) :
    let a := answering (registered rs) m s
    Tree.clearFrom (marks a) (if a = s then slots else slots.set (marks a - 1) "") =
      (captures a path ++ List.replicate (slots.length - marks a) "").take slots.length := by
  intro a
  have hmarks := length_captures (H.star_last hs) path
  have hle := hcap.length_le
  by_cases ha : a = s
  · rw [if_pos ha, ha, ← hmarks, clearFrom_prefix hcap, List.take_of_length_le]
    rw [List.length_append, List.length_replicate]
    omega
  · obtain ⟨hstar, _, hno⟩ := H.answering_star ha
    have hone : marks (s ++ ['*']) = (captures s path).length + 1 := by
      rw [marks_append, hmarks]
      rfl
    rw [if_neg ha, show a = s ++ ['*'] from hstar, hone, Nat.add_sub_cancel, captures_star hno hfit]
    rcases Nat.lt_or_eq_of_le hle with hroom | hfull
    · have hset := clearFrom_prefix (Tree.prefix_set hcap hroom "")
      rw [List.length_append, List.length_singleton, List.length_set] at hset
      rw [hset, List.take_of_length_le]
      simp only [List.length_append, List.length_singleton, List.length_replicate]
      omega
    · -- the catch-all has no slot, and what it takes is empty
      obtain rfl := hcap.eq_of_length hfull
      rw [List.set_eq_of_length_le (Nat.le_refl _), Tree.clearFrom,
        List.take_of_length_le (Nat.le_succ _)]
      simp

end holds

section lookup

variable {rs : List (Registration α)} {t : Tree α} (h : Tree.empty.addAll rs = (t, none))
include h

theorem star_last_of_routed {s : List Char} (hs : Routed rs s) :
    ∀ u v, s = u ++ '*' :: v → v = [] := by
  obtain ⟨text, H⟩ := Tree.addAll_empty_holds h
  exact H.star_last hs

theorem slots_of_answering {m : Method} {s path : List Char} {slots slots' : List String}
    (hs : Routed rs s) (hfit : fits s path = true) (hslots : t.maxParam ≤ slots.length)
    (hlen : slots'.length = slots.length) (hcap : captures s path <+: slots') :
    let a := answering (registered rs) m s
    Tree.clearFrom (marks a) (if a = s then slots' else slots'.set (marks a - 1) "") =
      captures a path ++ List.replicate (slots.length - marks a) "" := by
  intro a
  obtain ⟨text, H⟩ := Tree.addAll_empty_holds h
  have hrouted : Routed rs a := routed_answering hs m
  have hroom := marks_le_maxParam h hrouted
  have hmarks := length_captures (H.star_last hrouted) path
  rw [← hlen] at hslots ⊢
  refine (H.slots_kept hs hfit hcap).trans (List.take_of_length_le ?_)
  rw [List.length_append, List.length_replicate]
  show (captures a path).length + (slots'.length - marks a) ≤ slots'.length
  omega

/-- Where a shape is selected, a lookup shows the pattern of the last route on the shape that answers
and the names of the first one. -/
theorem find_routed (m : Method) {path : String} (hpath : path ≠ "") {slots : List String}
    (hslots : t.maxParam ≤ slots.length) (hx : (t.find m path slots).outcome ≠ .notFound) :
    ∃ s a f l, Selected (Routed rs) path.toList s ∧ a = answering (registered rs) m s ∧
      firstRoute rs a = some f ∧ lastRoute rs a = some l ∧
      t.find m path slots = ⟨(registered rs a).answer m, l.leaf.template, f.leaf.names,
        captures a path.toList ++ List.replicate (slots.length - marks a) ""⟩ := by
  rcases find_spec h m hpath hslots with ⟨_, hfind⟩ | ⟨s, slots', hs, hlen, hcap, hfind⟩
  · rw [hfind] at hx
    exact absurd rfl hx
  · have hkept := slots_of_answering h (m := m) hs.mem hs.fits hslots hlen hcap
    have hrouted := routed_answering hs.mem m
    obtain ⟨f, hf⟩ := exists_firstRoute hrouted
    obtain ⟨l, hl⟩ := exists_lastRoute hrouted
    refine ⟨s, _, f, l, hs, rfl, hf, hl, ?_⟩
    rw [hfind, Payload.found, length_registered_names hrouted, hkept, registered_template hl,
      registered_names hf]

theorem find_shows (m : Method) {path : String} (hpath : path ≠ "") {slots : List String}
    (hslots : t.maxParam ≤ slots.length) {x : α}
    (hx : (t.find m path slots).outcome = .matched x) :
    ∃ s r f l, Selected (Routed rs) path.toList s ∧
      lastFor rs m (answering (registered rs) m s) = some r ∧ r.handler = x ∧
      firstRoute rs r.shape = some f ∧ lastRoute rs r.shape = some l ∧
      t.find m path slots = ⟨.matched x, l.leaf.template, f.leaf.names,
        captures r.shape path.toList ++ List.replicate (slots.length - marks r.shape) ""⟩ := by
  obtain ⟨s, a, f, l, hs, ha, hf, hl, hfind⟩ :=
    find_routed h m hpath hslots fun e => by rw [hx] at e; cases e
  have hout : (registered rs a).answer m = .matched x := by
    rw [hfind] at hx
    exact hx
  have hhandler : lastHandler rs m a = some x := lastHandler_of_matched hout
  obtain ⟨r, hr, hrx⟩ := Option.map_eq_some_iff.mp hhandler
  obtain ⟨_, _, rfl⟩ := lastFor_shape hr
  exact ⟨s, r, f, l, hs, ha ▸ hr, hrx, hf, hl, by rw [hfind, hout]⟩

/-- The listing pairs each method and shape that has a handler with the pattern of the last route on
the shape. -/
theorem mem_routes_iff {m : Method} {pattern : String} :
    (m, pattern) ∈ t.routes ↔ ∃ s r l, lastFor rs m s = some r ∧ lastRoute rs s = some l ∧
      pattern = l.leaf.template := by
  obtain ⟨text, H⟩ := Tree.addAll_empty_holds h
  rw [H.mem_routes]
  constructor
  · rintro ⟨s, hm, rfl⟩
    rw [registered_handlers, lastHandler, Option.isSome_map] at hm
    obtain ⟨r, hr⟩ := Option.isSome_iff_exists.mp hm
    obtain ⟨l, hl⟩ := exists_lastRoute ⟨r, (lastFor_shape hr).1, (lastFor_shape hr).2.2⟩
    exact ⟨s, r, l, hr, hl, registered_template hl⟩
  · rintro ⟨s, r, l, hr, hl, rfl⟩
    refine ⟨s, ?_, (registered_template hl).symm⟩
    rw [registered_handlers, lastHandler, hr]
    rfl

end lookup

theorem param_eq (name : String) (rest : List String) : ∀ {names values : List String},
    names.length = values.length →
    Context.param { names, slots := values ++ rest } name =
      ((names.zip values).lookup name).getD ""
  | [], [], _ => rfl
  | n :: names, v :: values, hlen => by
    have ih := param_eq name rest (Nat.succ.inj hlen)
    simp only [Context.param] at ih ⊢
    rw [List.findIdx?_cons, List.zip_cons_cons, List.lookup_cons]
    by_cases hn : n = name
    · simp [hn]
    · rw [beq_eq_false_iff_ne.mpr hn, beq_eq_false_iff_ne.mpr (Ne.symm hn), ← ih]
      cases names.findIdx? (· == name) <;> simp

/-! ## Routes that show themselves -/

def Answers (rs : List (Registration α)) (m : Method) (path : List Char) (r : Registration α) : Prop :=
  ∃ s, Selected (Routed rs) path s ∧ lastFor rs m (answering (registered rs) m s) = some r

/-- A matched lookup shows the pattern of the route that answers exactly when this is the pattern of
the last route on the shape, and its names exactly when they are those of the first one; parameters
are found under the names of the first one. The listing has the pattern of a route exactly when it is
that of the last one. -/
theorem shows_own_pattern_iff {rs : List (Registration α)} {t : Tree α}
    (h : Tree.empty.addAll rs = (t, none)) :
    (∀ (m : Method) (path : String) (slots : List String) (x : α), path ≠ "" →
      t.maxParam ≤ slots.length → (t.find m path slots).outcome = .matched x →
      ∃ r f l, Answers rs m path.toList r ∧ r.method = m ∧ r.handler = x ∧
        firstRoute rs r.shape = some f ∧ lastRoute rs r.shape = some l ∧
        ((t.find m path slots).template = r.leaf.template ↔ l.path = r.path) ∧
        ((t.find m path slots).names = r.leaf.names ↔ f.leaf.names = r.leaf.names) ∧
        ∀ name, Context.param { names := (t.find m path slots).names
                                slots := (t.find m path slots).slots } name =
          ((f.leaf.names.zip (captures r.shape path.toList)).lookup name).getD "") ∧
    ∀ (m : Method) (s : List Char) (r : Registration α), lastFor rs m s = some r →
      ((m, r.leaf.template) ∈ t.routes ↔ ∃ l, lastRoute rs s = some l ∧ l.path = r.path) := by
  refine ⟨fun m path slots x hpath hslots hx => ?_, fun m s r hr => ?_⟩
  · obtain ⟨s, r, f, l, hs, hr, hrx, hf, hl, hfind⟩ := find_shows h m hpath hslots hx
    have hlen : f.leaf.names.length = (captures r.shape path.toList).length := by
      rw [names_length, (firstRoute_shape hf).2,
        length_captures (star_last_of_routed h ⟨r, (lastFor_shape hr).1, rfl⟩)]
    refine ⟨r, f, l, ⟨s, hs, hr⟩, (lastFor_shape hr).2.1, hrx, hf, hl, ?_, ?_, fun name => ?_⟩
    · rw [hfind]
      exact template_inj
    · rw [hfind]
    · rw [hfind]
      exact param_eq name _ hlen
  · obtain ⟨hmem, _, hshape⟩ := lastFor_shape hr
    rw [mem_routes_iff h]
    constructor
    · rintro ⟨s', _, l, _, hl, e⟩
      have hpath := template_inj.mp e
      have hs : s = s' := by
        rw [← hshape, ← (lastRoute_shape hl).2, Registration.shape, hpath]
        rfl
      exact ⟨l, hs ▸ hl, hpath.symm⟩
    · rintro ⟨l, hl, e⟩
      exact ⟨s, r, l, hr, hl, template_inj.mpr e.symm⟩

/-- Two methods whose routes give the parameter of one shape different names. -/
def profileRoutes : List (Registration Nat) := [⟨.get, "/u/:id", 0⟩, ⟨.post, "/u/:name", 1⟩]

theorem shows_own_pattern_iff_profileRoutes :
    let t := (Tree.empty.addAll profileRoutes).1
    (∃ r l : Registration Nat, r.handler = 0 ∧ lastRoute profileRoutes r.shape = some l ∧
      ((t.find .get "/u/7" [""]).template = r.leaf.template ↔ l.path = r.path)) ∧
    ((Method.get, "/u/:id") ∈ t.routes ↔
      ∃ l, lastRoute profileRoutes ['/', 'u', '/', ':'] = some l ∧
        l.path = ['/', 'u', '/', ':', 'i', 'd']) := by
  have hadded : Tree.empty.addAll profileRoutes = ((Tree.empty.addAll profileRoutes).1, none) :=
    Prod.ext rfl (by cbv)
  have hslots : (Tree.empty.addAll profileRoutes).1.maxParam = [""].length := by cbv
  obtain ⟨hfind, hroutes⟩ := shows_own_pattern_iff hadded
  obtain ⟨r, _, l, _, _, hx, _, hl, htemplate, _⟩ :=
    hfind .get "/u/7" [""] 0 (by decide) (Nat.le_of_eq hslots) (by cbv)
  exact ⟨⟨r, l, hx, hl, htemplate⟩, hroutes .get ['/', 'u', '/', ':'] ⟨.get, "/u/:id", 0⟩ (by cbv)⟩

/-- The first of them is shown with the pattern of the second, and the second with the name of the
first; the listing has a route that nobody registered. -/
theorem profileRoutes_shown :
    let t := (Tree.empty.addAll profileRoutes).1
    (Tree.empty.addAll profileRoutes).2 = none ∧
    (t.find .get "/u/7" [""]).outcome = .matched 0 ∧
    (t.find .get "/u/7" [""]).template = "/u/:name" ∧
    (t.find .post "/u/7" [""]).outcome = .matched 1 ∧
    (t.find .post "/u/7" [""]).names = ["id"] ∧
    t.routes = [(.get, "/u/:name"), (.post, "/u/:name")] := by
  refine ⟨by cbv, by cbv, by cbv, by cbv, by cbv, by cbv⟩

end Switchboard.Route
