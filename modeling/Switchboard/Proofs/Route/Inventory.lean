import Mathlib.Data.List.Dedup
import Switchboard.Proofs.Route.Patterns
import Switchboard.Proofs.Route.Traversal

/-!
# The inventory of routes

The listing of a tree as a stock-taking of what has been registered: with the names of the parameters
left out it has each method and shape once, however the nodes have been cut and moved.
-/

namespace Switchboard.Route

variable {α : Type}

theorem Payload.nodup_lines (p : Payload α) : p.lines.Nodup := by
  have hall : Method.all.Nodup := by decide
  exact (hall.filter _).map fun m m' e => congrArg Prod.fst e

/-- A pattern is listed once for each method: two nodes with routes have two shapes, and so two
patterns. -/
theorem routes_nodup {rs : List (Registration α)} {t : Tree α}
    (h : Tree.empty.addAll rs = (t, none)) : t.routes.Nodup := by
  obtain ⟨text, H⟩ := Tree.addAll_empty_holds h
  have hshown : ∀ i < t.nodes.size, ∀ line ∈ (t.node i).payload.lines,
      ∃ r : Registration α, line.2 = r.leaf.template ∧ r.shape = text i := by
    intro i hi line hline
    rw [H.payload_node hi] at hline
    obtain ⟨hm, htemplate⟩ := Payload.mem_lines.mp hline
    have hlive := Payload.live_iff.mpr ⟨_, hm⟩
    obtain ⟨l, hl⟩ := exists_lastRoute ((registered_live rs (text i)).mp hlive)
    exact ⟨l, htemplate.trans (registered_template hl), (lastRoute_shape hl).2⟩
  rw [H.layout.routes_perm.nodup_iff, List.nodup_flatMap]
  refine ⟨fun i _ => Payload.nodup_lines _, List.nodup_range.imp_of_mem fun {i k} hi hk hne => ?_⟩
  intro line hi' hk'
  obtain ⟨r, htemplate, hr⟩ := hshown i (List.mem_range.mp hi) line hi'
  obtain ⟨r', htemplate', hr'⟩ := hshown k (List.mem_range.mp hk) line hk'
  have hpath := template_inj.mp (htemplate.symm.trans htemplate')
  refine hne (H.layout.text_inj (List.mem_range.mp hi) (List.mem_range.mp hk) ?_)
  rw [← hr, ← hr', Registration.shape, Registration.shape, hpath]

/-- A line of the listing, with the names of the parameters left out. -/
def collapsed (line : Method × String) : Method × List Char := (line.1, shape line.2.toList)

def Registration.key (r : Registration α) : Method × List Char := (r.method, r.shape)

theorem shape_template (r : Registration α) : shape r.leaf.template.toList = r.shape := by
  rw [Registration.leaf, String.toList_ofList, Registration.shape]

theorem exists_lastFor {rs : List (Registration α)} {r : Registration α} (hr : r ∈ rs) :
    ∃ r', lastFor rs r.method r.shape = some r' := by
  have hmem : r ∈ rs.filter fun r' => r'.method = r.method ∧ r'.shape = r.shape :=
    List.mem_filter.mpr ⟨hr, decide_eq_true ⟨rfl, rfl⟩⟩
  exact ⟨_, List.getLast?_eq_some_getLast (List.ne_nil_of_mem hmem)⟩

section listing

variable {rs : List (Registration α)} {t : Tree α} (h : Tree.empty.addAll rs = (t, none))
include h

/-- A line has the pattern of the last route on its shape, so it can be told from what is left of it
without the names. -/
theorem collapsed_inj {line line' : Method × String} (hline : line ∈ t.routes)
    (hline' : line' ∈ t.routes) (heq : collapsed line = collapsed line') : line = line' := by
  have hlast : ∀ {line : Method × String}, line ∈ t.routes →
      ∃ l, lastRoute rs (collapsed line).2 = some l ∧ line.2 = l.leaf.template := by
    intro (m, pattern) hline
    obtain ⟨s, _, l, _, hl, rfl⟩ := (mem_routes_iff h).mp hline
    refine ⟨l, ?_, rfl⟩
    rwa [collapsed, shape_template, (lastRoute_shape hl).2]
  obtain ⟨l, hl, hpattern⟩ := hlast hline
  obtain ⟨l', hl', hpattern'⟩ := hlast hline'
  rw [heq, hl'] at hl
  obtain rfl := Option.some.inj hl
  have hm : (collapsed line).1 = (collapsed line').1 := congrArg Prod.fst heq
  exact Prod.ext hm (hpattern.trans hpattern'.symm)

theorem mem_collapsed {key : Method × List Char} :
    key ∈ t.routes.map collapsed ↔ key ∈ rs.map Registration.key := by
  simp only [List.mem_map]
  constructor
  · rintro ⟨⟨m, pattern⟩, hline, rfl⟩
    obtain ⟨s, r, l, hr, hl, rfl⟩ := (mem_routes_iff h).mp hline
    obtain ⟨hmem, hm, hs⟩ := lastFor_shape hr
    refine ⟨r, hmem, ?_⟩
    rw [Registration.key, collapsed, shape_template, hm, hs, (lastRoute_shape hl).2]
  · rintro ⟨r, hr, rfl⟩
    obtain ⟨r', hr'⟩ := exists_lastFor hr
    obtain ⟨l, hl⟩ := exists_lastRoute (s := r.shape) ⟨r, hr, rfl⟩
    refine ⟨(r.method, l.leaf.template), (mem_routes_iff h).mpr ⟨_, r', l, hr', hl, rfl⟩, ?_⟩
    rw [Registration.key, collapsed, shape_template, (lastRoute_shape hl).2]

/-- The listing ends, and lists each method and shape that has been registered once and nothing else.
The tree knows the largest number of parameters that any of the patterns has. -/
theorem routes_inventory :
    (∀ out, t.Listed [Tree.root] out ↔ out = t.routes) ∧
    (t.routes.map collapsed).Perm (rs.map Registration.key).dedup ∧
    t.maxParam = (rs.map fun r => (paramNames r.path).length).max?.getD 0 := by
  obtain ⟨text, H⟩ := Tree.addAll_empty_holds h
  have hlisted := H.layout.listed_routes
  have hnodup : (t.routes.map collapsed).Nodup :=
    (routes_nodup h).map_on fun line hline line' hline' => collapsed_inj h hline hline'
  refine ⟨fun out => ⟨hlisted.unique, fun e => e ▸ hlisted⟩, ?_, Tree.maxParam_of_registered h⟩
  refine (List.perm_ext_iff_of_nodup hnodup (List.nodup_dedup _)).mpr fun key => ?_
  rw [mem_collapsed h, List.mem_dedup]

end listing

/-- Routes that cut each other's nodes; two of them are for one method and one shape. -/
def stockRoutes : List (Registration Nat) :=
  [⟨.get, "/stock/:id", 0⟩, ⟨.post, "/stock/:id/items/*", 1⟩, ⟨.get, "/store", 2⟩,
    ⟨.put, "/stock/:name", 3⟩, ⟨.get, "/stock/:key", 4⟩]

theorem routes_inventory_stockRoutes :
    let t := (Tree.empty.addAll stockRoutes).1
    t.Listed [Tree.root] [(.get, "/stock/:key"), (.put, "/stock/:key"),
      (.post, "/stock/:id/items/*"), (.get, "/store")] ∧
    (t.routes.map collapsed).Perm (stockRoutes.map Registration.key).dedup ∧ t.maxParam = 2 := by
  intro t
  have hadded : Tree.empty.addAll stockRoutes = (t, none) := Prod.ext rfl (by decide +kernel)
  obtain ⟨hlisted, hperm, hmax⟩ := routes_inventory hadded
  refine ⟨(hlisted _).mpr (by decide +kernel), hperm, hmax.trans ?_⟩
  cbv

end Switchboard.Route
