import Switchboard.Proofs.Route.Slots
import Switchboard.Proofs.Route.Traversal

/-!
# Refused registrations

A refused registration leaves behind what it has put in before the fault was met: nodes that are cut,
and new ones that have no routes. None of this can be told from what the tree lists or finds.
-/

namespace Switchboard.Route

variable {α : Type}

namespace Tree

theorem Listed.of_nodes_eq {t t' : Tree α} (h : t'.nodes = t.nodes) {stack : List Nat}
    {out : List (Method × String)} (hout : t.Listed stack out) : t'.Listed stack out :=
  hout.congr (fun k => by simp only [node, h]) fun k => by simp only [node, h]

theorem Listed.modify {t : Tree α} (i : Nat) {f : Node α → Node α}
    (hf : ∀ n, (f n).children = n.children ∧ (f n).payload = n.payload) {stack : List Nat}
    {out : List (Method × String)} (h : t.Listed stack out) : (t.modify i f).Listed stack out := by
  have hnode : ∀ k, ((t.modify i f).node k).children = (t.node k).children ∧
      ((t.modify i f).node k).payload = (t.node k).payload := by
    intro k
    rw [node_modify]
    split
    · rename_i hk
      rw [hk.1]
      exact hf _
    · exact ⟨rfl, rfl⟩
  exact h.congr (fun k => (hnode k).1) fun k => (hnode k).2

/-- A text that is put in without a route adds nothing to the listing, and moves nothing in it. -/
theorem insertAt_listed {t : Tree α} {text : Nat → List Char} (L : t.Layout text)
    (path : List Char) (m : Method) (kind : Kind) {i : Nat} {todo u : List Char}
    (hi : i < t.nodes.size) (hu : text i = u ++ (t.node i).stem) {out : List (Method × String)}
    (hout : t.Listed [root] out) :
    (t.insertAt path m none kind none i todo).1.Listed [root] out := by
  have hroot : ∀ k ∈ [root], k < t.nodes.size := fun k hk => List.mem_singleton.mp hk ▸ L.root_lt
  fun_induction insertAt t path m none kind none i todo generalizing u with
  | case1 | case2 | case8 => exact hout
  | case3 =>
    refine hout.modify root ?_
    exact fun n => ⟨rfl, rfl⟩
  | case4 i todo n shared stem' =>
    refine (hout.split L hi shared stem' hroot).modify i ?_
    exact fun n => ⟨rfl, rfl⟩
  | case5 i todo n shared todo' stem' hcommon hpart hshared hstem' =>
    obtain ⟨rfl, hstem⟩ := common_spec hcommon
    refine (hout.split L hi shared stem' hroot).newLeaf (L.split hi hu hstem hshared hstem') ?_ kind
      todo' m fun k hk => ?_
    · rw [size_split]
      exact Nat.lt_succ_of_lt hi
    · rw [size_split]
      exact Nat.lt_succ_of_lt (hroot k hk)
  | case6 i todo n shared todo' stem' _ _ _ _ _ c hc =>
    rename_i ih
    have hc := List.mem_of_find?_eq_some hc
    exact ih (L.child_lt hc) (L.child_text hc)
  | case7 i todo n shared todo' => exact hout.newLeaf L hi kind todo' m hroot

def Spared (t : Tree α) : Tree α × Option Refusal → Prop
  | (_, none) => True
  | (t', some _) => ∀ out, t.Listed [root] out → t'.Listed [root] out

section step

variable {t : Tree α} {text : Nat → List Char} (L : t.Layout text) {kind : Kind} {p : List Char}
  (A : t.Admits text kind p) (m : Method)
include L A

theorem spared_insert (h : α) (l : Leaf) : t.Spared (t.insert p m (some h) kind (some l)) := by
  have hi := insert_inserted L A m (some (h, l))
  match t.insert p m (some h) kind (some l), hi with
  | (t', none), _ => trivial
  | (t', some _), hnodes => exact fun _ hout => hout.of_nodes_eq hnodes

theorem spared_andThen {g : Tree α → Tree α × Option Refusal}
    (hg : ∀ t' text', t.Grows text p id t' text' → (∃ k < t'.nodes.size, text' k = p) →
      t'.Spared (g t')) : t.Spared (andThen (t.insert p m none kind none) g) := by
  have hi := insert_inserted L A m none
  have hlisted : ∀ out, t.Listed [root] out → (t.insert p m none kind none).1.Listed [root] out :=
    fun out => insertAt_listed L p m kind (u := []) L.root_lt L.root_text
  simp only [Option.map_none] at hi
  match t.insert p m none kind none, hi, hlisted with
  | (t', none), ⟨text', G, hk⟩, hlisted =>
    have hnext := hg t' text' G hk
    show t.Spared (g t')
    match g t', hnext with
    | (_, none), _ => trivial
    | (t'', some _), hnext => exact fun out hout => hnext out (hlisted out hout)
  | (t', some _), _, hlisted => exact hlisted

end step

theorem addFrom_spared (m : Method) (h : α) (template : String) (t : Tree α) (read : List Char)
    (names : List String) (todo : List Char) {text : Nat → List Char} (L : t.Layout text)
    (A : t.Admits text .static read.reverse) :
    t.Spared (t.addFrom m h template read names todo) := by
  fun_induction addFrom t m h template read names todo generalizing text with
  | case1 t read names => exact spared_insert L A m h _
  | case2 t read names rest ih =>
    refine spared_andThen L A m ?_
    intro t₁ text₁ G₁ hnode₁
    have A₁ : t₁.Admits text₁ .param (read.reverse ++ [':']) := (A.grow G₁).mark hnode₁ rfl
    have hstar : '*' ∉ read.reverse ++ [':'] := by
      rw [List.mem_append, not_or]
      exact ⟨A.no_star, by decide⟩
    have hrev : (':' :: read).reverse = read.reverse ++ [':'] := List.reverse_cons
    simp only [hrev] at ih ⊢
    split
    · exact fun _ hout => hout
    · split
      · exact spared_insert G₁.layout A₁ m h _
      · refine spared_andThen G₁.layout A₁ m ?_
        intro t₂ text₂ G₂ hnode₂
        exact ih t₂ G₂.layout (Admits.behind A₁.slash hstar hnode₂)
  | case3 t read names rest hrest => exact fun _ hout => hout
  | case4 t read names rest hrest =>
    refine spared_andThen L A m ?_
    intro t₁ text₁ G₁ hnode₁
    have A₁ : t₁.Admits text₁ .any (read.reverse ++ ['*']) := (A.grow G₁).mark hnode₁ rfl
    exact spared_insert G₁.layout (List.reverse_cons ▸ A₁) m h _
  | case5 t read names c rest hcolon hstar ih =>
    exact ih L (List.reverse_cons ▸ A.snoc ⟨hcolon, hstar⟩)

/-! ## Registrations of which some are refused -/

/-- Registers one after the other, whether the ones before were refused or not. -/
def tryAll (t : Tree α) (rs : List (Registration α)) : Tree α :=
  rs.foldl (fun t r => (t.add r.method r.pattern r.handler).1) t

def accepted (t : Tree α) : List (Registration α) → List (Registration α)
  | [] => []
  | r :: rs =>
    match t.add r.method r.pattern r.handler with
    | (t', none) => r :: t'.accepted rs
    | (t', some _) => t'.accepted rs

theorem add_spared {t : Tree α} {text : Nat → List Char} (L : t.Layout text) (r : Registration α) :
    t.Spared (t.add r.method r.pattern r.handler) := by
  obtain ⟨rest, hrest⟩ := normalize_slash r.pattern.toList
  have A : t.Admits text .static ['/'] :=
    ⟨rfl, [], ['/'], rfl, by simp [Kind.Takes, Literal], List.not_mem_nil, Or.inl rfl⟩
  have h := addFrom_spared r.method r.handler (String.ofList r.path) t ['/'] [] rest L A
  show t.Spared (t.addFrom r.method r.handler (String.ofList r.path) [] []
    (normalize r.pattern.toList))
  rwa [hrest, addFrom, if_neg (by decide), if_neg (by decide)]

theorem Holds.add_refused {t t' : Tree α} {text : Nat → List Char} {p : List Char → Payload α}
    (H : t.Holds text p) {r : Registration α} {refusal : Refusal}
    (h : t.add r.method r.pattern r.handler = (t', some refusal)) :
    ∃ text', t'.Holds text' p := by
  have hadded := add_added H.layout H.stars r
  rw [h] at hadded
  obtain ⟨text', G, hstars⟩ := hadded
  refine ⟨text', G.layout, fun w => ?_, hstars⟩
  rw [G.payload, H.payload]
  exact ite_self _

/-- The tree holds the routes that were accepted, whatever was refused between them. -/
theorem tryAll_holds (rs : List (Registration α)) {t : Tree α} {text : Nat → List Char}
    {before : List (Registration α)} (H : t.Holds text (registered before)) :
    ∃ text', (t.tryAll rs).Holds text' (registered (before ++ t.accepted rs)) := by
  induction rs generalizing t text before with
  | nil => exact ⟨text, by rwa [accepted, List.append_nil]⟩
  | cons r rs ih =>
    rw [tryAll, List.foldl_cons, accepted]
    match hadd : t.add r.method r.pattern r.handler with
    | (t', none) =>
      have hadded := add_added H.layout H.stars r
      rw [hadd] at hadded
      obtain ⟨text', H'⟩ := hadded.holds H
      simp only [← registered_concat] at H'
      rw [List.append_cons]
      exact ih H'
    | (t', some _) =>
      obtain ⟨text', H'⟩ := H.add_refused hadd
      exact ih H'

end Tree

/-- After a refused registration the tree lists and finds what it did before, with whatever slots, and
whatever has been registered or refused until then. -/
theorem refused_invisible (rs : List (Registration α)) (r : Registration α) {t' : Tree α}
    {refusal : Refusal}
    (h : (Tree.empty.tryAll rs).add r.method r.pattern r.handler = (t', some refusal)) :
    t'.routes = (Tree.empty.tryAll rs).routes ∧
      ∀ (m : Method) (path : String) (slots : List String),
        t'.find m path slots = (Tree.empty.tryAll rs).find m path slots := by
  have hempty : (Tree.empty : Tree α).Holds (fun _ => []) (registered []) := Tree.empty_holds
  obtain ⟨text, H⟩ := Tree.tryAll_holds rs hempty
  obtain ⟨text', H'⟩ := H.add_refused h
  have hspared := Tree.add_spared H.layout r
  rw [h] at hspared
  refine ⟨?_, H.find_congr H'⟩
  exact (hspared _ H.layout.listed_routes).unique H'.layout.listed_routes

/-- A route that is cut by the refused ones that follow it. -/
def churnRoutes : List (Registration Nat) :=
  [⟨.get, "/users/new", 0⟩, ⟨.get, "/users/*/x", 1⟩, ⟨.post, "/users/:id", 2⟩]

theorem refused_invisible_churnRoutes :
    let t := Tree.empty.tryAll churnRoutes
    let r := t.add .get "/us/:/y" 3
    r.2 = some (.unnamedParameter "/us/:/y") ∧ t.nodes.size < r.1.nodes.size ∧
      r.1.routes = t.routes ∧ r.1.find .post "/users/new" [""] = t.find .post "/users/new" [""] := by
  intro t r
  have hrefused : r.2 = some (.unnamedParameter "/us/:/y") := by decide +kernel
  obtain ⟨hroutes, hfind⟩ := refused_invisible churnRoutes ⟨.get, "/us/:/y", 3⟩
    (show t.add .get "/us/:/y" 3 = (r.1, some _) from Prod.ext rfl hrefused)
  exact ⟨hrefused, by decide +kernel, hroutes, hfind .post "/users/new" [""]⟩

end Switchboard.Route
