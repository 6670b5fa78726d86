import Switchboard.Proofs.Route.CatchAll
import Switchboard.Proofs.Route.Refusal
import Switchboard.Proofs.Web.BadRequests
import Switchboard.Proofs.Web.FilePaths
import Switchboard.Proofs.Web.Sending
import Switchboard.Proofs.Web.Setups

/-!
# Static files

A directory is served through a catch-all, which takes all that is left of the path behind the prefix. The
rest is looked for below the directory if each of its components leads down; otherwise it is not found, and
the files are not asked at all.
-/

namespace Switchboard

open Route FileTree

variable {ε α β : Type}

theorem Exchange.liftResult_eq (f : State ε → Except Error α × State ε) (d : Desk ε) (s : State ε) :
    liftResult f d s = .done
      (match (f s).1 with
        | .ok a => .ok a
        | .error e => .error e) (f s).2 := by
  unfold liftResult
  rcases f s with ⟨_ | _, _⟩ <;> rfl

namespace Route.Tree

theorem tryAll_relabel (f : α → β) (t : Tree α) (rs : List (Registration α)) :
    (t.relabel fun _ => f).tryAll (rs.map fun r => ⟨r.method, r.pattern, f r.handler⟩) =
      (t.tryAll rs).relabel fun _ => f := by
  induction rs generalizing t with
  | nil => rfl
  | cons r rs ih =>
    have hadd := congrArg Prod.fst (add_relabel (fun _ => f) t r.method r.pattern r.handler)
    rw [tryAll, tryAll, List.map_cons, List.foldl_cons, List.foldl_cons, hadd]
    exact ih _

end Route.Tree

namespace Service

/-! ## The route of a directory -/

def staticRoute (path root : String) : Registration (Handler ε) :=
  ⟨.get, trimSlashes path ++ "/*", staticFiles root⟩

theorem addStatic_eq (v : Service ε) (path root : String) : v.addStatic path root =
    let r := staticRoute path root
    v.add r.method r.pattern r.handler [] := rfl

def staticStem (path : String) : List Char := Tree.normalize (trimSlashes path ++ "/").toList

theorem notMem_staticStem {path : String} (hpath : ':' ∉ path.toList) : ':' ∉ staticStem path := by
  have htrimmed : Text.dropEndWhile (· == '/') path.toList <+: path.toList :=
    List.rdropWhile_prefix _ _
  refine notMem_normalize ?_
  rw [String.toList_append, trimSlashes, String.toList_ofList, List.mem_append, not_or]
  exact ⟨fun hmem => hpath (htrimmed.subset hmem), by decide⟩

theorem shape_staticRoute {path : String} (hpath : ':' ∉ path.toList) (root : String) :
    (staticRoute path root : Registration (Handler ε)).shape = staticStem path ++ ['*'] := by
  have hpattern : (trimSlashes path ++ "/*").toList = (trimSlashes path ++ "/").toList ++ ['*'] := by
    simp
  have hstem : (staticRoute path root : Registration (Handler ε)).path = staticStem path ++ ['*'] := by
    rw [Registration.path, staticRoute, hpattern, normalize_append (by simp)]
    rfl
  rw [Registration.shape, hstem]
  refine shape_of_notMem ?_
  simpa using notMem_staticStem hpath

/-- Routing refuses a request, or chooses the handler of the route that answers it; that of a directory then
takes what follows the prefix. -/
theorem choose_static {rs : List (Registration (Handler ε))} {v : Service ε}
    (hv : v.routes = Tree.empty.tryAll rs) (c : Context) :
    (∃ e, (v.choose c).1 = missing e) ∨
      ∃ m r, Method.ofName? c.request.method = some m ∧
        AnswersWithin (Route.Tree.empty.accepted rs) m c.request.uri.path.toList c.slots.length r ∧
        (v.choose c).1 = r.handler ∧
        ∀ path root, ':' ∉ path.toList → r = staticRoute path root →
          c.request.uri.path.toList = staticStem path ++ ((v.choose c).2.param "*").toList := by
  have hempty : (Tree.empty : Route.Tree (Handler ε)).Holds (fun _ => []) (registered []) := Tree.empty_holds
  obtain ⟨text, H⟩ := Tree.tryAll_holds rs hempty
  rw [← hv, List.nil_append] at H
  cases hm : Method.ofName? c.request.method with
  | none =>
    refine .inl ⟨HttpError.methodNotAllowed, ?_⟩
    simp only [choose, hm]
  | some m =>
    cases hx : (v.routes.find m c.request.uri.path c.slots).outcome with
    | methodNotAllowed =>
      refine .inl ⟨HttpError.methodNotAllowed, ?_⟩
      simp only [choose, hm, hx]
    | notFound =>
      refine .inl ⟨HttpError.notFound, ?_⟩
      simp only [choose, hm, hx]
    | matched h =>
      obtain ⟨r, hanswers, hhandler, hcatch⟩ := H.matched_catchAll hx
      refine .inr ⟨m, r, rfl, hanswers, ?_, fun path root hpath hr => ?_⟩
      · simp only [choose, hm, hx, hhandler]
      · -- the only name is that of the catch-all, so its value is in the first slot
        obtain ⟨hnames, htaken⟩ := hcatch (staticStem path) (notMem_staticStem hpath)
          (hr ▸ shape_staticRoute hpath root)
        rw [htaken]
        simp [choose, hm, Context.param, hnames]

/-! ## What is served -/

/-- What the handler of a directory does in a state. Where a component of the rest leads elsewhere than down,
nothing is found, whatever files there are. Otherwise the files make a difference only by what stands where the
rest follows the directory, and if that is a directory, by the index file in it; and what is found there stands
below the directory. -/
structure ServesBelow (root : String) (d : Desk ε) (s : State ε) : Prop where
  refused : ¬ Descends (s.context.param "*") → ∀ files,
    staticFiles root d (s.withFiles files) =
      .done (.error (.http HttpError.notFound)) (s.withFiles files)
  joined : Descends (s.context.param "*") → join root (s.context.param "*") =
    if root = "" ∨ hasFinalSlash root = true then root ++ s.context.param "*"
    else root ++ "/" ++ s.context.param "*"
  asked : Descends (s.context.param "*") → ∀ files files' : FileTree,
    let path := join root (s.context.param "*")
    files.find? path = files'.find? path →
    (files.find? path = some .directory →
      files.find? (join path s.indexFile) = files'.find? (join path s.indexFile)) →
    ∃ o s', staticFiles root d (s.withFiles files) = .done o s' ∧
      staticFiles root d (s.withFiles files') = .done o (s'.withFiles files')
  found : Descends (s.context.param "*") → ∀ (files : FileTree) e,
    files.find? (join root (s.context.param "*")) = some e →
    ∃ base, files.walk? (files.origin root) (pieces root) = some base ∧
      files.entry? (base ++ names (s.context.param "*")) = some e
  foundIndex : Descends (s.context.param "*") → Descends s.indexFile → ∀ (files : FileTree) e,
    files.find? (join (join root (s.context.param "*")) s.indexFile) = some e →
    ∃ base, files.walk? (files.origin root) (pieces root) = some base ∧
      files.entry? (base ++ names (s.context.param "*") ++ names s.indexFile) = some e

theorem staticFiles_refused {root : String} {s : State ε} (d : Desk ε)
    (h : ¬ Descends (s.context.param "*")) :
    staticFiles root d s = .done (.error (.http HttpError.notFound)) s := by
  rw [← staysBelow_iff] at h
  simp only [staticFiles, Exchange.liftResult_eq, h, if_false, Bool.false_eq_true]

theorem staticFiles_asked {root : String} {s : State ε} (d : Desk ε)
    (h : Descends (s.context.param "*")) :
    staticFiles root d s =
      Exchange.liftResult (fun s => s.sendFile (join root (s.context.param "*"))) d s := by
  simp only [staticFiles, Exchange.liftResult_eq, (staysBelow_iff _).mpr h, if_true]

theorem staticFiles_servesBelow (root : String) (d : Desk ε) (s : State ε) :
    ServesBelow root d s where
  refused h files := staticFiles_refused (s := s.withFiles files) d h
  joined := Descends.join_eq
  asked h files files' := by
    intro path hpath hindex
    have hasked (files : FileTree) : staticFiles root d (s.withFiles files) =
        Exchange.liftResult (fun s => s.sendFile path) d (s.withFiles files) :=
      staticFiles_asked (s := s.withFiles files) d h
    have hsent := s.sendFile_withFiles (State.fileFor?_congr hpath hindex)
    rw [hasked, hasked, Exchange.liftResult_eq, Exchange.liftResult_eq, hsent]
    exact ⟨_, _, rfl, rfl⟩
  found h files e := find?_join_down h
  foundIndex h hindex files e := find?_join_join_down h hindex

/-! ## What is answered -/

/-- A service that does nothing around its routes answers a request for a path that leads elsewhere than down
with status 404, whatever files there are. -/
theorem answer_refused {v : Service ε} {root : String} (hbefore : v.before = []) (haround : v.around = [])
    (hdefault : v.onError = none)
    (nested : Request → Pool → World ε → Option (Answer × Pool × World ε)) {r : Request} {pool : Pool}
    (world : World ε) (hchosen : (v.choose (v.prepare (v.acquire pool).1 r)).1 = staticFiles root)
    (hrest : ¬ Descends ((v.choose (v.prepare (v.acquire pool).1 r)).2.param "*")) :
    ∃ a rest, v.serveWith nested r pool world = some (a, rest) ∧ a.status = 404 := by
  obtain ⟨c, hc⟩ : ∃ c, c = (v.choose (v.prepare (v.acquire pool).1 r)).2 := ⟨_, rfl⟩
  rw [← hc] at hrest
  have hchain : v.chain v.desk ⟨v.prepare (v.acquire pool).1 r, world⟩ =
      .done (.error (.http HttpError.notFound)) ⟨c, world⟩ := by
    have hrefused : staticFiles root v.desk ⟨c, world⟩ =
        .done (.error (.http HttpError.notFound)) ⟨c, world⟩ := staticFiles_refused v.desk hrest
    simp only [chain, dispatch, hbefore, haround, Handler.within, List.foldr_nil, hchosen, ← hc]
    exact hrefused
  have hrun : v.runChain nested r pool world =
      some (.error (.http HttpError.notFound), ⟨c, world⟩, (v.acquire pool).2) := by
    rw [runChain, hchain, Work.run]
  have hresponse : c.response = {} := by
    rw [hc, (choose_kept v _).2]
    rfl
  have hfresh : c.response.committed = false ∧ c.response.before = [] := by
    rw [hresponse]
    exact ⟨rfl, rfl⟩
  obtain ⟨-, hstatus⟩ := State.renderError_status (s := (⟨c, world⟩ : State ε)) hfresh.1 hfresh.2
    v.config.debug (.http HttpError.notFound)
  obtain ⟨rest, hserve⟩ := serveWith_of_runChain hrun
  refine ⟨_, rest, hserve, ?_⟩
  simp only [settle, desk_onError hdefault, Response.toAnswer, hstatus]
  rfl

/-! ## Services with a directory -/

/-- A service that serves a directory among other routes, of which some may have been refused. -/
def withStatic (base : Service ε) (before : List (Registration (Handler ε))) (path root : String)
    (after : List (Registration (Handler ε))) : Service ε :=
  let v := ({ base with routes := Tree.empty.tryAll before }.addStatic path root).1
  { v with routes := v.routes.tryAll after }

theorem routes_withStatic (base : Service ε) (before : List (Registration (Handler ε)))
    (path root : String) (after : List (Registration (Handler ε))) :
    (base.withStatic before path root after).routes =
      Tree.empty.tryAll (before ++ staticRoute path root :: after) := by
  simp only [withStatic, addStatic_eq, add, Handler.within, List.foldr_nil, Tree.tryAll,
    List.foldl_append, List.foldl_cons]

/-- Static files stay below their directory: what the route of the directory takes is what follows the
prefix, its handler looks for nothing but what lies below the directory, and for nothing at all where the rest
leads elsewhere than down, which is answered with status 404. -/
theorem static_stays_below (base : Service ε) (before : List (Registration (Handler ε))) {path : String}
    (hpath : ':' ∉ path.toList) (root : String) (after : List (Registration (Handler ε))) :
    let v := base.withStatic before path root after
    (∀ c : Context, (∃ e, (v.choose c).1 = missing e) ∨
      ∃ m r, Method.ofName? c.request.method = some m ∧
        AnswersWithin (Tree.empty.accepted (before ++ staticRoute path root :: after)) m
          c.request.uri.path.toList c.slots.length r ∧
        (v.choose c).1 = r.handler ∧
        (r = staticRoute path root →
          c.request.uri.path.toList = staticStem path ++ ((v.choose c).2.param "*").toList)) ∧
    (∀ d s, ServesBelow root d (s : State ε)) ∧
    (base.before = [] → base.around = [] → base.onError = none → ∀ nested r pool world,
      let c := v.prepare (v.acquire pool).1 r
      (v.choose c).1 = staticFiles root → ¬ Descends ((v.choose c).2.param "*") →
      ∃ a rest, v.serveWith nested r pool world = some (a, rest) ∧ a.status = 404) := by
  intro v
  refine ⟨fun c => ?_, staticFiles_servesBelow root, fun hbefore haround hdefault nested r pool world => ?_⟩
  · refine (choose_static (routes_withStatic base before path root after) c).imp_right ?_
    rintro ⟨m, r, hm, hanswers, hhandler, htaken⟩
    exact ⟨m, r, hm, hanswers, hhandler, htaken path root hpath⟩
  · exact answer_refused (v := v) hbefore haround hdefault nested world

/-- A directory below a prefix, between routes that cut its nodes. -/
def shelving : Service Unit :=
  withStatic {} [⟨.get, "/files/new", Exchange.modify (·.noContent 204)⟩] "/files/" "/srv/pub"
    [⟨.post, "/files/", Exchange.modify (·.noContent 204)⟩]

/-- Its routes, with the one of the directory marked. -/
def shelvingRoutes : Route.Tree Bool :=
  Tree.empty.tryAll [⟨.get, "/files/new", false⟩, ⟨.get, "/files/*", true⟩, ⟨.post, "/files/", false⟩]

theorem shelving_routes : shelving.routes = shelvingRoutes.relabel fun _ marked =>
    if marked then staticFiles "/srv/pub" else Exchange.modify (·.noContent 204) := by
  rw [shelving, routes_withStatic, shelvingRoutes, ← Tree.tryAll_relabel, Tree.relabel_empty]
  rfl

theorem shelving_choose {c : Context} (hmethod : c.request.method = "GET")
    (hpath : c.request.uri.path = "/files/../secret.txt") (hslots : c.slots = [""]) :
    (shelving.choose c).1 = staticFiles "/srv/pub" ∧ (shelving.choose c).2.param "*" = "../secret.txt" := by
  have hget : Method.ofName? "GET" = some .get := by decide
  have houtcome : (shelvingRoutes.find .get "/files/../secret.txt" [""]).outcome = .matched true := by
    decide +kernel
  have hnames : (shelvingRoutes.find .get "/files/../secret.txt" [""]).names = ["*"] := by
    decide +kernel
  have htaken : (shelvingRoutes.find .get "/files/../secret.txt" [""]).slots = ["../secret.txt"] := by
    decide +kernel
  constructor
  · simp [choose, hmethod, hget, hpath, hslots, shelving_routes, Tree.find_relabel, Found.map, houtcome,
      Lookup.map]
  · simp [choose, hmethod, hget, hpath, hslots, shelving_routes, Tree.find_relabel, Found.map, hnames,
      htaken, Context.param]

def shelves : FileTree :=
  { entries := [(["srv", "secret.txt"], .file [0x78]), (["srv", "pub", "app.css"], .file [0x61])] }

def climbing : Context :=
  shelving.prepare (shelving.acquire []).1 (Request.new "GET" "/files/../secret.txt")

theorem shelving_stays_below :
    ((shelving.choose climbing).2.param "*" = "../secret.txt" ∧
      ∃ a rest, shelving.serveWith (shelving.serve 0) (Request.new "GET" "/files/../secret.txt") []
        { files := shelves } = some (a, rest) ∧ a.status = 404) ∧
      ∃ base, shelves.walk? (shelves.origin "/srv/pub") (pieces "/srv/pub") = some base ∧
        shelves.entry? (base ++ names "app.css") = some (.file [0x61]) := by
  have hplain : ':' ∉ "/files/".toList := by decide
  have hstatic := static_stays_below ({} : Service Unit)
    [⟨.get, "/files/new", Exchange.modify (·.noContent 204)⟩] hplain "/srv/pub"
    [⟨.post, "/files/", Exchange.modify (·.noContent 204)⟩]
  constructor
  · have hmaxParam : shelving.routes.maxParam = 1 := by
      rw [shelving_routes]
      show shelvingRoutes.maxParam = 1
      decide +kernel
    have hslots : climbing.slots = [""] := by
      simp only [climbing, prepare, acquire, resize, hmaxParam]
      rfl
    obtain ⟨hchosen, hrest⟩ := shelving_choose (c := climbing) rfl (by decide +kernel) hslots
    refine ⟨hrest, hstatic.2.2 rfl rfl rfl _ _ _ _ hchosen ?_⟩
    show ¬ Descends ((shelving.choose climbing).2.param "*")
    rw [hrest]
    decide
  · let s : State Unit := ⟨{ names := ["*"], slots := ["app.css"] }, {}⟩
    have hrest : s.context.param "*" = "app.css" := rfl
    have hfound : shelves.find? (join "/srv/pub" "app.css") = some (.file [0x61]) := by decide +kernel
    exact (hstatic.2.1 (Desk.standard false) s).found (hrest ▸ by decide) shelves _ hfound

end Service

end Switchboard
