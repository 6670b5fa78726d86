import Switchboard.Route.Lookup
import Switchboard.Route.Register
import Switchboard.Settings.Config
import Switchboard.Web.Controller
import Switchboard.Web.Tracing

/-!
# Services

What an application registers: routes, the middlewares before routing and around every handler, and
its own ways to render errors and results. A registration can be refused; it then has no further
effect, but what stood before the fault stays.
-/

namespace Switchboard

structure Service (ε : Type) where
  config : Config := {}
  routes : Route.Tree (Handler ε) := .empty
  /-- Middlewares that run before routing. -/
  before : List (Middleware ε) := []
  /-- Middlewares that run around what routing has chosen. -/
  around : List (Middleware ε) := []
  onError : Option (Error → State ε → State ε) := none
  onOk : Option (Json → State ε → Outcome Unit × State ε) := none
  /-- Whether the application has put a logger of its own in place. -/
  capturing : Bool := false

/-- A path in front of the routes that are registered through a group, and middlewares around
them. -/
structure Group (ε : Type) where
  stem : String
  middlewares : List (Middleware ε)

def trimSlashes (path : String) : String :=
  String.ofList (Text.dropEndWhile (· == '/') path.toList)

namespace Group

variable {ε : Type}

def new (path : String) (mws : List (Middleware ε)) : Group ε := ⟨trimSlashes path, mws⟩

/-- A middleware for the routes registered from now on, inside those before. -/
def use (g : Group ε) (mw : Middleware ε) : Group ε :=
  { g with middlewares := g.middlewares ++ [mw] }

def group (g : Group ε) (path : String) (mws : List (Middleware ε)) : Group ε :=
  new (g.stem ++ path) (g.middlewares ++ mws)

end Group

namespace Service

variable {ε : Type}

def site (v : Service ε) : Site where
  debug := v.config.debug
  indexFile := v.config.indexFile
  maxParam := v.routes.maxParam
  maxBodySize := v.config.maxBodySize
  routes := v.routes.routes
  capturing := v.capturing

def desk (v : Service ε) : Desk ε :=
  let standard := Desk.standard v.config.debug
  ⟨v.onError.getD standard.onError, v.onOk.getD standard.onOk⟩

/-! ## Registration -/

def pre (v : Service ε) (mw : Middleware ε) : Service ε := { v with before := v.before ++ [mw] }

def use (v : Service ε) (mw : Middleware ε) : Service ε := { v with around := v.around ++ [mw] }

def add (v : Service ε) (m : Method) (path : String) (h : Handler ε) (mws : List (Middleware ε)) :
    Service ε × Option Route.Refusal :=
  let (routes, refusal) := v.routes.add m path (h.within mws)
  ({ v with routes }, refusal)

/-- Registers a handler for several methods, up to the first refusal. -/
def addMany (v : Service ε) (ms : List Method) (path : String) (h : Handler ε)
    (mws : List (Middleware ε)) : Service ε × Option Route.Refusal :=
  match ms with
  | [] => (v, none)
  | m :: ms =>
    match v.add m path h mws with
    | (v, none) => v.addMany ms path h mws
    | refused => refused

def addIn (v : Service ε) (g : Group ε) (m : Method) (path : String) (h : Handler ε)
    (mws : List (Middleware ε)) : Service ε × Option Route.Refusal :=
  v.add m (g.stem ++ path) h (g.middlewares ++ mws)

def addManyIn (v : Service ε) (g : Group ε) (ms : List Method) (path : String) (h : Handler ε) :
    Service ε × Option Route.Refusal :=
  v.addMany ms (g.stem ++ path) h g.middlewares

/-! ## Static files -/

/-- Whether every piece of a path leads further down. -/
def staysBelow (path : String) : Bool :=
  !FileTree.isAbsolute path && !(FileTree.pieces path).contains ".."

/-- Sends the file that the rest of the path names below `root`. -/
def staticFiles (root : String) : Handler ε :=
  Exchange.liftResult fun s =>
    let rest := s.context.param "*"
    if staysBelow rest then s.sendFile (FileTree.join root rest)
    else (.error (.http HttpError.notFound), s)

def addStatic (v : Service ε) (path root : String) : Service ε × Option Route.Refusal :=
  v.add .get (trimSlashes path ++ "/*") (staticFiles root) []

/-! ## Controllers -/

/-- Registers every method of a controller below a path, in the order of the names. -/
def addController (v : Service ε) (m : Method) (path : String) (k : Controller ε) :
    Service ε × Option Route.Refusal :=
  let rec go (v : Service ε) : List String → Service ε × Option Route.Refusal
    | [] => (v, none)
    | name :: names =>
      match v.add m (trimSlashes path ++ "/" ++ name) (k.named name) [] with
      | (v, none) => go v names
      | refused => refused
  go v k.names

end Service

end Switchboard
