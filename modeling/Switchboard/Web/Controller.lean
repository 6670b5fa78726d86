import Switchboard.Text.Snake
import Switchboard.Web.Binding
import Switchboard.Web.Exchange

/-!
# Controllers

A controller is a table of named methods that are served as handlers. Each method gets a request
object: bound from the request, verified, used, and cleared in the end however the method went. The
result of a method is answered; an action answers by itself. Names are kept in snake case.
-/

namespace Switchboard

namespace Exchange

variable {ε α : Type}

/-- Binds the request. Fields that were declared wrongly panic once the body has been read. -/
def bind (fields : Except String (List Field)) (read? : Json → Option α) : Exchange ε α :=
  fun _ s =>
    match Binding.bodyObject s.context, fields with
    | .error e, _ => .done (.error e) s
    | .ok _, .error text => .done (.panic (some text)) s
    | .ok _, .ok fields =>
      match s.context.bind fields read? with
      | (.ok a, c) => .done (.ok a) (s.withContext c)
      | (.error e, c) => .done (.error e) (s.withContext c)

end Exchange

/-- A request object of type `ρ`: how it is gathered and read, what it must satisfy, and how it is
cleared. -/
structure Contract (ε ρ : Type) where
  fields : Except String (List Field)
  read? : Json → Option ρ
  verify : ρ → Exchange ε Unit := fun _ => pure ()
  clear : ρ → State ε → State ε := fun _ s => s

namespace Contract

variable {ε ρ : Type}

/-- Work with a request object. It is cleared after the work, or after what has been done of it. -/
def within (k : Contract ε ρ) (work : ρ → Exchange ε Unit) : Exchange ε Unit := do
  let r ← Exchange.bind k.fields k.read?
  let checked : Exchange ε Unit := do
    k.verify r
    work r
  checked.finally_ (k.clear r)

def method (k : Contract ε ρ) (run : ρ → Exchange ε Json) : Handler ε :=
  k.within fun r => do Exchange.ok (← run r)

def action (k : Contract ε ρ) (run : ρ → Exchange ε Unit) : Handler ε := k.within run

end Contract

structure Controller (ε : Type) where
  table : List (String × Handler ε) := []
deriving Inhabited

namespace Controller

variable {ε : Type}

def key (name : String) : String := String.ofList (Text.snakeCase name.toList)

def duplicateMessage (key : String) : String := "duplicate method `" ++ key ++ "`"

def add (k : Controller ε) (name : String) (h : Handler ε) : Except String (Controller ε) :=
  let key := key name
  if k.table.any (·.1 == key) then .error (duplicateMessage key)
  else .ok { k with table := k.table ++ [(key, h)] }

def addAll (k : Controller ε) (methods : List (String × Handler ε)) :
    Except String (Controller ε) :=
  methods.foldlM (fun k m => k.add m.1 m.2) k

def names (k : Controller ε) : List String := (k.table.map (·.1)).mergeSort fun a b => !(b < a)

def find? (k : Controller ε) (key : String) : Option (Handler ε) := k.table.lookup key

/-- The method that a route ends with: its last piece, or the value of the parameter there. A
slash at the end does not count. -/
def routedName (c : Context) : String :=
  let path := Text.dropEndWhile (· == '/') c.template.toList
  match (Text.pieces '/' path).getLast?.getD [] with
  | ':' :: name => key (c.param (String.ofList name))
  | piece => key (String.ofList piece)

def run (k : Controller ε) (key : String) : Handler ε :=
  match k.find? key with
  | some h => h
  | none => Exchange.fail (.http HttpError.notFound)

def named (k : Controller ε) (name : String) : Handler ε := k.run (key name)

def routed (k : Controller ε) : Handler ε := fun d s => k.run (routedName s.context) d s

end Controller

end Switchboard
