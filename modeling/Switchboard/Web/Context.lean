import Switchboard.Http.Cookie
import Switchboard.Http.Form
import Switchboard.Http.Method
import Switchboard.Web.Response

/-!
# Contexts

What a handler has before it: the request, the response writer, the route that was found and a small
store. The query and the form are read once and remembered.
-/

namespace Switchboard

structure Site where
  debug : Bool := false
  indexFile : String := "index.html"
  maxParam : Nat := 0
  maxBodySize : Nat := 0
  routes : List (Method × String) := []
  /-- Whether the application has put a logger of its own in place. -/
  capturing : Bool := false
deriving DecidableEq, Repr

structure Context where
  request : Request := .empty
  response : Response := {}
  /-- The pattern of the route, as it was registered. -/
  template : String := ""
  names : List String := []
  /-- Captured values; the buffer is as wide as the widest route. -/
  slots : List String := []
  query : Option (Multimap String) := none
  form : Option Form := none
  /-- Whether the router has chosen a handler. -/
  routed : Bool := false
  store : Store := []
  site : Option Site := none

namespace Context

def capturing (c : Context) : Bool := (c.site.map (·.capturing)).getD false

/-! ## Parameters -/

/-- The value of the first parameter of a name; empty where there is none. -/
def param (c : Context) (name : String) : String :=
  match c.names.findIdx? (· == name) with
  | some i => c.slots.getD i ""
  | none => ""

def paramValues (c : Context) : List String := c.slots.take c.names.length

/-- Gives the parameters other names; the buffer grows to hold them. -/
def setParamNames (c : Context) (names : List String) : Context :=
  { c with
    names
    slots := c.slots ++ List.replicate (names.length - c.slots.length) "" }

/-- Overwrites captured values; those beyond the buffer are ignored. -/
def setParamValues (c : Context) (values : List String) : Context :=
  { c with slots := values.take c.slots.length ++ c.slots.drop values.length }

/-! ## Query and form -/

def queryText (c : Context) : String := c.request.uri.query.getD ""

def queryParams (c : Context) : Multimap String × Context :=
  match c.query with
  | some q => (q, c)
  | none =>
    let q := Pairs.ofBytes (Utf8.ofText c.queryText)
    (q, { c with query := some q })

def queryParam? (c : Context) (name : String) : Option String × Context :=
  let (q, c) := c.queryParams
  (q.first? name, c)

def isForm (c : Context) : Bool := Form.isAnnounced c.request

/-- The form of the request; one that cannot be read is tried again the next time. -/
def readForm (c : Context) : Except Error Form × Context :=
  match c.form with
  | some f => (.ok f, c)
  | none =>
    match Form.ofRequest c.request with
    | .ok f => (.ok f, { c with form := some f })
    | .error e => (.error e, c)

/-! ## Header, cookies and peer -/

def header? (c : Context) (name : String) : Option String := c.request.text? name

def cookies (c : Context) : List (String × String) :=
  Cookie.readAll ((c.header? "cookie").getD "")

def isWebsocket (c : Context) : Bool :=
  match c.header? "upgrade" with
  | some v => Text.sameAscii v "websocket"
  | none => false

/-- The scheme as the client saw it: `https` when the target or a field of a proxy says so. -/
def scheme (c : Context) : String :=
  let is (expected v : String) : Bool := Text.sameAscii v expected
  if c.request.uri.scheme = some "https" then "https"
  else
    match (c.header? "x-forwarded-proto").or (c.header? "x-forwarded-protocol") with
    | some proto => if is "https" proto then "https" else "http"
    | none =>
      if ((c.header? "x-forwarded-ssl").map (is "on")).getD false then "https"
      else
        match c.header? "x-url-scheme" with
        | some s => if is "https" s then "https" else "http"
        | none => "http"

/-- The address of the client: the first one in the list of forwarders, else the one that a proxy
names, else that of the peer. -/
def realIp (c : Context) : Option String :=
  let forwarded := (c.header? "x-forwarded-for").bind fun v =>
    ((Text.pieces ',' v.toList).map Text.trim).find? (!·.isEmpty)
  match forwarded with
  | some ip => some (String.ofList ip)
  | none =>
    match c.header? "x-real-ip" with
    | some ip => some (String.ofList (Text.trim ip.toList))
    | none => c.request.remote.map fun a => a.ip.render

/-! ## Store -/

def setValue (c : Context) (key : String) (value : Stored) : Context :=
  { c with store := c.store.insert key value }

/-- The value under a key: that of the context, else that of the request. -/
def value? (c : Context) (key : String) : Option Stored :=
  (c.store.lookup key).or (c.request.values.lookup key)

end Context

end Switchboard
