import Switchboard.Error
import Switchboard.Http.Request
import Switchboard.Http.Method
import Switchboard.Json.Printer
import Switchboard.Json.Record
import Switchboard.Text.Base64
import Switchboard.Web.Response

/-!
# Envelopes

One framed message of a persistent connection: a number that ties a reply to its request, a target,
header texts and a body of raw JSON that nothing on the way reads. Number 0 marks a message that
expects no reply.
-/

namespace Switchboard

structure Envelope where
  rid : Nat := 0
  uri : String := ""
  header : List (String × String) := []
  body : Option (List Char) := none
deriving DecidableEq, Repr, Inhabited

namespace Envelope

/-! ## The written form -/

/-- Texts by name, the last of equal names. -/
def headerOfTree? : Json.Tree → Option (List (String × String))
  | .object ms _ => do
    let ms ← Json.Tree.named? ms
    let pairs ← ms.mapM fun (k, t) => do
      match ← Json.ofTree? t with
      | .str v => some (k, v)
      | _ => none
    some (pairs.foldl (fun h p => h.filter (·.1 != p.1) ++ [p]) [])
  | _ => none

/-- A body `null` is no body. -/
def bodyOfTree : Json.Tree → Option (List Char)
  | .word .null => none
  | t => some t.text

def ofTree? (t : Json.Tree) : Option Envelope := do
  match ← t.record? ["rid", "uri", "header", "body"] with
  | [rid, uri, header, body] =>
    let rid ← match rid with
      | some t => (Json.ofTree? t).bind Json.uint64?
      | none => some 0
    let uri ← match uri with
      | some t => (Json.ofTree? t).bind Json.string?
      | none => some ""
    let header ← match header with
      | some t => headerOfTree? t
      | none => some []
    some { rid, uri, header, body := body.bind bodyOfTree }
  | _ => none

def ofText? (s : List Char) : Option Envelope := (Json.Tree.ofText? s).bind ofTree?

def ofBytes? (b : Bytes) : Option Envelope := (Utf8.decode? b).bind ofText?

/-- The document for the wire; the body stands in it as it is. -/
def toText (e : Envelope) : List Char :=
  '{' :: "\"rid\":".toList ++ Numerics.digitsOf e.rid ++ ",\"uri\":".toList ++ Json.quote e.uri.toList ++
    ",\"header\":".toList ++ Json.print (.obj (e.header.map fun (k, v) => (k, .str v))) ++
    ",\"body\":".toList ++ e.body.getD ['n', 'u', 'l', 'l'] ++ ['}']

def push (uri : String) (value : Json) : Envelope := { uri, body := some (Json.print value) }

def value? (e : Envelope) : Option Json := Json.ofText? (e.body.getD ['n', 'u', 'l', 'l'])

/-! ## Requests and replies -/

def connectionId : String := "x-connection-id"

def requestId : String := "x-request-id"

/-- The request that an envelope stands for. Number, content type and connection id come from the
connection and not from the header of the envelope. -/
def toRequest (e : Envelope) (m : Method) (connection : String) : Except HttpError Request :=
  if (Uri.ofString? e.uri).isNone then
    .error (HttpError.new 400 ("invalid uri `" ++ e.uri ++ "`"))
  else
    let header := e.header.foldl (fun (h : Header) (n, v) => h.add n v) []
    let header := ((header.erase requestId).erase "content-type").erase connectionId
    let header := ((header.add requestId (Error.number e.rid)).add "content-type"
      "application/json").add connectionId connection
    .ok { Request.new m.name e.uri with
      header
      body := Utf8.encode (e.body.getD []) }

/-- JSON goes through as it is, other text as a JSON text, and octets that are no text in base64. -/
def rawBody (body : Bytes) : Option (List Char) :=
  if body.isEmpty then none
  else
    match Utf8.decode? body with
    | some s =>
      match Json.Tree.ofText? s with
      | some t => some t.text
      | none => some (Json.quote s)
    | none => some (Json.quote (Base64.encode body))

/-- The reply with the content of a response; of several fields with one name the last stays, and
values that are no text are left out. -/
def reply (rid : Nat) (uri : String) (a : Answer) : Envelope :=
  { rid, uri
    header := (a.header.filter fun (_, v) => Header.isVisible v).foldl
      (fun h p => h.filter (·.1 != p.1) ++ [p]) []
    body := rawBody a.body }

def failure (rid : Nat) (uri : String) (e : HttpError) : Envelope :=
  { rid, uri
    header := [("content-type", "application/json")]
    body := some (Json.print e.toJson) }

end Envelope

end Switchboard
