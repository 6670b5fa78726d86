import Switchboard.Error
import Switchboard.Http.Multipart
import Switchboard.Http.Request
import Switchboard.Json.Record
import Switchboard.Text.Base64

/-!
# Forms

The values and uploaded files of a request body, from either form encoding. A request that carries
no form has an empty one. An uploaded file is also a JSON object, with its octets in base64.
-/

namespace Switchboard

structure FormFile where
  filename : String
  contentType : String
  size : Nat
  data : Bytes
deriving DecidableEq, Repr

namespace FormFile

def toJson (f : FormFile) : Json :=
  .obj [("filename", .str f.filename), ("content_type", .str f.contentType),
    ("size", Json.nat f.size), ("data", Json.text (Base64.encode f.data))]

def ofFields? : Json → Json → Json → Json → Option FormFile
  | .str filename, .str contentType, size, .str data => do
    let size ← size.uint64?
    let data ← Base64.decode? data.toList
    some { filename, contentType, size, data }
  | _, _, _, _ => none

/-- All four fields must be present; others are ignored. A list holds them in order. -/
def ofJson? : Json → Option FormFile
  | .obj ms => do
    ofFields? (← ms.lookup "filename") (← ms.lookup "content_type") (← ms.lookup "size")
      (← ms.lookup "data")
  | .arr [filename, contentType, size, data] => ofFields? filename contentType size data
  | _ => none

def ofText? (s : List Char) : Option FormFile := do
  match ← (← Json.Tree.ofText? s).record? ["filename", "content_type", "size", "data"] with
  | [some filename, some contentType, some size, some data] =>
    ofFields? (← Json.ofTree? filename) (← Json.ofTree? contentType) (← Json.ofTree? size)
      (← Json.ofTree? data)
  | _ => none

end FormFile

structure Form where
  values : Multimap String := []
  files : Multimap FormFile := []
deriving DecidableEq, Repr

namespace Form

def fileOf? (p : Multipart.Part) : Option (String × FormFile) :=
  match p.name?, p.filename? with
  | some name, some filename =>
    let contentType :=
      match p.mediaType? with
      | some m => String.ofList m.text
      | none => "application/octet-stream"
    some (name, ⟨filename, contentType, p.content.length, p.content⟩)
  | _, _ => none

def valueOf? (p : Multipart.Part) : Option (String × String) :=
  match p.name?, p.filename? with
  | some name, none => some (name, p.text)
  | _, _ => none

def ofParts (ps : List Multipart.Part) : Form :=
  { values := ps.filterMap valueOf?, files := ps.filterMap fileOf? }

def malformed (detail : String) : Error :=
  .http (HttpError.badRequest.withInternal (.multipart detail))

def urlencoded : String := "application/x-www-form-urlencoded"

def multipart : String := "multipart/form-data"

def isAnnounced (r : Request) : Bool := r.hasType urlencoded || r.hasType multipart

def ofRequest (r : Request) : Except Error Form :=
  if r.hasType urlencoded then .ok { values := Pairs.ofBytes r.body }
  else if r.hasType multipart then
    match Multipart.boundary? ((r.text? "content-type").getD "") with
    | none => .error (malformed "no boundary")
    | some b =>
      match Multipart.parts? b r.body with
      | none => .error (malformed "incomplete body")
      | some parts => .ok (ofParts parts)
  else .ok {}

def value? (f : Form) (name : String) : Option String := f.values.first? name

def file? (f : Form) (name : String) : Option FormFile := f.files.first? name

end Form

end Switchboard
