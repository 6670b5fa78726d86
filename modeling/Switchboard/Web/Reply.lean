import Switchboard.Json.Printer
import Switchboard.Web.State

/-!
# Replies

The usual ways to answer: a text, a JSON value, a stream, a file, a redirection. Each sets its header
fields, commits the status and writes. Two more answers are the defaults of every service: the
rendering of an error and that of a result.
-/

namespace Switchboard.State

variable {ε : Type}

def blob (s : State ε) (code : Nat) (contentType : String) (body : Bytes) : State ε :=
  ((s.setContentType contentType).writeHeader code).write body

def sendJson (s : State ε) (code : Nat) (value : Json) : State ε :=
  s.blob code ContentType.json.value (Utf8.ofText value.render)

def sendIndentedJson (s : State ε) (code : Nat) (value : Json) : State ε :=
  s.blob code ContentType.json.value (Utf8.ofText value.renderIndented)

/-- A value of the application as JSON, given by the text that it is written as, compact or indented. A
value that cannot be written is refused before anything is changed. -/
def sendDocument (s : State ε) (code : Nat) (written : Except String String) :
    Except Error Unit × State ε :=
  match written with
  | .ok text => (.ok (), s.blob code ContentType.json.value (Utf8.ofText text))
  | .error detail => (.error (.json detail), s)

theorem sendDocument_render (s : State ε) (code : Nat) (value : Json) :
    s.sendDocument code (.ok value.render) = (.ok (), s.sendJson code value) := rfl

theorem sendDocument_renderIndented (s : State ε) (code : Nat) (value : Json) :
    s.sendDocument code (.ok value.renderIndented) = (.ok (), s.sendIndentedJson code value) := rfl

def sendText (s : State ε) (code : Nat) (body : String) : State ε :=
  s.blob code ContentType.text.value (Utf8.ofText body)

def sendHtml (s : State ε) (code : Nat) (body : String) : State ε :=
  s.blob code ContentType.html.value (Utf8.ofText body)

def noContent (s : State ε) (code : Nat) : State ε := s.writeHeader code

/-- A redirection; a code that does not redirect is refused before anything is written. -/
def redirect (s : State ε) (code : Nat) (url : String) : Except Error Unit × State ε :=
  if 300 ≤ code ∧ code ≤ 308 then (.ok (), (s.setHeader "location" url).writeHeader code)
  else (.error (.invalidRedirectCode code), s)

/-! ## Streams -/

def pieceSize : Nat := 8192

def cutPieces (size : Nat) (b : Bytes) : List Bytes :=
  if _h : size = 0 ∨ b = [] then []
  else b.take size :: cutPieces size (b.drop size)
termination_by b.length
decreasing_by
  simp only [not_or] at _h
  have := List.length_pos_iff.2 _h.2
  simp
  omega

/-- Copies the chunks that a reader yields; after the last one comes the end, or a failure. -/
def copyChunks (s : State ε) (failing : Option String) : List Bytes → Except Error Unit × State ε
  | [] =>
    match failing with
    | some detail => (.error (.io detail), s)
    | none => (.ok (), s)
  | chunk :: chunks => copyChunks ((cutPieces pieceSize chunk).foldl write s) failing chunks

def stream (s : State ε) (code : Nat) (contentType : String) (chunks : List Bytes)
    (failing : Option String) : Except Error Unit × State ε :=
  copyChunks ((s.setContentType contentType).writeHeader code) failing chunks

/-! ## Files -/

/-- What is read for a path: what stands there, or for a directory the index file in it. -/
def fileFor? (files : FileTree) (index path : String) : Option (String × FileEntry) :=
  match files.find? path with
  | some .directory =>
    let inside := FileTree.join path index
    ((files.find? inside).filter FileEntry.isFile).map fun entry => (inside, entry)
  | found => found.map fun entry => (path, entry)

def indexFile (s : State ε) : String := (s.context.site.map (·.indexFile)).getD "index.html"

/-- Sends a file, once it has been read. A content type that is set already stays, and a request for
the head gets no body. -/
def sendFile (s : State ε) (path : String) : Except Error Unit × State ε :=
  match fileFor? s.world.files s.indexFile path with
  | none => (.error (.http HttpError.notFound), s)
  | some (name, entry) =>
    match entry.read with
    | .error detail => (.error (.io detail), s)
    | .ok content =>
      let s :=
        if (s.response.header.first? "content-type").isNone then
          s.setContentType (ContentType.ofExtension (FileTree.extension name)).value
        else s
      let s := s.writeHeader 200
      (.ok (), if s.request.method = "HEAD" then s else s.write content)

/-- A disposition with a file name between quotes; quotes in the name are escaped. -/
def disposition (kind name : String) : String :=
  kind ++ "; filename=\"" ++
    String.ofList (name.toList.flatMap fun c => if c = '"' then ['\\', '"'] else [c]) ++ "\""

def sendDisposed (s : State ε) (kind path name : String) : Except Error Unit × State ε :=
  (s.setHeader "content-disposition" (disposition kind name)).sendFile path

def sendAttachment (s : State ε) (path name : String) : Except Error Unit × State ε :=
  s.sendDisposed "attachment" path name

def sendInline (s : State ε) (path name : String) : Except Error Unit × State ε :=
  s.sendDisposed "inline" path name

/-! ## Defaults -/

/-- The part of an error that the client sees, and the text of its cause. -/
def visiblePart : Error → HttpError × Option String
  | .http e =>
    let e := HttpError.unwrapInternal e
    ({ e with internal := none }, e.internal.map Error.message)
  | other => (HttpError.internalServerError, some other.message)

def errorBody (e : HttpError) (detail : Option String) : Json :=
  match e.toJson with
  | .obj ms =>
    .obj (Json.Members.sorted (ms ++
      match detail with
      | some text => [("error", .str text)]
      | none => []))
  | j => j

/-- Renders an error unless a response has been committed. A request for the head gets the status
only; with `debug` the cause is told too. -/
def renderError (s : State ε) (debug : Bool) (e : Error) : State ε :=
  let (visible, cause) := visiblePart e
  if s.response.committed then s
  else if s.request.method = "HEAD" then s.noContent visible.code
  else
    s.sendJson visible.code
      (errorBody visible (if debug then some (cause.getD visible.message) else none))

def resultBody (data : Json) : Json := .obj [("errno", Json.int 0), ("data", data)]

def renderOk (s : State ε) (data : Json) : State ε := s.sendJson 200 (resultBody data)

end Switchboard.State
