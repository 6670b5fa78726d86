import Switchboard.Text.Pieces
import Switchboard.Http.Header

/-!
# Media types

The media types that answers commonly carry with the file extensions that stand for them, and the
reading of a media type with parameters as it stands in a header.
-/

namespace Switchboard

inductive ContentType where
  | css | csv | eventStream | formData | gif | html | javascript | jpeg | json | octetStream | pdf
  | png | svg | text | wasm | xml
deriving DecidableEq, Repr

namespace ContentType

def all : List ContentType :=
  [css, csv, eventStream, formData, gif, html, javascript, jpeg, json, octetStream, pdf, png, svg,
    text, wasm, xml]

def name : ContentType → String
  | css => "Css"
  | csv => "Csv"
  | eventStream => "EventStream"
  | formData => "FormData"
  | gif => "Gif"
  | html => "Html"
  | javascript => "Javascript"
  | jpeg => "Jpeg"
  | json => "Json"
  | octetStream => "OctetStream"
  | pdf => "Pdf"
  | png => "Png"
  | svg => "Svg"
  | text => "Text"
  | wasm => "Wasm"
  | xml => "Xml"

def value : ContentType → String
  | css => "text/css; charset=utf-8"
  | csv => "text/csv"
  | eventStream => "text/event-stream"
  | formData => "application/x-www-form-urlencoded"
  | gif => "image/gif"
  | html => "text/html; charset=utf-8"
  | javascript => "text/javascript; charset=utf-8"
  | jpeg => "image/jpeg"
  | json => "application/json"
  | octetStream => "application/octet-stream"
  | pdf => "application/pdf"
  | png => "image/png"
  | svg => "image/svg+xml"
  | text => "text/plain; charset=utf-8"
  | wasm => "application/wasm"
  | xml => "application/xml"

def ofName? (s : String) : Option ContentType := all.find? fun t => t.name == s

def extensions : ContentType → List String
  | css => ["css"]
  | csv => ["csv"]
  | gif => ["gif"]
  | html => ["htm", "html"]
  | javascript => ["js", "mjs"]
  | jpeg => ["jpg", "jpeg"]
  | json => ["json"]
  | pdf => ["pdf"]
  | png => ["png"]
  | svg => ["svg"]
  | text => ["txt"]
  | wasm => ["wasm"]
  | xml => ["xml"]
  | eventStream | formData | octetStream => []

/-- The type of files with an extension; an unknown extension says nothing about the octets. -/
def ofExtension (ext : String) : ContentType :=
  let e := String.ofList (Text.lowerAscii ext.toList)
  (all.find? fun t => t.extensions.contains e).getD octetStream

end ContentType

/-! ## Media types with parameters -/

/-- A media type as read: what stands before and after the slash in small letters, the parameters
with small names, and the whole text with everything but parameter values in small letters. -/
structure MediaType where
  top : List Char
  sub : List Char
  params : List (List Char × List Char)
  text : List Char
deriving DecidableEq, Repr

namespace MediaType

def isQuotedChar (c : Char) : Bool := 31 < c.toNat && c.toNat != 127

/-- The value of a parameter, the text that was read for it, and what follows up to and with the
next semicolon. A quoted value has at least one character. -/
def readValue? (s : List Char) : Option (List Char × List Char × List Char) :=
  match s with
  | '"' :: r =>
    match r with
    | [] => none
    | c :: r' =>
      let value := c :: r'.takeWhile (· != '"')
      match r'.dropWhile (· != '"') with
      | '"' :: after =>
        let blanks := after.takeWhile (· == ' ')
        let source := '"' :: value ++ '"' :: blanks
        if !value.all isQuotedChar then none
        else
          match after.dropWhile (· == ' ') with
          | [] => some (value, source, [])
          | ';' :: rest => some (value, source ++ [';'], rest)
          | _ => none
      | _ => none
  | _ =>
    let value := s.takeWhile isTokenChar
    match s.dropWhile isTokenChar with
    | [] => some (value, value, [])
    | ';' :: rest => if value.isEmpty then none else some (value, value ++ [';'], rest)
    | _ => none

/-- The parameters behind a semicolon, with the text in which names and charsets are small. The
length of the text bounds the number of parameters. -/
def readParams? : Nat → List Char → Option (List (List Char × List Char) × List Char)
  | 0, _ => some ([], [])
  | fuel + 1, s =>
    let blanks := s.takeWhile (· == ' ')
    let s := s.dropWhile (· == ' ')
    if s.isEmpty then some ([], blanks)
    else
      let name := s.takeWhile isTokenChar
      match s.dropWhile isTokenChar with
      | '=' :: r =>
        if name.isEmpty then none
        else do
          let (value, source, rest) ← readValue? r
          let (params, text) ← readParams? fuel rest
          let small := Text.lowerAscii name
          let source := if small == "charset".toList then Text.lowerAscii source else source
          some ((small, value) :: params, blanks ++ small ++ '=' :: source ++ text)
      | _ => none

/-- Nothing need follow the slash where the text ends, but a semicolon has a subtype before it. -/
def ofChars? (s : List Char) : Option MediaType :=
  if s == "*/*".toList then some ⟨['*'], ['*'], [], s⟩
  else
    let top := Text.lowerAscii (s.takeWhile isTokenChar)
    match s.dropWhile isTokenChar with
    | '/' :: r =>
      let sub := Text.lowerAscii (r.takeWhile isTokenChar)
      let essence := top ++ '/' :: sub
      if top.isEmpty then none
      else
        match r.dropWhile isTokenChar with
        | [] => some ⟨top, sub, [], essence⟩
        | ';' :: p =>
          if sub.isEmpty then none
          else do
            let (params, text) ← readParams? (p.length + 1) p
            if params.isEmpty then some ⟨top, sub, [], essence⟩
            else some ⟨top, sub, params, essence ++ ';' :: text⟩
        | _ => none
    | _ => none

def ofString? (s : String) : Option MediaType := ofChars? s.toList

/-- The subtype without its suffix, which starts at the last plus sign that something precedes. -/
def subtype (m : MediaType) : List Char :=
  match m.sub with
  | [] => []
  | c :: r =>
    match r.reverse.dropWhile (· != '+') with
    | [] => c :: r
    | _ :: stem => c :: stem.reverse

def param? (m : MediaType) (name : String) : Option (List Char) := m.params.lookup name.toList

end MediaType

end Switchboard
