import Switchboard.Http.Form
import Switchboard.Text.Case
import Switchboard.Web.Context

/-!
# Binding

An object is gathered from a request: first the JSON body, if there is one, then for each field the
first of its sources that has a value, converted to the kind of the field. A field can be an object
of its own, which appears only when something has been found for it. What cannot be read or converted
is a bad request.
-/

namespace Switchboard

inductive FieldSource where
  | value | header | param | query | form | file | cookie
deriving DecidableEq, Repr

inductive FieldKind where
  | text | int | uint | float | bool | json | file
  | list (item : FieldKind)
deriving DecidableEq, Repr, Inhabited

def FieldKind.ofName? : String → Option FieldKind
  | "str" => some .text
  | "int" => some .int
  | "uint" => some .uint
  | "float" => some .float
  | "bool" => some .bool
  | "json" => some .json
  | "file" => some .file
  | _ => none

inductive TextStep where
  | trim | lower | upper
  /-- Keeps the first characters only. -/
  | cut (count : Nat)
deriving DecidableEq, Repr

inductive Field where
  | plain (name : String) (sources : List FieldSource) (kind : FieldKind) (steps : List TextStep)
  | object (name : String) (fields : List Field)

namespace FieldSource

def ofName? : String → Option FieldSource
  | "value" => some .value
  | "header" => some .header
  | "param" => some .param
  | "query" => some .query
  | "form" => some .form
  | "file" => some .file
  | "cookie" => some .cookie
  | _ => none

/-- The sources of a list with commas; blank items stand for nothing. The first name that is no
source is the error. -/
def ofList (names : String) : Except String (List FieldSource) :=
  (((Text.pieces ',' names.toList).map Text.trim).filter (!·.isEmpty)).mapM fun n =>
    match ofName? (String.ofList n) with
    | some s => .ok s
    | none => .error (String.ofList n)

def unknownMessage (field source : String) : String :=
  "field `" ++ field ++ "`: unknown bind source `" ++ source ++ "`"

end FieldSource

namespace TextStep

def ofChars? (s : List Char) : Option TextStep :=
  if s = "trim".toList then some .trim
  else if s = "tolower".toList then some .lower
  else if s = "toupper".toList then some .upper
  else if "cut(".toList.isPrefixOf s ∧ s.getLast? = some ')' then
    (Numerics.readUInt64? (Text.trim ((s.drop 4).dropLast))).map .cut
  else none

/-- The steps of a list with commas; what is no step is left out. -/
def ofList (steps : String) : List TextStep :=
  ((Text.pieces ',' steps.toList).map Text.trim).filterMap ofChars?

def apply (s : List Char) : TextStep → List Char
  | trim => Text.trim s
  | lower => Text.lowerText s
  | upper => Text.upperText s
  | cut n => s.take n

end TextStep

namespace Binding

open Json (Members)

def badRequest (reason : String) : Error :=
  .http (HttpError.badRequest.withInternal (.other reason))

def unreadable : Error := .http (HttpError.badRequest.withInternal (.json "malformed"))

/-! ## Conversion -/

def quoted (s : List Char) : String := "`" ++ String.ofList s ++ "`"

def readBool? (s : List Char) : Option Bool :=
  let s := String.ofList (Text.lowerAscii s)
  if ["1", "t", "true", "on", "yes"].contains s then some true
  else if ["0", "f", "false", "off", "no"].contains s then some false
  else none

def listItems (s : List Char) : List (List Char) :=
  ((Text.pieces ',' s).map Text.trim).filter (!·.isEmpty)

def convertItem (f : List Char → Except Error Json) : Json → Except Error Json
  | .str s => f s.toList
  | other => .ok other

def convertItems (f : List Char → Except Error Json) (items : List Json) : Except Error Json :=
  (items.mapM (convertItem f)).map Json.arr

/-- Converts a text. A list is written with commas between its items, or as a JSON array. -/
def convertText (steps : List TextStep) : FieldKind → List Char → Except Error Json
  | .text, s => .ok (Json.text (steps.foldl TextStep.apply s))
  | .int, s =>
    match Numerics.readInt64? (Text.trim s) with
    | some n => .ok (Json.int n)
    | none => .error (badRequest (quoted s ++ " is not an integer"))
  | .uint, s =>
    match Numerics.readUInt64? (Text.trim s) with
    | some n => .ok (Json.nat n)
    | none => .error (badRequest (quoted s ++ " is not an unsigned integer"))
  | .float, s =>
    match (Numerics.readFloat? (Text.trim s)).filter (·.isFinite) with
    | some x => .ok (.num (.float x))
    | none => .error (badRequest (quoted s ++ " is not a number"))
  | .bool, s =>
    match readBool? (Text.trim s) with
    | some b => .ok (.bool b)
    | none => .error (badRequest (quoted s ++ " is not a boolean"))
  | .json, s =>
    match Json.ofText? s with
    | some j => .ok j
    | none => .error unreadable
  | .file, _ => .error (badRequest "expected an uploaded file")
  | .list item, s =>
    let s := Text.trim s
    if s.head? = some '[' then
      match Json.ofText? s with
      | some (.arr items) => convertItems (convertText steps item) items
      | _ => .error unreadable
    else ((listItems s).mapM (convertText steps item)).map Json.arr

/-- Converts what a source has supplied; what is no text has its type already. -/
def convert (kind : FieldKind) (steps : List TextStep) : Json → Except Error Json
  | .str s => convertText steps kind s.toList
  | .arr items =>
    match kind with
    | .list item => convertItems (convertText steps item) items
    | .file => .error (badRequest "expected an uploaded file")
    | _ => .ok (.arr items)
  | .obj ms => .ok (.obj ms)
  | other =>
    match kind with
    | .file => .error (badRequest "expected an uploaded file")
    | _ => .ok other

/-! ## Sources -/

mutual
/-- Whether a value counts as none: null, the empty text, or a list of such values. -/
def isEmpty : Json → Bool
  | .null => true
  | .str s => s.isEmpty
  | .arr items => areEmpty items
  | _ => false
def areEmpty : List Json → Bool
  | [] => true
  | j :: js => isEmpty j && areEmpty js
end

/-- Several texts stay a list for a list field; otherwise the first one counts. -/
def textsToJson (kind : FieldKind) (values : List String) : Json :=
  match values, kind with
  | [v], _ => .str v
  | vs, .list _ => .arr (vs.map .str)
  | v :: _, _ => .str v
  | [], _ => .null

def storedToJson? : Stored → Option Json
  | .text s | .constant s => some (.str s)
  | .json j => some j
  | .bool b => some (.bool b)
  | .int _ n => some (Json.int n)
  | .float32 x => some (Json.ofFloat x.toFloat)
  | .float64 x => some (Json.ofFloat x)
  | .other => none

def announcedForm (c : Context) : Except Error (Option Form) × Context :=
  if c.isForm then
    match c.readForm with
    | (.ok f, c) => (.ok (some f), c)
    | (.error e, c) => (.error e, c)
  else (.ok none, c)

def fromSource (c : Context) (name : String) (kind : FieldKind) :
    FieldSource → Except Error (Option Json) × Context
  | .value => (.ok ((c.value? name).bind storedToJson?), c)
  | .header => (.ok ((c.header? name).map .str), c)
  | .param => (.ok (some (.str (c.param name))), c)
  | .query =>
    let (q, c) := c.queryParams
    (.ok ((q.values? name).map (textsToJson kind)), c)
  | .form =>
    let (f, c) := announcedForm c
    (f.map fun f => (f.bind (·.values.values? name)).map (textsToJson kind), c)
  | .file =>
    let (f, c) := announcedForm c
    (f.map fun f => (f.bind (·.file? name)).map fun file => .obj (Members.sorted
      (match file.toJson with
      | .obj ms => ms
      | _ => [])), c)
  | .cookie => (.ok ((c.cookies.lookup name).map .str), c)

/-- The first value across the sources of a field that counts, converted. -/
def lookUp (c : Context) (name : String) (kind : FieldKind) (steps : List TextStep) :
    List FieldSource → Except Error (Option Json) × Context
  | [] => (.ok none, c)
  | source :: sources =>
    match fromSource c name kind source with
    | (.error e, c) => (.error e, c)
    | (.ok none, c) => lookUp c name kind steps sources
    | (.ok (some raw), c) =>
      if isEmpty raw then lookUp c name kind steps sources
      else ((convert kind steps raw).map some, c)

/-! ## Objects -/

mutual
def bindField (c : Context) (ms : Members) : Field → Except Error Members × Context
  | .plain name sources kind steps =>
    match lookUp c name kind steps sources with
    | (.error e, c) => (.error e, c)
    | (.ok none, c) => (.ok ms, c)
    | (.ok (some v), c) => (.ok (ms.insert name v), c)
  | .object name fields =>
    let inner :=
      match ms.find? name with
      | some (.obj inner) => inner
      | _ => []
    match bindFields c inner fields with
    | (.error e, c) => (.error e, c)
    | (.ok [], c) => (.ok (ms.erase name), c)
    | (.ok inner, c) => (.ok ((ms.erase name).insert name (.obj inner)), c)
def bindFields (c : Context) (ms : Members) : List Field → Except Error Members × Context
  | [] => (.ok ms, c)
  | f :: fs =>
    match bindField c ms f with
    | (.error e, c) => (.error e, c)
    | (.ok ms, c) => bindFields c ms fs
end

/-- The object of the JSON body; empty when the request carries no JSON. -/
def bodyObject (c : Context) : Except Error Members :=
  if c.request.hasType "application/json" ∧ c.request.body ≠ [] then
    match Json.ofBytes? c.request.body with
    | some (.obj ms) => .ok ms
    | some _ => .error (badRequest "json body is not an object")
    | none => .error unreadable
  else .ok []

end Binding

namespace Context

def bindObject (c : Context) (fields : List Field) : Except Error Json.Members × Context :=
  match Binding.bodyObject c with
  | .ok ms => Binding.bindFields c ms fields
  | .error e => (.error e, c)

def bind {α : Type} (c : Context) (fields : List Field) (read? : Json → Option α) :
    Except Error α × Context :=
  match c.bindObject fields with
  | (.error e, c) => (.error e, c)
  | (.ok ms, c) =>
    match read? (.obj ms) with
    | some a => (.ok a, c)
    | none => (.error Binding.unreadable, c)

end Context

end Switchboard
