import Switchboard.Text.Pieces
import Switchboard.Text.Blank
import Switchboard.Numerics.Text

/-!
# Cookies

The cookies of a request by name, and the text that sets a cookie.
-/

namespace Switchboard

/-- A cookie to be set; nothing in it is checked or quoted. -/
structure Cookie where
  name : String
  value : String
  path : Option String := none
  domain : Option String := none
  maxAge : Option Int := none
  secure : Bool := false
  httpOnly : Bool := false
deriving DecidableEq, Repr

namespace Cookie

def render (c : Cookie) : String :=
  let part (label : String) (value : Option String) : String :=
    match value with
    | some v => "; " ++ label ++ "=" ++ v
    | none => ""
  c.name ++ "=" ++ c.value ++ part "Path" c.path ++ part "Domain" c.domain ++
    part "Max-Age" (c.maxAge.map fun n => String.ofList (Numerics.formatInt n)) ++
    (if c.secure then "; Secure" else "") ++ (if c.httpOnly then "; HttpOnly" else "")

/-- One piece of a cookie header; the value loses surrounding quotes. A piece without a name is no
cookie. -/
def ofPiece? (piece : List Char) : Option (String × String) :=
  let (name, value) := Text.cut '=' (Text.trim piece)
  let name := Text.trim name
  if name.isEmpty then none
  else
    some (String.ofList name,
      String.ofList (Text.dropEnds (· == '"') (Text.trim (value.getD []))))

/-- The cookies of a header text; of several with one name the last counts. -/
def readAll (header : String) : List (String × String) :=
  ((Text.pieces ';' header.toList).filterMap ofPiece?).foldl
    (fun cs c => cs.filter (·.1 != c.1) ++ [c]) []

end Cookie

end Switchboard
