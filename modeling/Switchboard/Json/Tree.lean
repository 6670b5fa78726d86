import Switchboard.Json.Token

/-!
# JSON syntax trees

The grammar of JSON as a machine over tokens: one token is read at a time and the open lists and
objects stand on a stack. Every tree keeps the text it was read from, so a part of a document can
be handed on untouched.
-/

namespace Switchboard.Json

/-- A text in pieces. Putting pieces together copies nothing, so the texts of all parts of a
document, each within the next, take no more room than the document. -/
inductive Source where
  | piece (text : List Char)
  | join (parts : List Source)

namespace Source

mutual
def before : Source → List Char → List Char
  | piece t, rest => t ++ rest
  | join ps, rest => beforeAll ps rest
def beforeAll : List Source → List Char → List Char
  | [], rest => rest
  | p :: ps, rest => before p (beforeAll ps rest)
end

def text (s : Source) : List Char := s.before []

end Source

/-- A value as written; quoted texts and numerals are not yet interpreted. -/
inductive Tree where
  | word (w : Word)
  | numeral (n : Numeral)
  | quoted (body : List Char)
  | list (items : List Tree) (source : Source)
  | object (members : List (List Char × Tree)) (source : Source)

namespace Tree

def source : Tree → Source
  | word w => .piece (Token.word w).text
  | numeral n => .piece (Token.numeral n).text
  | quoted b => .piece (Token.quoted b).text
  | list _ s => s
  | object _ s => s

def text (t : Tree) : List Char := t.source.text

/-! ## The machine -/

/-- A list or an object whose end has not been read. The text read so far and the finished parts
stand last first. -/
inductive Frame where
  | list (read : List Source) (items : List Tree)
  | object (read : List Source) (members : List (List Char × Tree)) (key : Option (List Char))

def Frame.note (t : List Char) : Frame → Frame
  | list read items => list (.piece t :: read) items
  | object read ms key => object (.piece t :: read) ms key

inductive Expect where
  | value
  | valueOrEnd
  | key
  | keyOrEnd
  | colon
  | comma
  | done (t : Tree)

abbrev State := Expect × List Frame

def finish (t : Tree) : List Frame → Option State
  | [] => some (.done t, [])
  | .list read items :: fs => some (.comma, .list (t.source :: read) (t :: items) :: fs)
  | .object read ms (some k) :: fs =>
    some (.comma, .object (t.source :: read) ((k, t) :: ms) none :: fs)
  | .object _ _ none :: _ => none

def closed (read : List Source) (last : Char) : Source := .join (.piece [last] :: read).reverse

def close (c : Char) : List Frame → Option State
  | .list read items :: fs =>
    if c == ']' then finish (.list items.reverse (closed read c)) fs else none
  | .object read ms none :: fs =>
    if c == '}' then finish (.object ms.reverse (closed read c)) fs else none
  | _ => none

def start (tok : Token) (fs : List Frame) : Option State :=
  match tok with
  | .word w => finish (.word w) fs
  | .numeral n => finish (.numeral n) fs
  | .quoted b => finish (.quoted b) fs
  | .mark c =>
    if c == '[' then some (.valueOrEnd, .list [.piece ['[']] [] :: fs)
    else if c == '{' then some (.keyOrEnd, .object [.piece ['{']] [] none :: fs)
    else none
  | .blank _ => none

def startKey (tok : Token) (fs : List Frame) : Option State :=
  match tok, fs with
  | .quoted b, .object read ms none :: fs =>
    some (.colon, .object (.piece tok.text :: read) ms (some b) :: fs)
  | _, _ => none

def separate (c : Char) (fs : List Frame) : Option State :=
  if c == ',' then
    match fs with
    | .list read items :: fs => some (.value, .list (.piece [','] :: read) items :: fs)
    | .object read ms none :: fs => some (.key, .object (.piece [','] :: read) ms none :: fs)
    | _ => none
  else close c fs

def step (s : State) (tok : Token) : Option State :=
  match tok, s with
  | .blank t, (e, f :: fs) => some (e, f.note t :: fs)
  | .blank _, (e, []) => some (e, [])
  | tok, (.value, fs) => start tok fs
  | tok, (.valueOrEnd, fs) => if tok = .mark ']' then close ']' fs else start tok fs
  | tok, (.key, fs) => startKey tok fs
  | tok, (.keyOrEnd, fs) => if tok = .mark '}' then close '}' fs else startKey tok fs
  | .mark c, (.colon, f :: fs) => if c == ':' then some (.value, f.note [':'] :: fs) else none
  | .mark c, (.comma, fs) => separate c fs
  | _, _ => none

def run (s : State) : List Token → Option State
  | [] => some s
  | t :: ts => (step s t).bind fun s => run s ts

def ofTokens? (ts : List Token) : Option Tree :=
  match run (.value, []) ts with
  | some (.done t, _) => some t
  | _ => none

def ofText? (s : List Char) : Option Tree := (lex s).bind ofTokens?

end Tree

end Switchboard.Json
