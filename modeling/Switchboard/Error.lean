import Switchboard.Json.Value
import Switchboard.Numerics.Text

/-!
# Errors

What can go wrong, as causes, with the wording in one place. An HTTP error is the visible kind: it
carries a status code, an application number and a message, and perhaps an internal cause that is
not meant for the client.
-/

namespace Switchboard

structure HttpFailure (ε : Type) where
  code : Nat
  errno : Int
  message : String
  internal : Option ε
deriving Inhabited

inductive Error where
  | http (failure : HttpFailure Error)
  | io (detail : String)
  | json (detail : String)
  | config (detail : String)
  | websocket (detail : String)
  | multipart (detail : String)
  | invalidNetwork (name : String)
  | invalidRedirectCode (code : Nat)
  | duplicateConnection (id : String)
  | closed
  | broadcast (failed : List (String × Error))
  | other (message : String)
deriving Inhabited

abbrev HttpError := HttpFailure Error

/-! ## Status codes -/

def reason? (code : Nat) : Option String :=
  [(100, "Continue"), (101, "Switching Protocols"), (102, "Processing"), (103, "Early Hints"),
    (200, "OK"), (201, "Created"), (202, "Accepted"), (203, "Non Authoritative Information"),
    (204, "No Content"), (205, "Reset Content"), (206, "Partial Content"), (207, "Multi-Status"),
    (208, "Already Reported"), (226, "IM Used"), (300, "Multiple Choices"),
    (301, "Moved Permanently"), (302, "Found"), (303, "See Other"), (304, "Not Modified"),
    (305, "Use Proxy"), (307, "Temporary Redirect"), (308, "Permanent Redirect"),
    (400, "Bad Request"), (401, "Unauthorized"), (402, "Payment Required"), (403, "Forbidden"),
    (404, "Not Found"), (405, "Method Not Allowed"), (406, "Not Acceptable"),
    (407, "Proxy Authentication Required"), (408, "Request Timeout"), (409, "Conflict"),
    (410, "Gone"), (411, "Length Required"), (412, "Precondition Failed"),
    (413, "Payload Too Large"), (414, "URI Too Long"), (415, "Unsupported Media Type"),
    (416, "Range Not Satisfiable"), (417, "Expectation Failed"), (418, "I'm a teapot"),
    (421, "Misdirected Request"), (422, "Unprocessable Entity"), (423, "Locked"),
    (424, "Failed Dependency"), (425, "Too Early"), (426, "Upgrade Required"),
    (428, "Precondition Required"), (429, "Too Many Requests"),
    (431, "Request Header Fields Too Large"), (451, "Unavailable For Legal Reasons"),
    (500, "Internal Server Error"), (501, "Not Implemented"), (502, "Bad Gateway"),
    (503, "Service Unavailable"), (504, "Gateway Timeout"), (505, "HTTP Version Not Supported"),
    (506, "Variant Also Negotiates"), (507, "Insufficient Storage"), (508, "Loop Detected"),
    (510, "Not Extended"), (511, "Network Authentication Required")].lookup code

def isStatus (code : Nat) : Bool := 100 ≤ code && code ≤ 999

namespace HttpError

def new (code : Nat) (message : String) : HttpError := ⟨code, 0, message, none⟩

def status (code : Nat) : HttpError := new code ((reason? code).getD "Unknown Status")

def withErrno (e : HttpError) (errno : Int) : HttpError := { e with errno }

def withInternal (e : HttpError) (cause : Error) : HttpError := { e with internal := some cause }

def badRequest : HttpError := status 400
def unauthorized : HttpError := status 401
def forbidden : HttpError := status 403
def notFound : HttpError := status 404
def methodNotAllowed : HttpError := status 405
def payloadTooLarge : HttpError := status 413
def unsupportedMediaType : HttpError := status 415
def internalServerError : HttpError := status 500
def serviceUnavailable : HttpError := status 503

/-- The internal cause in the place of the error when it is an HTTP error itself; one level only. -/
def unwrapInternal (e : HttpError) : HttpError :=
  match e.internal with
  | some (.http inner) => inner
  | _ => e

/-- What the client sees: the code, the number unless it is zero, and the message. -/
def toJson (e : HttpError) : Json :=
  .obj <| [("code", Json.nat e.code)] ++
    (if e.errno = 0 then [] else [("errno", Json.int e.errno)]) ++ [("message", Json.str e.message)]

end HttpError

namespace Error

/-! ## Wording -/

def number (n : Int) : String := String.ofList (Numerics.formatInt n)

def message : Error → String
  | http ⟨code, errno, text, none⟩ =>
    "code=" ++ number code ++ ", errno=" ++ number errno ++ ", message=" ++ text
  | http ⟨code, errno, text, some cause⟩ =>
    "code=" ++ number code ++ ", errno=" ++ number errno ++ ", message=" ++ text ++
      ", internal=" ++ cause.message
  | io detail => "io: " ++ detail
  | json detail => "json: " ++ detail
  | config detail => "config: " ++ detail
  | websocket detail => "websocket: " ++ detail
  | multipart detail => "multipart: " ++ detail
  | invalidNetwork name => "invalid listener network `" ++ name ++ "`"
  | invalidRedirectCode code => "invalid redirect status code " ++ number code
  | duplicateConnection id => "duplicate connection id `" ++ id ++ "`"
  | closed => "transport closed"
  | broadcast failed => "broadcast failed for " ++ number failed.length ++ " peer(s)"
  | other text => text

def causes : Error → List String
  | http ⟨_, _, _, some cause⟩ => cause.message :: cause.causes
  | io detail | json detail | config detail | websocket detail | multipart detail => [detail]
  | _ => []

def http? : Error → Option HttpError
  | http e => some e
  | _ => none

def status (e : Error) : Nat :=
  match e.http? with
  | some h => h.code
  | none => 500

end Error

end Switchboard
