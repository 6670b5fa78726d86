import Switchboard.Events.Hub
import Switchboard.Web.FileTree

/-!
# The world of a service

What a request meets and leaves behind: the connections, the wish to stop, the files, and the
journal of all that has been reported, oldest first. Fresh ids have the form of random UUIDs and
are never given out twice.
-/

namespace Switchboard

inductive Level where
  | debug | info | warn
deriving DecidableEq, Repr

def Level.name : Level → String
  | debug => "DEBUG"
  | info => "INFO"
  | warn => "WARN"

/-- One entry of the journal; `ε` is what the application itself writes. -/
inductive Report (ε : Type) where
  | app (entry : ε)
  | writer (note : WriterNote)
  /-- A line for the logger that the application has put in place. -/
  | line (text : String)
  | span (name : String) (fields : List (String × String))
  | event (level : Level) (fields : List (String × String))

/-- Whether the service goes on, lets its connections finish, or drops them. -/
inductive Stop where
  | running | graceful | immediate
deriving DecidableEq, Repr

structure World (ε : Type) where
  journal : List (Report ε) := []
  hub : Hub := {}
  stop : Stop := .running
  nextId : Nat := 0
  files : FileTree := {}

namespace World

variable {ε : Type}

def report (w : World ε) (r : Report ε) : World ε := { w with journal := w.journal ++ [r] }

def hexDigits : Nat → Nat → List Char
  | 0, _ => []
  | n + 1, k => hexDigits n (k / 16) ++ [Json.hexDigit (k % 16)]

/-- The id with a number: a UUID of version 4 whose last twelve digits count. -/
def idText (n : Nat) : String := "00000000-0000-4000-8000-" ++ String.ofList (hexDigits 12 n)

def isId (s : String) : Bool :=
  let isSmallHex (c : Char) : Bool := ('0' ≤ c && c ≤ '9') || ('a' ≤ c && c ≤ 'f')
  match Text.pieces '-' s.toList with
  | [a, b, c, d, e] =>
    [a, b, c, d, e].map List.length == [8, 4, 4, 4, 12] && (a ++ b ++ c ++ d ++ e).all isSmallHex &&
      c.head? == some '4' && ['8', '9', 'a', 'b'].contains (d.headD '0')
  | _ => false

def freshId (w : World ε) : String × World ε := (idText w.nextId, { w with nextId := w.nextId + 1 })

def tell (w : World ε) (capturing : Bool) (text : String) : World ε :=
  w.report (if capturing then .line text else .event .warn [("message", text)])

end World

end Switchboard
