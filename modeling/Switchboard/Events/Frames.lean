import Switchboard.Events.Hub

/-!
# Frames

What a WebSocket brings, and what a serving loop makes of it. A text or binary frame should hold an
envelope; frames that only keep the connection alive are passed over.
-/

namespace Switchboard

inductive Frame where
  | text (s : List Char)
  /-- A binary frame, with the envelope that its octets spell, if they spell one. -/
  | binary (held : Option Envelope)
  | close
  /-- A ping, a pong or the like. -/
  | control
  | failure
deriving DecidableEq, Repr

def Frame.arrival? : Frame → Option Arrival
  | text s => some ((Envelope.ofText? s).elim .malformed .envelope)
  | binary held => some (held.elim .malformed .envelope)
  | close => some .closing
  | control => none
  | failure => some .broken

/-- A frame comes in, as long as the loop can read it. -/
def Link.hear (l : Link) (f : Frame) : Link :=
  if l.loop = .ended then l else { l with inbound := l.inbound ++ f.arrival?.toList }

end Switchboard
