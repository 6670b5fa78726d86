import Switchboard.Events.Handshake
import Switchboard.Web.Exchange

/-!
# Upgrades

The handler that turns a request into a persistent connection: the connection joins the subject of
its route, under the id that the client has chosen or a fresh one.
-/

namespace Switchboard

variable {ε : Type}

/-- The id of a connection: the one that the request names, or a fresh one. -/
def chooseId (s : State ε) : String × State ε :=
  match (s.context.header? Envelope.connectionId).filter (!·.isEmpty) with
  | some id => (id, s)
  | none =>
    let (id, world) := s.world.freshId
    (id, { s with world })

def upgradeKey? (c : Context) : Option String :=
  if c.isWebsocket then (c.header? "sec-websocket-key").map Handshake.acceptKey else none

def joinSubject (key : String) (s : State ε) : Except Error Unit × State ε :=
  let s := s.mapContext fun c => { c with request := { c.request with upgradable := false } }
  let (id, s) := chooseId s
  let (hub, joined) := s.world.hub.attach .websocket s.context.template id none
  let s := { s with world := { s.world with hub } }
  match joined with
  | .error e => (.error (.http ((HttpError.new 409 "connection id in use").withInternal e)), s)
  | .ok _ =>
    (.ok (), (((s.setHeader "upgrade" "websocket").setHeader "connection" "Upgrade").setHeader
      "sec-websocket-accept" key).writeHeader 101)

def upgrade : Handler ε :=
  Exchange.liftResult fun s =>
    if s.context.site.isNone then (.error (.http HttpError.internalServerError), s)
    else
      match upgradeKey? s.context with
      | none => (.error (.http (HttpError.new 400 "websocket upgrade required")), s)
      | some key =>
        if s.request.upgradable then joinSubject key s
        else (.error (.http (HttpError.new 400 "connection cannot be upgraded")), s)

end Switchboard
