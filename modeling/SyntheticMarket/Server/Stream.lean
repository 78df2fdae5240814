import SyntheticMarket.Server.Catalog
import SyntheticMarket.Server.Basic

/-! Clients on the stream of a server: they first see the candles so far, then every event that they
subscribed to. -/

namespace SyntheticMarket.Server

def refusalCode : Nat := 1011

def refusalText : String := "Server not ready"

/-- The symbol that a client means that names none. -/
def defaultSymbol (settings : Settings) : String := settings.symbols.headD ""

def snapshot? (server : Server) (symbol : String) : Option Json :=
  ((server.registry.find? symbol).bind (·.session)).map fun session =>
    Wire.snapshot symbol session.config.timeframe
      (Catalog.fromEnd server.settings.maxCandles session.candles)

def connect (server : Server) (symbol timeframes : Option String) : Nat × Server :=
  if server.ready then
    let symbol := (symbol.filter (!·.isEmpty)).getD (defaultSymbol server.settings)
    let (number, hub) := server.hub.connect .prompt (.ofText symbol timeframes)
    let room :=
      match server.snapshot? symbol with
      | none => hub.room
      | some value => hub.room.put number (.message value)
    (number, { server with hub := { hub with room } })
  else
    let number := server.hub.room.sockets.length
    let refused : Socket := { link := .prompt, frames := [.closed refusalCode refusalText] }
    let room := { server.hub.room with sockets := server.hub.room.sockets ++ [refused] }
    (number, { server with hub := { server.hub with room } })

def isPing (text : String) : Bool :=
  (Text.trimLetters Text.isBlank text.toList).map Char.toLower == "ping".toList

/-- A connected client sends a text; only a ping is answered. -/
def hear (server : Server) (socket : Nat) (text : String) : Server :=
  if isPing text && server.hub.room.clients.any (·.socket == socket) then
    { server with
      hub := { server.hub with room := server.hub.room.put socket (.text "pong") } }
  else server

def disconnect (server : Server) (socket : Nat) : Server :=
  { server with hub := server.hub.disconnect socket }

end SyntheticMarket.Server
