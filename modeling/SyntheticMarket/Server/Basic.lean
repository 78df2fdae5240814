import SyntheticMarket.Broadcast.Hub
import SyntheticMarket.Settings

/-! A server: its simulations, and the hub through which their events reach the clients. -/

namespace SyntheticMarket

/-- A server. One that was never started is not `ready`: it has nothing to serve from. -/
structure Server where
  settings : Settings
  ready : Bool
  clock : Clock
  hub : Hub
  registry : Registry Float

namespace Server

def asleep (settings : Settings) (now : Int) : Server :=
  { settings
    ready := false
    clock := { offset := now, passed := 0 }
    hub := .empty settings.queueSize
    registry := .empty }

def calm : Outage := { topics := [], failure := { kind := "", text := "" } }

/-- Publishes events one by one; the relays run after each. -/
def publishAll (hub : Hub) (events : List (Event Float)) : Hub :=
  events.foldl (fun hub event => (hub.publish event.topic (.event event)).settle) hub

def startSimulation (server : Server) (config : Config Float) :
    Except SimulationFault (List (Candle Float)) × Server :=
  let started := server.registry.start config server.clock calm
  (started.answer,
    { server with registry := started.state, hub := publishAll server.hub started.events })

def stopSimulation (server : Server) (symbol : String) : Bool × Server :=
  let stopped := server.registry.stop symbol calm
  (stopped.answer.toOption.getD false,
    { server with registry := stopped.state, hub := publishAll server.hub stopped.events })

def tick (server : Server) (symbol : String) : Option (Update Float) × Server :=
  let ticked := server.registry.tick symbol server.clock calm
  (ticked.answer.toOption.join,
    { server with registry := ticked.state, hub := publishAll server.hub ticked.events })

inductive BootFault where
  | refused (misfit : Misfit Float)
  | failed (fault : SimulationFault)

/-- Starts the simulations of some symbols, up to the first that is refused or fails. -/
def startSymbols (server : Server) : List String → Except BootFault Server
  | [] => .ok server
  | symbol :: others =>
    match server.settings.config symbol with
    | .error misfit => .error (.refused misfit)
    | .ok config =>
      match server.startSimulation config with
      | (.error fault, _) => .error (.failed fault)
      | (.ok _, started) => startSymbols started others

/-- A server that has started: first its hub, then the simulations of its settings. -/
def boot (settings : Settings) (now : Int) : Except BootFault Server :=
  let server := asleep settings now
  startSymbols { server with ready := true, hub := server.hub.start.settle } settings.symbols

def pass (server : Server) (ms : Int) : Server :=
  let (events, registry) := server.registry.pass ms server.clock calm
  let hub := events.foldl (fun hub (time, event) =>
    publishAll (hub.pass (time - hub.room.passed)) [event]) server.hub
  let clock := server.clock.pass ms
  { server with registry, clock, hub := hub.pass (clock.passed - hub.room.passed) }

/-- Stops the simulations, then the hub, then all subscriptions. -/
def shutdown (server : Server) : Server :=
  let stopped := server.registry.stopAll calm
  let hub := ((publishAll server.hub stopped.events).stop.2).settle
  let bus := hub.room.bus.unsubscribeAll none
  { server with registry := stopped.state, hub := { hub with room := { hub.room with bus } } }

end Server

end SyntheticMarket
