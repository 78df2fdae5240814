import SyntheticMarket.Broadcast.Envelope

/-! Clients and the relays that serve them. A relay takes one value at a time from its queue and
sends its messages to every client that wants them, to each in order; it takes the next value when
every client has got the messages or was lost. Sending takes the time of the client's socket, up to
a limit. -/

namespace SyntheticMarket

inductive Arrival where
  | delivered
  | lost
  | broke (failure : Failure)
deriving DecidableEq, Repr

/-- How a socket behaves: it takes a message at once, it refuses it, it fails in a way that nobody
expects, it takes some time for it, it takes messages at once but cannot be closed, or it treats
each message in its own way for a while and is prompt afterwards. -/
inductive Link where
  | prompt
  | refusing
  | failing (failure : Failure)
  | lagging (ms : Int)
  | unclosable
  | uneven (sends : List (Int × Arrival))
deriving DecidableEq, Repr

namespace Link

/-- The time after which a message counts as lost, in milliseconds. -/
def sendLimit : Int := 5000

def within (ms : Int) (arrival : Arrival) : Int × Arrival :=
  if ms < sendLimit then (ms, arrival) else (sendLimit, .lost)

def send (link : Link) (taken : Nat) : Int × Arrival :=
  match link with
  | prompt => (0, .delivered)
  | unclosable => (0, .delivered)
  | refusing => (0, .lost)
  | failing failure => (0, .broke failure)
  | lagging ms => within ms .delivered
  | uneven sends =>
    match sends[taken]? with
    | none => (0, .delivered)
    | some (ms, arrival) => within ms arrival

end Link

inductive Frame where
  | accepted
  | message (value : Json)
  | text (value : String)
  | closed (code : Nat) (reason : String)

def Frame.message? : Frame → Option Json
  | message value => some value
  | _ => none

structure Socket where
  link : Link
  frames : List Frame

def Socket.messages (socket : Socket) : List Json := socket.frames.filterMap Frame.message?

structure Client where
  socket : Nat
  subscription : Subscription
deriving DecidableEq, Repr

/-- Messages on the way to one client. Sending the first of them ends at `due`, as told. -/
structure Delivery where
  socket : Nat
  pending : List Json
  due : Int
  arrival : Arrival

/-- What a relay is doing. A broken relay takes no more values, but messages that were on their way
when it broke still arrive. -/
inductive Phase where
  | waiting
  | sending
  | cancelled
  | broken (breakdown : Breakdown)
deriving DecidableEq, Repr

/-- A relay from a queue to the clients. `watched` tells whether stopping the hub stops it. -/
structure Relay where
  queue : Nat
  channel : Channel
  watched : Bool
  phase : Phase
  deliveries : List Delivery
  lost : List Nat

structure Room where
  bus : Bus Notice
  passed : Int
  sockets : List Socket
  clients : List Client

namespace Room

def link (room : Room) (socket : Nat) : Link :=
  match room.sockets[socket]? with
  | some socket => socket.link
  | none => .refusing

def messages (room : Room) (socket : Nat) : List Json :=
  match room.sockets[socket]? with
  | some socket => socket.messages
  | none => []

def nextSend (room : Room) (socket : Nat) : Int × Arrival :=
  (room.link socket).send (room.messages socket).length

def put (room : Room) (socket : Nat) (frame : Frame) : Room :=
  { room with
    sockets := room.sockets.modify socket fun socket =>
      { socket with frames := socket.frames ++ [frame] } }

def targets (envelope : Envelope) : List Client → Except Breakdown (List Nat)
  | [] => .ok []
  | client :: others => do
    let reached ← envelope.reaches client.subscription
    let rest ← targets envelope others
    return if reached then client.socket :: rest else rest

def removeClients (room : Room) (sockets : List Nat) : Room :=
  { room with clients := room.clients.filter fun client => !sockets.contains client.socket }

def dispatch (room : Room) (messages : List Json) (socket : Nat) : Delivery :=
  let send := room.nextSend socket
  { socket, pending := messages, due := room.passed + send.1, arrival := send.2 }

end Room

structure Round where
  room : Room
  under : List Delivery
  lost : List Nat
  broke : Option Failure

namespace Round

def carry (round : Round) (delivery : Delivery) : Round :=
  match delivery.pending with
  | [] => round
  | message :: rest =>
    if round.room.passed < delivery.due then
      { round with under := round.under ++ [delivery] }
    else
      match delivery.arrival with
      | .lost => { round with lost := round.lost ++ [delivery.socket] }
      | .broke failure => { round with broke := round.broke.or (some failure) }
      | .delivered =>
        let room := round.room.put delivery.socket (.message message)
        let under :=
          if rest.isEmpty then round.under
          else round.under ++ [room.dispatch rest delivery.socket]
        { round with room, under }

end Round

namespace Relay

def start (queue : Nat) (channel : Channel) : Relay :=
  { queue, channel, watched := true, phase := .waiting, deliveries := [], lost := [] }

def hasDue (relay : Relay) (passed : Int) : Bool :=
  relay.deliveries.any fun delivery => delivery.due ≤ passed

def carry (relay : Relay) (room : Room) : Room × Relay :=
  let round := relay.deliveries.foldl Round.carry
    { room, under := [], lost := relay.lost, broke := none }
  let phase :=
    match relay.phase, round.broke with
    | .sending, some failure => .broken (.socket failure)
    | phase, _ => phase
  (round.room, { relay with deliveries := round.under, lost := round.lost, phase })

/-- The relay takes up a value. Without clients, or without any that wants it, the value is gone. -/
def take (relay : Relay) (room : Room) (notice : Notice) : Relay :=
  if room.clients.isEmpty then relay
  else
    match notice.envelope relay.channel with
    | .error breakdown => { relay with phase := .broken breakdown }
    | .ok envelope =>
      match Room.targets envelope room.clients with
      | .error breakdown => { relay with phase := .broken breakdown }
      | .ok [] => relay
      | .ok sockets =>
        { relay with
          phase := .sending
          deliveries := sockets.map (room.dispatch envelope.messages)
          lost := [] }

def step? (relay : Relay) (room : Room) : Option (Room × Relay) :=
  if relay.hasDue room.passed then some (relay.carry room)
  else
    match relay.phase with
    | .sending =>
      if relay.deliveries.isEmpty then
        some (room.removeClients relay.lost, { relay with phase := .waiting, lost := [] })
      else none
    | .waiting =>
      (room.bus.take? relay.queue).map fun (notice, bus) =>
        let room := { room with bus }
        (room, relay.take room notice)
    | _ => none

/-- A stopped relay does nothing more; a broken one cannot be stopped. -/
def cancel (relay : Relay) : Relay :=
  match relay.phase with
  | .broken _ => relay
  | _ => { relay with phase := .cancelled, deliveries := [], lost := [] }

def pendingCount (relay : Relay) : Nat :=
  relay.deliveries.foldl (fun count delivery => count + delivery.pending.length) 0

/-- A bound on the steps that a relay can do without time passing. -/
def work (relay : Relay) (room : Room) : Nat :=
  4 * (room.bus.queue relay.queue).length + relay.pendingCount + 2

/-- A bound on the messages that a relay can still send. -/
def messages (relay : Relay) (room : Room) : Nat :=
  2 * (room.bus.queue relay.queue).length * room.clients.length + relay.pendingCount

end Relay

structure Hub where
  room : Room
  relays : List Relay

namespace Hub

def empty (capacity : Int) : Hub :=
  { room := { bus := .empty capacity, passed := 0, sockets := [], clients := [] }, relays := [] }

/-- Every relay does its next thing, one after the other; tells whether any had one. -/
def sweep (room : Room) : List Relay → Bool × Hub
  | [] => (false, { room, relays := [] })
  | relay :: others =>
    match relay.step? room with
    | none =>
      let (moved, hub) := sweep room others
      (moved, { hub with relays := relay :: hub.relays })
    | some (room, relay) =>
      let (_, hub) := sweep room others
      (true, { hub with relays := relay :: hub.relays })

/-- The relays run until none can do anything more, or for at most `count` sweeps. -/
def settleWithin : Nat → Hub → Hub
  | 0, hub => hub
  | count + 1, hub =>
    let (moved, hub) := sweep hub.room hub.relays
    if moved then settleWithin count hub else hub

def settle (hub : Hub) : Hub :=
  settleWithin (hub.relays.foldl (fun count relay => count + relay.work hub.room) 1) hub

def nextDue? (hub : Hub) : Option Int :=
  (hub.relays.flatMap fun relay => relay.deliveries.map Delivery.due).min?

/-- Time passes up to `final`, with a halt at every time at which a message is due, for at most
`count` of them. -/
def passWithin (final : Int) : Nat → Hub → Hub
  | 0, hub => { hub with room := { hub.room with passed := final } }
  | count + 1, hub =>
    match hub.nextDue? with
    | some due =>
      if due ≤ final then
        let passed := max hub.room.passed due
        passWithin final count (settle { hub with room := { hub.room with passed } })
      else { hub with room := { hub.room with passed := final } }
    | none => { hub with room := { hub.room with passed := final } }

def pass (hub : Hub) (ms : Int) : Hub :=
  passWithin (hub.room.passed + ms)
    (hub.relays.foldl (fun count relay => count + relay.messages hub.room) 1) hub

/-- Publishes a value; the relays hear of it when they run next. -/
def publish (hub : Hub) (topic : String) (notice : Notice) : Hub :=
  { hub with room := { hub.room with bus := hub.room.bus.publish topic notice } }

/-- Starts a relay for bars and one for resets. Relays from before go on, but stopping the hub does
not stop them any more. -/
def start (hub : Hub) : Hub :=
  let (bars, bus) := hub.room.bus.subscribe Event.tickTopic
  let (status, bus) := bus.subscribe Event.resetTopic
  { room := { hub.room with bus }
    relays := hub.relays.map (fun relay => { relay with watched := false }) ++
      [.start bars .bars, .start status .status] }

def breakdown? (hub : Hub) : Option Breakdown :=
  hub.relays.findSome? fun relay =>
    match relay.watched, relay.phase with
    | true, .broken breakdown => some breakdown
    | _, _ => none

/-- The closing frame is put on a socket that can be closed. -/
def close (room : Room) (client : Client) : Room :=
  match room.link client.socket with
  | .unclosable => room
  | _ => room.put client.socket (.closed 1000 "")

/-- Stops the relays and closes every client. If a relay broke down, that is told instead, and the
clients stay connected. -/
def stop (hub : Hub) : Except Breakdown Unit × Hub :=
  let relays := hub.relays.map fun relay => if relay.watched then relay.cancel else relay
  match hub.breakdown? with
  | some breakdown => (.error breakdown, { hub with relays })
  | none =>
    (.ok (), {
      room := { hub.room.clients.foldl close hub.room with clients := [] }
      relays := relays.map fun relay => { relay with watched := false } })

def connect (hub : Hub) (link : Link) (subscription : Subscription) : Nat × Hub :=
  let number := hub.room.sockets.length
  (number, {
    hub with
    room := { hub.room with
              sockets := hub.room.sockets ++ [{ link, frames := [.accepted] }]
              clients := hub.room.clients ++ [{ socket := number, subscription }] } })

def disconnect (hub : Hub) (socket : Nat) : Hub :=
  { hub with room := hub.room.removeClients [socket] }

def frames (hub : Hub) (socket : Nat) : List Frame :=
  match hub.room.sockets[socket]? with
  | some socket => socket.frames
  | none => []

end Hub

end SyntheticMarket
