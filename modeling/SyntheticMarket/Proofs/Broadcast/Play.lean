import SyntheticMarket.Proofs.Broadcast.Deal
import SyntheticMarket.Proofs.Bus.Books

/-! A started hub under updates. Clients come and go, updates are published, relays take their turns
and time passes, in any order; beside the hub run the roll of its clients and the list of the
updates that were taken up. -/

namespace SyntheticMarket

/-- The messages in which a client is told of an update. -/
def Update.told (update : Update Float) : List Json :=
  (update.messages.map Wire.barMessage).map .record

def Update.envelope (update : Update Float) : Envelope :=
  { messages := update.told
    symbol := .text update.symbol
    timeframe := .text update.timeframe }

namespace Notice

def ofUpdate (update : Update Float) : Notice := .event (.ticked update)

theorem envelope_ofUpdate (update : Update Float) :
    (ofUpdate update).envelope .bars = .ok update.envelope := by
  obtain ⟨symbol, timeframe, transition, bar, closedBar⟩ := update
  cases closedBar <;> rfl

end Notice

/-- An update that was taken up, and the clients that were there. -/
structure Taking where
  update : Update Float
  clients : List Client

def Taking.targets (taking : Taking) : List Nat :=
  (taking.clients.filter fun client =>
    client.subscription.wants (some taking.update.symbol) (some taking.update.timeframe)).map
      (·.socket)

/-- What a client was dealt: the messages of every update that went to it. -/
def deals (past : List Taking) (number : Nat) : List (List Json) :=
  (past.filter (·.targets.contains number)).map (·.update.told)

theorem targets_ofUpdate (update : Update Float) (clients : List Client) :
    Room.targets update.envelope clients = .ok (Taking.targets { update, clients }) := by
  induction clients with
  | nil => rfl
  | cons client others ih =>
    rw [Room.targets, ih]
    cases wanted : client.subscription.wants (some update.symbol) (some update.timeframe) <;>
      simp [Envelope.reaches, Update.envelope, Json.text?, Taking.targets, wanted, bind,
        Except.bind, pure, Except.pure]

/-- The bars relay deals an update to all who want it, and does nothing where nobody does. -/
theorem Relay.take_ofUpdate {relay : Relay} (channel : relay.channel = .bars) (room : Room)
    (update : Update Float) :
    let targets := Taking.targets { update, clients := room.clients }
    relay.take room (.ofUpdate update) =
      if targets = [] then relay
      else { relay with
        phase := .sending
        deliveries := targets.map (room.dispatch update.told)
        lost := [] } := by
  intro targets
  rw [take]
  split
  · rename_i nobody
    have none : targets = [] := by simp [targets, Taking.targets, List.isEmpty_iff.mp nobody]
    rw [if_pos none]
  · rw [channel, Notice.envelope_ofUpdate]
    simp only [targets_ofUpdate]
    cases wanting : targets with
    | nil => simp [targets, wanting]
    | cons first others => simp [targets, wanting, Update.envelope]

namespace Hub

/-- What can happen to a hub: from outside clients come and go and updates are published, inside a
relay takes its turn, and time passes. -/
inductive Move where
  | connect (link : Link) (subscription : Subscription)
  | disconnect (socket : Nat)
  | publish (update : Update Float)
  | turn (relay : Nat)
  | wait (ms : Int)

def turn (hub : Hub) (number : Nat) : Hub :=
  match hub.relays[number]? with
  | none => hub
  | some relay =>
    match relay.step? hub.room with
    | none => hub
    | some (room, relay) => { room, relays := hub.relays.set number relay }

def wait (hub : Hub) (ms : Int) : Hub :=
  { hub with room := { hub.room with passed := hub.room.passed + ms } }

def move (hub : Hub) : Move → Hub
  | .connect link subscription => (hub.connect link subscription).2
  | .disconnect socket => hub.disconnect socket
  | .publish update => hub.publish Event.tickTopic (.ofUpdate update)
  | .turn number => hub.turn number
  | .wait ms => hub.wait ms

def play (hub : Hub) (moves : List Move) : Hub := moves.foldl move hub

theorem play_append (hub : Hub) (first later : List Move) :
    hub.play (first ++ later) = (hub.play first).play later :=
  List.foldl_append ..

/-- The update that the relay of bars takes up when it gets its turn, if it takes up one. -/
def taken? (hub : Hub) : Option (Update Float) :=
  match hub.relays[0]? with
  | none => none
  | some bars =>
    if bars.hasDue hub.room.passed then none
    else
      match bars.phase, hub.room.bus.queue bars.queue with
      | .waiting, .event (.ticked update) :: _ => some update
      | _, _ => none

def takes (hub : Hub) : Move → List Taking
  | .turn 0 => hub.taken?.toList.map fun update => { update, clients := hub.room.clients }
  | _ => []

def asks (hub : Hub) : Move → List (Bus.Action Notice)
  | .publish update => [.publish Event.tickTopic (.ofUpdate update)]
  | move => (hub.takes move).map fun _ => .take 0

/-- What is noted of the moves, one after the other, each before it is made. -/
def note {γ : Type} (noted : Hub → Move → List γ) (hub : Hub) : List Move → List γ
  | [] => []
  | move :: later => noted hub move ++ note noted (hub.move move) later

def takings (hub : Hub) (moves : List Move) : List Taking := note takes hub moves

def Move.update? : Move → Option (Update Float)
  | publish update => some update
  | _ => none

end Hub

/-- The clients that connected and did not disconnect, whatever became of what was sent to them, and
the number of the next one. -/
structure Roll where
  clients : List Client
  next : Nat

namespace Roll

def after (roll : Roll) : Hub.Move → Roll
  | .connect _ subscription =>
    { clients := roll.clients ++ [{ socket := roll.next, subscription }], next := roll.next + 1 }
  | .disconnect socket => { roll with clients := roll.clients.filter (·.socket != socket) }
  | _ => roll

end Roll

def roll (moves : List Hub.Move) : Roll := moves.foldl Roll.after { clients := [], next := 0 }

namespace Relay

def IsBroken (relay : Relay) : Prop := ∃ breakdown, relay.phase = .broken breakdown

inductive Turn (relay : Relay) (room : Room) : Room → Relay → Prop where
  | carry (due : relay.hasDue room.passed = true) :
    Turn relay room (relay.carry room).1 (relay.carry room).2
  | finish (idle : relay.hasDue room.passed = false) (sending : relay.phase = .sending)
    (done : relay.deliveries = []) :
    Turn relay room (room.removeClients relay.lost) { relay with phase := .waiting, lost := [] }
  | take (idle : relay.hasDue room.passed = false) (waiting : relay.phase = .waiting)
    {notice : Notice} {bus : Bus Notice} (taken : room.bus.take? relay.queue = some (notice, bus)) :
    Turn relay room { room with bus } (relay.take { room with bus } notice)

theorem turn_of_step? {relay after : Relay} {room later : Room}
    (stepped : relay.step? room = some (later, after)) : Turn relay room later after := by
  rw [step?] at stepped
  split at stepped
  · rename_i due
    cases stepped
    exact .carry due
  · rename_i notDue
    have idle : relay.hasDue room.passed = false := Bool.eq_false_iff.mpr notDue
    split at stepped
    · rename_i sending
      split at stepped
      · rename_i done
        cases stepped
        exact .finish idle sending (List.isEmpty_iff.mp done)
      · cases stepped
    · rename_i waiting
      obtain ⟨⟨notice, bus⟩, taken, same⟩ := Option.map_eq_some_iff.mp stepped
      cases same
      exact .take idle waiting taken
    · cases stepped

/-- A relay has nothing to do when no message is due, and it waits for messages on their way or for
a value where none is. -/
theorem step?_eq_none {relay : Relay} {room : Room} :
    relay.step? room = none ↔ relay.hasDue room.passed = false ∧
      (relay.phase = .sending → relay.deliveries ≠ []) ∧
      (relay.phase = .waiting → room.bus.queue relay.queue = []) := by
  rw [step?]
  split
  · rename_i due
    simp [due]
  · rename_i notDue
    rw [Bool.not_eq_true] at notDue
    split
    · rename_i sending
      simp [notDue, sending]
    · rename_i waiting
      rw [Option.map_eq_none_iff, Bus.take?]
      split
      · rename_i empty
        simp [notDue, waiting, empty]
      · rename_i held
        simp [waiting, held]
    · rename_i notSending notWaiting
      exact iff_of_true rfl ⟨notDue, fun sending => (notSending sending).elim,
        fun waiting => (notWaiting waiting).elim⟩

end Relay

/-- The bus of a started hub and the mailbox of its bars: what was published was heard, and what
left it without being evicted was taken up. -/
structure Posted (capacity : Int) (bus : Bus Notice) (box : Mailbox Notice)
    (published : List (Update Float)) (past : List Taking) : Prop where
  capacity_eq : bus.capacity = capacity
  queues_eq : bus.queues = [box.waiting, []]
  subscriptions_eq : bus.subscriptions = [(Event.tickTopic, 0), (Event.resetTopic, 1)]
  topic_eq : box.topic = some Event.tickTopic
  balanced : box.Balanced capacity
  heard_eq : box.heard = published.map .ofUpdate
  taken_eq : box.taken = past.map fun taking => .ofUpdate taking.update

namespace Posted

variable {capacity : Int} {bus : Bus Notice} {box : Mailbox Notice}
  {published : List (Update Float)} {past : List Taking}

theorem queue_bars (posted : Posted capacity bus box published past) :
    bus.queue 0 = box.waiting := by
  simp [Bus.queue, posted.queues_eq]

theorem queue_status (posted : Posted capacity bus box published past) : bus.queue 1 = [] := by
  simp [Bus.queue, posted.queues_eq]

theorem waiting_updates (posted : Posted capacity bus box published past) {notice : Notice}
    (waits : notice ∈ box.waiting) : ∃ update, notice = .ofUpdate update := by
  have heard : notice ∈ box.heard := by
    rw [posted.balanced.heard_eq]
    exact List.mem_append_right _ waits
  rw [posted.heard_eq] at heard
  obtain ⟨update, _, rfl⟩ := List.mem_map.mp heard
  exact ⟨update, rfl⟩

theorem publish (posted : Posted capacity bus box published past) (update : Update Float) :
    Posted capacity (bus.publish Event.tickTopic (.ofUpdate update))
      (box.act capacity 0 (.publish Event.tickTopic (.ofUpdate update)))
      (published ++ [update]) past := by
  have heard : box.act capacity 0 (.publish Event.tickTopic (.ofUpdate update)) =
      box.hear capacity (.ofUpdate update) := by
    rw [Mailbox.act, if_pos posted.topic_eq]
  have subscribers : bus.subscribers Event.tickTopic = [0] := by
    rw [Bus.subscribers, posted.subscriptions_eq]
    rfl
  rw [heard, Bus.publish, subscribers]
  refine ⟨posted.capacity_eq, ?_, posted.subscriptions_eq, ?_, posted.balanced.hear _, ?_, ?_⟩
  · simp [Bus.deliver, Bus.queue, posted.queues_eq, posted.capacity_eq, Bus.offer_waiting]
  · rw [Mailbox.topic_hear, posted.topic_eq]
  · rw [Mailbox.heard_hear, posted.heard_eq, List.map_append, List.map_singleton]
  · rw [Mailbox.taken_hear, posted.taken_eq]

theorem take (posted : Posted capacity bus box published past) {notice : Notice}
    {later : Bus Notice} (taken : bus.take? 0 = some (notice, later)) :
    ∃ update, notice = .ofUpdate update ∧ ∀ clients : List Client,
      Posted capacity later (box.act capacity 0 (.take 0)) published
        (past ++ [Taking.mk update clients]) := by
  rw [Bus.take?, posted.queue_bars] at taken
  split at taken
  · cases taken
  · rename_i oldest others waiting
    cases taken
    obtain ⟨update, rfl⟩ := posted.waiting_updates (by rw [waiting]; exact List.mem_cons_self)
    have left : box.act capacity 0 (.take 0) = box.lose .taken := by
      rw [Mailbox.act, if_pos rfl]
    refine ⟨update, rfl, fun clients => ?_⟩
    refine ⟨posted.capacity_eq, ?_, posted.subscriptions_eq, ?_, posted.balanced.act _ _, ?_, ?_⟩
    · rw [left, Mailbox.waiting_lose, waiting, posted.queues_eq]
      rfl
    · rw [left, Mailbox.topic_lose, posted.topic_eq]
    · rw [left, Mailbox.heard_lose, posted.heard_eq]
    · rw [left, Mailbox.taken_lose waiting, posted.taken_eq, List.map_append, List.map_singleton]

end Posted

end SyntheticMarket
