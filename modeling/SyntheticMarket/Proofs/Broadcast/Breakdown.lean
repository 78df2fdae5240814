import SyntheticMarket.Proofs.Broadcast.Course

/-! What breaks a relay down. A socket that refuses a message or takes too long for it does not, nor
does an event of a simulation. While no socket fails in a way that nobody expects and all that is
published can be read, no relay breaks down. -/

namespace SyntheticMarket

/-- The socket fails in ways only that a relay expects. -/
def Link.Handled (link : Link) : Prop := ∀ taken failure, (link.send taken).2 ≠ .broke failure

/-- The socket may refuse messages, take any time for them, or not be closable, but it fails in no
other way before the time for a message is over. -/
def Link.Tame : Link → Prop
  | failing _ => False
  | uneven sends => ∀ send ∈ sends, send.1 < sendLimit → ∀ failure, send.2 ≠ .broke failure
  | _ => True

theorem Link.handled_iff {link : Link} : link.Handled ↔ link.Tame := by
  have late : ∀ (ms : Int) (arrival : Arrival) (failure : Failure),
      (within ms arrival).2 = .broke failure ↔ ms < sendLimit ∧ arrival = .broke failure := by
    intro ms arrival failure
    rw [within]
    split
    · rename_i early
      simp [early]
    · rename_i expired
      simp [expired]
  cases link with
  | prompt => exact iff_of_true (fun _ _ => Arrival.noConfusion) trivial
  | refusing => exact iff_of_true (fun _ _ => Arrival.noConfusion) trivial
  | failing failure => exact iff_of_false (fun handled => handled 0 failure rfl) id
  | lagging ms =>
    refine iff_of_true (fun _ failure broke => ?_) trivial
    exact Arrival.noConfusion ((late ms .delivered failure).mp broke).2
  | unclosable => exact iff_of_true (fun _ _ => Arrival.noConfusion) trivial
  | uneven sends =>
    constructor
    · intro handled send member early failure broke
      obtain ⟨place, found⟩ := List.mem_iff_getElem?.mp member
      refine handled place failure ?_
      simp only [Link.send, found, late]
      exact ⟨early, broke⟩
    · intro handled taken failure broke
      simp only [Link.send] at broke
      split at broke
      · cases broke
      · rename_i ms arrival found
        obtain ⟨early, same⟩ := (late ms arrival failure).mp broke
        exact handled (ms, arrival) (List.mem_of_getElem? found) early failure same

def Delivery.Handled (delivery : Delivery) : Prop := ∀ failure, delivery.arrival ≠ .broke failure

/-- On every channel there are messages to send, and it can be told who gets them. -/
def Notice.Readable (notice : Notice) : Prop :=
  ∀ channel, ∃ envelope, notice.envelope channel = .ok envelope ∧
    ∀ subscription, ∃ reached, envelope.reaches subscription = .ok reached

theorem Notice.event_readable (event : Event Float) : (Notice.event event).Readable := by
  intro channel
  cases channel with
  | bars =>
    cases event with
    | ticked update => exact ⟨_, envelope_ofUpdate update, fun subscription => ⟨_, rfl⟩⟩
    | reset config candles => exact ⟨_, rfl, fun subscription => ⟨_, rfl⟩⟩
    | stopped symbol => exact ⟨_, rfl, fun subscription => ⟨_, rfl⟩⟩
  | status => cases event <;> exact ⟨_, rfl, fun subscription => ⟨_, rfl⟩⟩

theorem Room.targets_ok {envelope : Envelope}
    (addressed : ∀ subscription, ∃ reached, envelope.reaches subscription = .ok reached)
    (clients : List Client) : ∃ sockets, Room.targets envelope clients = .ok sockets := by
  induction clients with
  | nil => exact ⟨[], rfl⟩
  | cons client others ih =>
    obtain ⟨reached, first⟩ := addressed client.subscription
    obtain ⟨rest, later⟩ := ih
    exact ⟨if reached then client.socket :: rest else rest, by rw [Room.targets, first, later]; rfl⟩

namespace Bus

variable {β : Type} {bus later : Bus β} {item other : β} {topic : String} {number place : Nat}

theorem mem_queue_deliver (member : other ∈ (bus.deliver item place).queue number) :
    other = item ∨ other ∈ bus.queue number := by
  by_cases here : place = number ∧ place < bus.queues.length
  · obtain ⟨rfl, within⟩ := here
    have offered : other ∈ offer bus.capacity (bus.queue place) item := by
      simpa [queue, deliver, within] using member
    rw [offer, List.mem_append, List.mem_singleton] at offered
    obtain old | new := offered
    · split at old
      · exact .inr (List.mem_of_mem_tail old)
      · exact .inr old
    · exact .inl new
  · right
    have same : (bus.deliver item place).queue number = bus.queue number := by
      simp only [queue, deliver, List.getD_eq_getElem?_getD, List.getElem?_set]
      grind
    rwa [same] at member

theorem mem_queue_publish (member : other ∈ (bus.publish topic item).queue number) :
    other = item ∨ other ∈ bus.queue number := by
  have delivered : ∀ (places : List Nat) (bus : Bus β),
      other ∈ (places.foldl (deliver item) bus).queue number →
        other = item ∨ other ∈ bus.queue number := by
    intro places
    induction places with
    | nil => exact fun _ => .inr
    | cons place others ih =>
      intro bus member
      obtain new | old := ih _ member
      · exact .inl new
      · exact mem_queue_deliver old
  exact delivered (bus.subscribers topic) { bus with published := bus.published + 1 } member

theorem mem_of_take? (taken : bus.take? place = some (item, later)) :
    item ∈ bus.queue place ∧ ∀ number, ∀ other ∈ later.queue number, other ∈ bus.queue number := by
  rw [take?] at taken
  split at taken
  · cases taken
  · rename_i rest held
    cases taken
    refine ⟨held ▸ List.mem_cons_self, fun number other member => ?_⟩
    by_cases here : place = number ∧ place < bus.queues.length
    · obtain ⟨rfl, within⟩ := here
      have remains : other ∈ rest := by simpa [queue, within] using member
      exact held ▸ List.mem_cons_of_mem _ remains
    · have same : ({ bus with queues := bus.queues.set place rest } : Bus β).queue number =
          bus.queue number := by
        simp only [queue, List.getD_eq_getElem?_getD, List.getElem?_set]
        grind
      rwa [same] at member

end Bus

/-- No socket of the room fails in a way that nobody expects, and all that waits can be read. -/
structure Room.Foreseen (room : Room) : Prop where
  links : ∀ number, (room.link number).Handled
  notices : ∀ number, ∀ notice ∈ room.bus.queue number, notice.Readable

/-- The relay did not break down, nor is a message on its way that would break it. -/
structure Relay.Foreseen (relay : Relay) : Prop where
  unbroken : ¬relay.IsBroken
  deliveries : ∀ delivery ∈ relay.deliveries, delivery.Handled

structure Round.Foreseen (round : Round) : Prop where
  links : ∀ number, (round.room.link number).Handled
  under : ∀ delivery ∈ round.under, delivery.Handled
  unbroken : round.broke = none

theorem Room.dispatch_handled {room : Room} (links : ∀ number, (room.link number).Handled)
    (messages : List Json) (socket : Nat) : (room.dispatch messages socket).Handled :=
  fun failure => links socket _ failure

namespace Round.Foreseen

variable {round : Round} {delivery : Delivery} {deliveries : List Delivery}

theorem carry (foreseen : round.Foreseen) (handled : delivery.Handled) :
    (round.carry delivery).Foreseen := by
  rw [Round.carry]
  split
  · exact foreseen
  · rename_i message rest _
    split
    · refine ⟨foreseen.links, ?_, foreseen.unbroken⟩
      exact List.forall_mem_append.mpr ⟨foreseen.under, List.forall_mem_singleton.mpr handled⟩
    · split
      · exact ⟨foreseen.links, foreseen.under, foreseen.unbroken⟩
      · rename_i failure broke
        exact absurd broke (handled failure)
      · have links : ∀ number,
            ((round.room.put delivery.socket (.message message)).link number).Handled := by
          intro number
          rw [Room.link_put]
          exact foreseen.links number
        refine ⟨links, ?_, foreseen.unbroken⟩
        simp only
        split
        · exact foreseen.under
        · exact List.forall_mem_append.mpr
            ⟨foreseen.under, List.forall_mem_singleton.mpr (Room.dispatch_handled links _ _)⟩

theorem carryAll (foreseen : round.Foreseen) (handled : ∀ delivery ∈ deliveries, delivery.Handled) :
    (deliveries.foldl Round.carry round).Foreseen := by
  induction deliveries generalizing round with
  | nil => exact foreseen
  | cons delivery others ih =>
    obtain ⟨first, rest⟩ := List.forall_mem_cons.mp handled
    exact ih (foreseen.carry first) rest

end Round.Foreseen

namespace Relay

variable {relay after : Relay} {room later : Room}

theorem Foreseen.take (foreseen : relay.Foreseen) (links : ∀ number, (room.link number).Handled)
    {notice : Notice} (readable : notice.Readable) : (relay.take room notice).Foreseen := by
  obtain same | ⟨sockets, messages, same⟩ | ⟨breakdown, _, failed⟩ := relay.take_cases room notice
  · rwa [same]
  · rw [same]
    refine ⟨fun ⟨_, broken⟩ => Phase.noConfusion broken, fun delivery member => ?_⟩
    obtain ⟨socket, _, rfl⟩ := List.mem_map.mp member
    exact Room.dispatch_handled links messages socket
  · obtain ⟨envelope, read, addressed⟩ := readable relay.channel
    obtain ⟨sockets, found⟩ := Room.targets_ok addressed room.clients
    obtain unread | ⟨other, same, unaddressed⟩ := failed
    · rw [read] at unread
      cases unread
    · obtain rfl : envelope = other := Except.ok.inj (read.symm.trans same)
      rw [found] at unaddressed
      cases unaddressed

theorem Foreseen.carry (foreseen : relay.Foreseen) (links : ∀ number, (room.link number).Handled) :
    (∀ number, ((relay.carry room).1.link number).Handled) ∧ (relay.carry room).2.Foreseen := by
  have start : Round.Foreseen { room, under := [], lost := relay.lost, broke := none } :=
    ⟨links, fun _ absent => absurd absent List.not_mem_nil, rfl⟩
  obtain ⟨links, under, unbroken⟩ := start.carryAll foreseen.deliveries
  have phase : (relay.carry room).2.phase = relay.phase := by
    simp only [Relay.carry, unbroken]
    split
    · rename_i never
      cases never
    · rfl
  refine ⟨links, ?_, under⟩
  rintro ⟨breakdown, broken⟩
  exact foreseen.unbroken ⟨breakdown, phase ▸ broken⟩

theorem Turn.foreseen (turn : relay.Turn room later after) (foreseen : relay.Foreseen)
    (around : room.Foreseen) : later.Foreseen ∧ after.Foreseen := by
  cases turn with
  | carry due =>
    obtain ⟨links, carried⟩ := foreseen.carry around.links
    have alike := (Round.mk room [] relay.lost none).carryAll_alike relay.deliveries
    have bus : (relay.carry room).1.bus = room.bus := alike.bus
    exact ⟨⟨links, bus ▸ around.notices⟩, carried⟩
  | finish idle sending done =>
    refine ⟨⟨around.links, around.notices⟩, fun ⟨_, broken⟩ => Phase.noConfusion broken, ?_⟩
    exact foreseen.deliveries
  | take idle waiting taken =>
    obtain ⟨held, others⟩ := Bus.mem_of_take? taken
    refine ⟨⟨around.links, fun number notice member => ?_⟩, ?_⟩
    · exact around.notices number notice (others number notice member)
    · exact foreseen.take around.links (around.notices _ _ held)

theorem foreseen_bare (unbroken : ∀ breakdown, relay.phase ≠ .broken breakdown)
    (bare : relay.deliveries = []) : relay.Foreseen := by
  refine ⟨fun ⟨breakdown, broken⟩ => unbroken breakdown broken, ?_⟩
  simp [bare]

theorem Foreseen.halt (foreseen : relay.Foreseen) : relay.halt.Foreseen := by
  obtain ⟨_, same⟩ | ⟨_, _, same⟩ := relay.halt_cases
  · rwa [same]
  · exact same ▸ foreseen_bare (fun _ => Phase.noConfusion) rfl

end Relay

namespace Hub

/-- The affair brings no socket that fails in a way that nobody expects, and nothing that cannot be
read. -/
def Affair.Foreseen : Affair → Prop
  | connect link _ => link.Handled
  | publish _ notice => notice.Readable
  | _ => True

/-- The same, told by the kinds of sockets and of published values: what a simulation publishes can
always be read. -/
def Affair.Usual : Affair → Prop
  | connect link _ => link.Tame
  | publish _ (.data value) => (Notice.data value).Readable
  | _ => True

theorem Affair.foreseen_iff (affair : Affair) : affair.Foreseen ↔ affair.Usual := by
  cases affair with
  | connect link subscription => exact Link.handled_iff
  | publish topic notice =>
    cases notice with
    | event event => exact iff_of_true (Notice.event_readable event) trivial
    | data value => exact Iff.rfl
  | _ => exact Iff.rfl

structure Foreseen (hub : Hub) : Prop where
  room : hub.room.Foreseen
  relays : ∀ relay ∈ hub.relays, relay.Foreseen

variable {hub : Hub}

theorem Foreseen.turn (hub : Hub) (number : Nat) (foreseen : hub.Foreseen) :
    (hub.turn number).Foreseen := by
  refine ⟨?_, forall_relays_turn foreseen.relays (fun relay room after held turn => ?_) number⟩
  · obtain same | ⟨relay, room, after, found, turn, same⟩ := hub.turn_cases number
    · rw [same]
      exact foreseen.room
    · rw [same]
      exact (turn.foreseen (foreseen.relays relay (List.mem_of_getElem? found)) foreseen.room).1
  · exact (turn.foreseen held foreseen.room).2

theorem Foreseen.stop (foreseen : hub.Foreseen) : hub.stop.2.Foreseen := by
  have halted : ∀ relay ∈ hub.relays, relay.halt.Foreseen := fun relay member =>
    (foreseen.relays relay member).halt
  cases found : hub.breakdown? with
  | some breakdown =>
    rw [stop_of_broken found]
    exact ⟨foreseen.room, List.forall_mem_map.mpr halted⟩
  | none =>
    rw [stop_of_unbroken found]
    refine ⟨⟨fun number => ?_, ?_⟩, List.forall_mem_map.mpr fun relay member => ?_⟩
    · exact (link_closeAll hub.room.clients hub.room number).symm ▸ foreseen.room.links number
    · exact (closeAll_alike hub.room.clients hub.room).bus.symm ▸ foreseen.room.notices
    · exact ⟨(halted relay member).unbroken, (halted relay member).deliveries⟩

theorem Foreseen.start (foreseen : hub.Foreseen) : hub.start.Foreseen := by
  refine ⟨⟨foreseen.room.links, fun number notice member => ?_⟩, ?_⟩
  · refine foreseen.room.notices number notice ?_
    rwa [Hub.start, Bus.queue_subscribe, Bus.queue_subscribe] at member
  · refine List.forall_mem_append.mpr ⟨List.forall_mem_map.mpr fun relay member => ?_, ?_⟩
    · exact ⟨(foreseen.relays relay member).unbroken, (foreseen.relays relay member).deliveries⟩
    · have fresh : ∀ queue channel, (Relay.start queue channel).Foreseen := fun _ _ =>
        Relay.foreseen_bare (fun _ => Phase.noConfusion) rfl
      exact List.forall_mem_cons.mpr ⟨fresh _ _, List.forall_mem_singleton.mpr (fresh _ _)⟩

theorem Foreseen.connect (foreseen : hub.Foreseen) {link : Link} (handled : link.Handled)
    (subscription : Subscription) : (hub.connect link subscription).2.Foreseen := by
  refine ⟨⟨fun number => ?_, foreseen.room.notices⟩, foreseen.relays⟩
  have before := foreseen.room.links number
  simp only [Room.link, Hub.connect, List.getElem?_append] at before ⊢
  split
  · rename_i socket found
    split at found
    · simpa [found] using before
    · obtain ⟨_, rfl⟩ := List.mem_singleton.mp (List.mem_of_getElem? found)
      exact handled
  · exact fun _ _ => Arrival.noConfusion

theorem Foreseen.publish (foreseen : hub.Foreseen) (topic : String) {notice : Notice}
    (readable : notice.Readable) : (hub.publish topic notice).Foreseen := by
  refine ⟨⟨foreseen.room.links, fun number other member => ?_⟩, foreseen.relays⟩
  obtain rfl | old := Bus.mem_queue_publish member
  · exact readable
  · exact foreseen.room.notices number other old

theorem Foreseen.wait (hub : Hub) (ms : Int) (foreseen : hub.Foreseen) :
    (hub.wait ms).Foreseen :=
  ⟨⟨foreseen.room.links, foreseen.room.notices⟩, foreseen.relays⟩

theorem Foreseen.meet (hub : Hub) (affair : Affair) (expected : affair.Foreseen)
    (foreseen : hub.Foreseen) : (hub.meet affair).Foreseen := by
  cases affair with
  | start => exact foreseen.start
  | stop => exact foreseen.stop
  | connect link subscription => exact foreseen.connect expected subscription
  | disconnect socket => exact ⟨⟨foreseen.room.links, foreseen.room.notices⟩, foreseen.relays⟩
  | publish topic notice => exact foreseen.publish topic expected
  | turn number => exact .turn hub number foreseen
  | wait ms => exact .wait hub ms foreseen
  | settle => exact settle_keeps Foreseen.turn foreseen
  | pass ms => exact pass_keeps Foreseen.turn Foreseen.wait ms foreseen

theorem empty_foreseen (capacity : Int) : (empty capacity).Foreseen :=
  ⟨⟨fun _ _ _ => Arrival.noConfusion, fun _ _ absent => absurd absent List.not_mem_nil⟩,
    fun _ absent => absurd absent List.not_mem_nil⟩

/-- No relay breaks down in a course without unforeseen failures. -/
theorem course_unbroken {affairs : List Affair}
    (expected : ∀ affair ∈ affairs, affair.Foreseen) (capacity : Int) :
    ∀ relay ∈ ((empty capacity).course affairs).relays, ¬relay.IsBroken := by
  have foreseen := course_keeps Foreseen.meet expected (empty_foreseen capacity)
  exact fun relay member => (foreseen.relays relay member).unbroken

end Hub

end SyntheticMarket
