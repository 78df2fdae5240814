import SyntheticMarket.Proofs.Broadcast.Progress

/-! The course of a hub. It is started and stopped, clients come and go, anything is published,
relays take their turns and time passes, in any order. Whatever single turns and pauses keep is kept
while the relays settle and while they run for some time. -/

namespace SyntheticMarket

namespace Relay

variable {relay after : Relay} {room later : Room}

/-- The relay takes no more values: it was stopped, or it broke down. -/
def IsOver (relay : Relay) : Prop := relay.phase = .cancelled ∨ relay.IsBroken

structure Silent (relay : Relay) : Prop where
  ended : relay.IsOver
  sent : relay.deliveries = []

theorem phase_carry_of_ne (waits : relay.phase ≠ .sending) (room : Room) :
    (relay.carry room).2.phase = relay.phase := by
  simp only [carry]
  split
  · rename_i sending _
    exact absurd sending waits
  · rfl

theorem IsOver.not_sending (ended : relay.IsOver) : relay.phase ≠ .sending := by
  obtain stopped | ⟨breakdown, broken⟩ := ended
  · simp [stopped]
  · simp [broken]

theorem IsOver.not_waiting (ended : relay.IsOver) : relay.phase ≠ .waiting := by
  obtain stopped | ⟨breakdown, broken⟩ := ended
  · simp [stopped]
  · simp [broken]

/-- The failure that a stop of the hub finds at the relay. -/
def breakdown? (relay : Relay) : Option Breakdown :=
  match relay.watched, relay.phase with
  | true, .broken breakdown => some breakdown
  | _, _ => none

def halt (relay : Relay) : Relay := if relay.watched then relay.cancel else relay

theorem breakdown?_eq_none :
    relay.breakdown? = none ↔ (relay.watched = true → ¬relay.IsBroken) := by
  rw [breakdown?]
  split
  · rename_i breakdown watched broken
    exact iff_of_false (by simp) fun unbroken => unbroken watched ⟨breakdown, broken⟩
  · rename_i other
    exact iff_of_true rfl fun watched ⟨breakdown, broken⟩ => other breakdown watched broken

/-- A stop of the hub cancels a relay that is watched and did not break down, and no other one. -/
theorem halt_cases (relay : Relay) :
    ((relay.watched = true → relay.IsBroken) ∧ relay.halt = relay) ∨
      (relay.watched = true ∧ ¬relay.IsBroken ∧
        relay.halt = { relay with phase := .cancelled, deliveries := [], lost := [] }) := by
  rw [halt]
  split
  · rename_i watched
    rw [cancel]
    split
    · rename_i breakdown broken
      exact .inl ⟨fun _ => ⟨breakdown, broken⟩, rfl⟩
    · rename_i unbroken
      exact .inr ⟨watched, fun ⟨breakdown, broken⟩ => unbroken breakdown broken, rfl⟩
  · rename_i unwatched
    exact .inl ⟨fun watched => absurd watched unwatched, rfl⟩

theorem Silent.halt (silent : relay.Silent) : relay.halt.Silent := by
  obtain ⟨_, same⟩ | ⟨_, _, same⟩ := relay.halt_cases
  · rwa [same]
  · exact same ▸ ⟨.inl rfl, rfl⟩

theorem halt_silent (watched : relay.watched = true) (unbroken : ¬relay.IsBroken) :
    relay.halt.Silent := by
  obtain ⟨broken, _⟩ | ⟨_, _, same⟩ := relay.halt_cases
  · exact absurd (broken watched) unbroken
  · exact same ▸ ⟨.inl rfl, rfl⟩

theorem halt_ended (watched : relay.watched = true) : relay.halt.IsOver := by
  obtain ⟨broken, same⟩ | ⟨_, _, same⟩ := relay.halt_cases
  · rw [same]
    exact .inr (broken watched)
  · exact same ▸ .inl rfl

@[simp] theorem watched_halt (relay : Relay) : relay.halt.watched = relay.watched := by
  obtain ⟨_, same⟩ | ⟨_, _, same⟩ := relay.halt_cases <;> rw [same]

@[simp] theorem breakdown?_halt (relay : Relay) : relay.halt.breakdown? = relay.breakdown? := by
  obtain ⟨_, same⟩ | ⟨_, unbroken, same⟩ := relay.halt_cases
  · rw [same]
  · rw [same, breakdown?_eq_none.mpr fun _ => unbroken]
    exact breakdown?_eq_none.mpr fun _ ⟨_, broken⟩ => Phase.noConfusion broken

/-- A relay that takes up a value drops it, deals it, or breaks down on it. -/
theorem take_cases (relay : Relay) (room : Room) (notice : Notice) :
    relay.take room notice = relay ∨
      (∃ (sockets : List Nat) (messages : List Json), relay.take room notice =
        { relay with
          phase := .sending
          deliveries := sockets.map (room.dispatch messages)
          lost := [] }) ∨
      ∃ breakdown, relay.take room notice = { relay with phase := .broken breakdown } ∧
        (notice.envelope relay.channel = .error breakdown ∨
          ∃ envelope, notice.envelope relay.channel = .ok envelope ∧
            Room.targets envelope room.clients = .error breakdown) := by
  rw [take]
  split
  · exact .inl rfl
  · split
    · rename_i breakdown unread
      exact .inr (.inr ⟨breakdown, rfl, .inl unread⟩)
    · rename_i envelope read
      split
      · rename_i breakdown unaddressed
        exact .inr (.inr ⟨breakdown, rfl, .inr ⟨envelope, read, unaddressed⟩⟩)
      · exact .inl rfl
      · exact .inr (.inl ⟨_, _, rfl⟩)

namespace Turn

theorem watched_eq (turn : Turn relay room later after) : after.watched = relay.watched := by
  cases turn with
  | carry due => rfl
  | finish idle sending done => rfl
  | @take _ _ notice bus taken =>
    obtain same | ⟨_, _, same⟩ | ⟨_, same, _⟩ := relay.take_cases { room with bus } notice <;>
      rw [same]

theorem phase_eq (turn : Turn relay room later after) (ended : relay.IsOver) :
    after.phase = relay.phase := by
  cases turn with
  | carry due => exact phase_carry_of_ne ended.not_sending room
  | finish idle sending done => exact absurd sending ended.not_sending
  | take idle waiting taken => exact absurd waiting ended.not_waiting

theorem isOver (turn : Turn relay room later after) (ended : relay.IsOver) : after.IsOver := by
  rw [IsOver, IsBroken, turn.phase_eq ended]
  exact ended

/-- A relay that is over keeps what a stop of the hub finds there. -/
theorem breakdown?_eq (turn : Turn relay room later after)
    (ended : relay.watched = true → relay.IsOver) : after.breakdown? = relay.breakdown? := by
  rw [breakdown?, breakdown?, turn.watched_eq]
  cases watched : relay.watched with
  | false => rfl
  | true => rw [turn.phase_eq (ended watched)]

theorem not_silent (turn : Turn relay room later after) : ¬relay.Silent := by
  rintro ⟨ended, sent⟩
  cases turn with
  | carry due => simp [hasDue, sent] at due
  | finish idle sending done => exact ended.not_sending sending
  | take idle waiting taken => exact ended.not_waiting waiting

end Turn

end Relay

namespace Hub

/-- What can happen to a hub. It settles when its relays run until none can do anything more, and
it passes some time when they run meanwhile. -/
inductive Affair where
  | start
  | stop
  | connect (link : Link) (subscription : Subscription)
  | disconnect (socket : Nat)
  | publish (topic : String) (notice : Notice)
  | turn (relay : Nat)
  | wait (ms : Int)
  | settle
  | pass (ms : Int)

def meet (hub : Hub) : Affair → Hub
  | .start => hub.start
  | .stop => hub.stop.2
  | .connect link subscription => (hub.connect link subscription).2
  | .disconnect socket => hub.disconnect socket
  | .publish topic notice => hub.publish topic notice
  | .turn number => hub.turn number
  | .wait ms => hub.wait ms
  | .settle => hub.settle
  | .pass ms => hub.pass ms

def course (hub : Hub) (affairs : List Affair) : Hub := affairs.foldl meet hub

theorem course_append (hub : Hub) (first later : List Affair) :
    hub.course (first ++ later) = (hub.course first).course later :=
  List.foldl_append ..

variable {hub : Hub}

theorem breakdown?_eq (hub : Hub) : hub.breakdown? = hub.relays.findSome? Relay.breakdown? := rfl

theorem breakdown?_eq_none :
    hub.breakdown? = none ↔ ∀ relay ∈ hub.relays, relay.watched = true → ¬relay.IsBroken := by
  simp only [breakdown?_eq, List.findSome?_eq_none_iff, Relay.breakdown?_eq_none]

theorem stop_of_broken {breakdown : Breakdown} (broken : hub.breakdown? = some breakdown) :
    hub.stop = (.error breakdown, { hub with relays := hub.relays.map Relay.halt }) := by
  simp only [stop, broken]
  rfl

theorem stop_of_unbroken (unbroken : hub.breakdown? = none) :
    hub.stop = (.ok (), {
      room := { hub.room.clients.foldl close hub.room with clients := [] }
      relays := hub.relays.map fun relay => { relay.halt with watched := false } }) := by
  simp only [stop, unbroken, List.map_map]
  rfl

theorem close_alike (room : Room) (client : Client) : room.Alike (close room client) := by
  rw [close]
  split
  · exact ⟨rfl, rfl, rfl, rfl⟩
  · exact ⟨rfl, rfl, rfl, room.length_sockets_put _ _⟩

theorem closeAll_alike (clients : List Client) (room : Room) :
    room.Alike (clients.foldl close room) := by
  induction clients generalizing room with
  | nil => exact ⟨rfl, rfl, rfl, rfl⟩
  | cons client others ih => exact (close_alike room client).trans (ih _)

@[simp] theorem link_close (room : Room) (client : Client) (number : Nat) :
    (close room client).link number = room.link number := by
  rw [close]
  split
  · rfl
  · exact room.link_put number client.socket _

@[simp] theorem link_closeAll (clients : List Client) (room : Room) (number : Nat) :
    (clients.foldl close room).link number = room.link number := by
  induction clients generalizing room with
  | nil => rfl
  | cons client others ih => rw [List.foldl_cons, ih, link_close]

theorem turn_cases (hub : Hub) (number : Nat) :
    hub.turn number = hub ∨ ∃ relay room after, hub.relays[number]? = some relay ∧
      relay.Turn hub.room room after ∧
      hub.turn number = { room, relays := hub.relays.set number after } := by
  rw [turn]
  cases found : hub.relays[number]? with
  | none => exact .inl rfl
  | some relay =>
    simp only
    cases stepped : relay.step? hub.room with
    | none => exact .inl rfl
    | some result =>
      obtain ⟨room, after⟩ := result
      exact .inr ⟨relay, room, after, rfl, Relay.turn_of_step? stepped, rfl⟩

/-- What a relay keeps in its turns, all relays keep in the turn of one. -/
theorem forall_relays_turn {Holds : Relay → Prop}
    (held : ∀ relay ∈ hub.relays, Holds relay)
    (turned : ∀ relay room after, Holds relay → relay.Turn hub.room room after → Holds after)
    (number : Nat) : ∀ relay ∈ (hub.turn number).relays, Holds relay := by
  obtain same | ⟨relay, room, after, found, turn, same⟩ := hub.turn_cases number
  · rwa [same]
  · rw [same]
    intro other member
    obtain old | rfl := List.mem_or_eq_of_mem_set member
    · exact held other old
    · exact turned relay room other (held relay (List.mem_of_getElem? found)) turn

section Keeps

variable {Holds : Hub → Prop}

/-- A sweep is a turn of each relay, one after the other; here of those after some. -/
theorem sweep_keeps (turned : ∀ hub number, Holds hub → Holds (hub.turn number))
    (before relays : List Relay) {room : Room} (holds : Holds { room, relays := before ++ relays }) :
    Holds { room := (sweep room relays).2.room
            relays := before ++ (sweep room relays).2.relays } := by
  induction relays generalizing before room with
  | nil => exact holds
  | cons relay others ih =>
    have found : (before ++ relay :: others)[before.length]? = some relay := by simp
    have turned := turned _ before.length holds
    simp only [turn, found] at turned
    rw [sweep]
    cases stepped : relay.step? room with
    | none =>
      simp only [stepped] at turned
      have rest := ih (before ++ [relay]) (by simpa using turned)
      simpa using rest
    | some result =>
      obtain ⟨later, after⟩ := result
      simp only [stepped] at turned
      have rest := ih (before ++ [after]) (by simpa using turned)
      simpa using rest

theorem settle_keeps (turned : ∀ hub number, Holds hub → Holds (hub.turn number))
    (holds : Holds hub) : Holds hub.settle := by
  have within : ∀ (count : Nat) (hub : Hub), Holds hub → Holds (settleWithin count hub) := by
    intro count
    induction count with
    | zero => exact fun _ holds => holds
    | succ count ih =>
      intro hub holds
      have swept : Holds (sweep hub.room hub.relays).2 := sweep_keeps turned [] hub.relays holds
      rw [settleWithin]
      simp only
      split
      · exact ih _ swept
      · exact swept
  exact within _ hub holds

theorem pass_keeps (turned : ∀ hub number, Holds hub → Holds (hub.turn number))
    (waited : ∀ hub ms, Holds hub → Holds (hub.wait ms)) (ms : Int)
    (holds : Holds hub) : Holds (hub.pass ms) := by
  have reached : ∀ hub moment, Holds hub → Holds (hub.reach moment) := by
    intro hub moment holds
    rw [reach_eq]
    exact waited hub _ holds
  have within : ∀ (final : Int) (count : Nat) (hub : Hub), Holds hub →
      Holds (passWithin final count hub) := by
    intro final count
    induction count with
    | zero => exact fun hub holds => reached hub final holds
    | succ count ih =>
      intro hub holds
      rw [passWithin]
      split
      · split
        · exact ih _ (settle_keeps turned (reached hub _ holds))
        · exact reached hub final holds
      · exact reached hub final holds
  exact within _ _ hub holds

/-- What every affair of some kind keeps is kept by a course of them. -/
theorem course_keeps {Allowed : Affair → Prop}
    (met : ∀ hub affair, Allowed affair → Holds hub → Holds (hub.meet affair))
    {affairs : List Affair} (allowed : ∀ affair ∈ affairs, Allowed affair)
    (holds : Holds hub) : Holds (hub.course affairs) := by
  induction affairs generalizing hub with
  | nil => exact holds
  | cons affair later ih =>
    obtain ⟨first, rest⟩ := List.forall_mem_cons.mp allowed
    exact ih rest (met hub affair first holds)

end Keeps

end Hub

end SyntheticMarket
