import SyntheticMarket.Proofs.Broadcast.Course
import SyntheticMarket.Proofs.Wire

/-! Delivery to the clients of a started hub. Each client gets the updates that it wants, of those
that were taken up while it was there, each once and in their order; one that a message does not
reach gets nothing more and is removed, and nobody else notices. -/

namespace SyntheticMarket

/-- A client can read the messages of an update off what it is told. -/
theorem Update.read_told (update : Update Float) :
    update.told.mapM Wire.message? = some update.messages := by
  rw [told, List.map_map]
  refine (Json.mapM_read Wire.message?_barMessage update.messages).trans ?_
  rw [List.map_id']

namespace Hub

def IsIdle (hub : Hub) : Prop := ∃ bars, hub.relays[0]? = some bars ∧ bars.phase = .waiting

def mailbox (capacity : Int) (moves : List Move) : Mailbox Notice :=
  (Mailbox.opened Event.tickTopic).run capacity 0 (note asks (opening capacity) moves)

/-- What a started hub did with the updates that were published and for the clients that came. -/
structure Faithful (capacity : Int) (moves : List Move) (hub : Hub) : Prop where
  /-- The updates that were taken up are those published, in order, less the ones that the full
  queue evicted at its front and those that still wait. -/
  heard : (mailbox capacity moves).heard = (moves.filterMap Move.update?).map .ofUpdate
  balanced : (mailbox capacity moves).Balanced capacity
  taken : (mailbox capacity moves).taken =
    ((opening capacity).takings moves).map fun taking => .ofUpdate taking.update
  waiting : hub.room.bus.queue 0 = (mailbox capacity moves).waiting
  /-- At any time what a client got is a beginning of what it was dealt. -/
  ordered : ∀ number,
    hub.room.messages number <+: (deals ((opening capacity).takings moves) number).flatten
  /-- A client that takes all messages in time has all it was dealt, and it is removed only if it
  leaves. -/
  whole : hub.IsIdle → ∀ number,
    let dealt := (deals ((opening capacity).takings moves) number).flatten
    hub.room.Accepts number dealt.length → hub.room.messages number = dealt ∧
      ∀ client ∈ (roll moves).clients, client.socket = number → client ∈ hub.room.clients
  /-- A client that does not misses a rest of its last deal, from the first message on that did not
  reach it, and it is removed. -/
  cut : hub.IsIdle → ∀ number,
    let dealt := deals ((opening capacity).takings moves) number
    ¬hub.room.Accepts number dealt.flatten.length →
      (∃ missing ≠ [], Dealt dealt (hub.room.messages number) missing) ∧
        (hub.room.nextSend number).2 ≠ .delivered ∧
        ∀ client ∈ hub.room.clients, client.socket ≠ number
  /-- Nobody else is there. -/
  listed : hub.room.clients.Sublist (roll moves).clients

end Hub

namespace Books

variable {deals : Nat → List (List Json)} {roll : List Client} {room : Room}
  {deliveries : List Delivery} {lost : List Nat} {wrecked : Prop} {number : Nat}

theorem ordered (books : Books deals roll room deliveries lost wrecked) (number : Nat) :
    room.messages number <+: (deals number).flatten := by
  obtain served | fallen := books.standing number
  · exact ⟨_, served.dealt.got_append_missing⟩
  · obtain ⟨missing, _, dealt⟩ := fallen.dealt
    exact ⟨missing, dealt.got_append_missing⟩

theorem not_accepts (fallen : Fallen deals room deliveries lost wrecked number) :
    ¬room.Accepts number (deals number).flatten.length := by
  intro accepts
  obtain ⟨missing, some, dealt⟩ := fallen.dealt
  refine fallen.fails (accepts _ ?_)
  rw [← dealt.got_append_missing, List.length_append]
  exact Nat.lt_add_of_pos_right (List.length_pos_iff.mpr some)

theorem whole (books : Books deals roll room [] lost wrecked)
    (accepts : room.Accepts number (deals number).flatten.length) :
    room.messages number = (deals number).flatten ∧
      ∀ client ∈ roll, client.socket = number → client ∈ room.clients := by
  obtain served | fallen := books.standing number
  · exact ⟨served.dealt.got_eq, served.listed⟩
  · exact absurd accepts (not_accepts fallen)

theorem cut (books : Books deals roll room [] [] False)
    (refuses : ¬room.Accepts number (deals number).flatten.length) :
    (∃ missing ≠ [], Dealt (deals number) (room.messages number) missing) ∧
      (room.nextSend number).2 ≠ .delivered ∧ ∀ client ∈ room.clients, client.socket ≠ number := by
  obtain served | fallen := books.standing number
  · have all : room.messages number = (deals number).flatten := served.dealt.got_eq
    exact absurd (all ▸ books.steady number) refuses
  · obtain ⟨missing, some, dealt⟩ := fallen.dealt
    refine ⟨⟨missing, some, dealt⟩, fallen.fails, ?_⟩
    obtain among | never | out := fallen.out
    · exact absurd among List.not_mem_nil
    · exact never.elim
    · exact out

end Books

namespace Hub

theorem opening_faithful (capacity : Int) (moves : List Move) :
    Faithful capacity moves ((opening capacity).play moves) := by
  obtain ⟨bars, ledger⟩ := (Ledger.opening capacity).play moves
  simp only [List.nil_append] at ledger
  have atRest : ((opening capacity).play moves).IsIdle →
      Books (deals ((opening capacity).takings moves)) (SyntheticMarket.roll moves).clients
        ((opening capacity).play moves).room [] [] False := by
    rintro ⟨idle, first, waiting⟩
    rw [ledger.relays] at first
    cases first
    obtain ⟨nothing, nobody, unbroken⟩ := ledger.at_rest waiting
    have books := ledger.books.rephrase (iff_false_intro unbroken)
    rw [nothing, nobody] at books
    exact books
  exact {
    heard := ledger.posted.heard_eq
    balanced := ledger.posted.balanced
    taken := ledger.posted.taken_eq
    waiting := ledger.posted.queue_bars
    ordered := ledger.books.ordered
    whole := fun idle number => (atRest idle).whole
    cut := fun idle number => (atRest idle).cut
    listed := ledger.listed }

/-- What is done to a hub from outside. After each of them the relays come to rest. -/
inductive Operation where
  | connect (link : Link) (subscription : Subscription)
  | disconnect (socket : Nat)
  | publish (updates : List (Update Float))
  | pass (ms : Int)

namespace Operation

def moves : Operation → List Move
  | connect link subscription => [.connect link subscription]
  | disconnect socket => [.disconnect socket]
  | publish updates => updates.map .publish
  | pass _ => []

def ms : Operation → Int
  | pass ms => ms
  | _ => 0

end Operation

def operate (hub : Hub) : Operation → Hub
  | .connect link subscription => (hub.connect link subscription).2.settle
  | .disconnect socket => (hub.disconnect socket).settle
  | .publish updates =>
    (updates.foldl (fun hub update => hub.publish Event.tickTopic (.ofUpdate update)) hub).settle
  | .pass ms => (hub.pass ms).settle

theorem passed_turn (hub : Hub) (number : Nat) :
    (hub.turn number).room.passed = hub.room.passed := by
  obtain same | ⟨relay, room, after, _, turn, same⟩ := hub.turn_cases number
  · rw [same]
  · rw [same]
    cases turn with
    | carry due => exact (Round.carryAll_alike _ relay.deliveries).passed
    | finish idle sending done => rfl
    | take idle waiting taken => rfl

theorem passed_settle (hub : Hub) : hub.settle.room.passed = hub.room.passed := by
  have turned : ∀ (other : Hub) (number : Nat), other.room.passed = hub.room.passed →
      (other.turn number).room.passed = hub.room.passed :=
    fun other number same => (passed_turn other number).trans same
  exact settle_keeps turned rfl

theorem passed_publishAll (hub : Hub) (updates : List (Update Float)) :
    (hub.play (updates.map .publish)).room.passed = hub.room.passed := by
  induction updates generalizing hub with
  | nil => rfl
  | cons update later ih => exact ih (hub.publish Event.tickTopic (.ofUpdate update))

theorem publishAll_eq (hub : Hub) (updates : List (Update Float)) :
    updates.foldl (fun hub update => hub.publish Event.tickTopic (.ofUpdate update)) hub =
      hub.play (updates.map .publish) := by
  rw [play, List.foldl_map]
  rfl

end Hub

namespace Ledger

variable {capacity : Int} {hub : Hub} {bars : Relay} {box : Mailbox Notice}
  {published : List (Update Float)} {past : List Taking} {roll : Roll}

/-- Moves from outside, with the rest that the hub comes to after them. -/
theorem settle_play (ledger : Ledger capacity hub bars box published past roll)
    (moves : List Hub.Move) :
    (hub.play moves).settle.Still ∧
      (hub.play moves).settle.room.passed = (hub.play moves).room.passed ∧
      ∃ pause, pause.all Hub.Move.isInside = true ∧
        (hub.play moves).settle = hub.play (moves ++ pause) := by
  obtain ⟨later, played⟩ := ledger.play moves
  obtain ⟨still, turns, settled⟩ := played.settle_still
  refine ⟨still, Hub.passed_settle _, List.replicate turns (.turn 0), ?_, ?_⟩
  · simp [Hub.Move.isInside]
  · rw [settled, Hub.play_append]

theorem operate (ledger : Ledger capacity hub bars box published past roll) (still : hub.Still)
    (operation : Hub.Operation) :
    (hub.operate operation).Still ∧
      (hub.operate operation).room.passed = hub.room.passed + operation.ms ∧
      ∃ pause, pause.all Hub.Move.isInside = true ∧
        hub.operate operation = hub.play (operation.moves ++ pause) := by
  cases operation with
  | connect link subscription =>
    obtain ⟨still, passed, pause⟩ := ledger.settle_play [.connect link subscription]
    exact ⟨still, passed.trans (Int.add_zero _).symm, pause⟩
  | disconnect socket =>
    obtain ⟨still, passed, pause⟩ := ledger.settle_play [.disconnect socket]
    exact ⟨still, passed.trans (Int.add_zero _).symm, pause⟩
  | publish updates =>
    obtain ⟨still, passed, pause⟩ := ledger.settle_play (updates.map .publish)
    rw [Hub.operate, hub.publishAll_eq]
    exact ⟨still, passed.trans ((hub.passed_publishAll updates).trans (Int.add_zero _).symm), pause⟩
  | pass ms =>
    obtain ⟨_, reached, before, inside, played⟩ := ledger.pass_still still ms
    obtain ⟨still, passed, after, inside', settled⟩ := ledger.settle_play before
    rw [← played] at still passed settled
    refine ⟨still, passed.trans reached, before ++ after, ?_, settled⟩
    rw [List.all_append, inside, inside', Bool.and_self]

theorem operateAll (ledger : Ledger capacity hub bars box published past roll)
    (still : hub.Still) (operations : List Hub.Operation) :
    (operations.foldl Hub.operate hub).Still ∧
      (operations.foldl Hub.operate hub).room.passed =
        hub.room.passed + (operations.map (·.ms)).sum ∧
      ∃ turns : List (Hub.Operation × List Hub.Move), turns.map (·.1) = operations ∧
        (∀ turn ∈ turns, turn.2.all Hub.Move.isInside = true) ∧
        operations.foldl Hub.operate hub =
          hub.play (turns.flatMap fun turn => turn.1.moves ++ turn.2) := by
  induction operations generalizing hub bars box published past roll with
  | nil => exact ⟨still, (Int.add_zero _).symm, [], rfl, nofun, rfl⟩
  | cons operation later ih =>
    obtain ⟨rested, passed, pause, inside, played⟩ := ledger.operate still operation
    obtain ⟨between, moved⟩ := ledger.play (operation.moves ++ pause)
    rw [← played] at moved
    obtain ⟨ended, sum, turns, same, all, whole⟩ := ih moved rested
    refine ⟨ended, ?_, (operation, pause) :: turns, ?_, ?_, ?_⟩
    · rw [List.foldl_cons, sum, passed, List.map_cons, List.sum_cons, Int.add_assoc]
    · rw [List.map_cons, same]
    · exact List.forall_mem_cons.mpr ⟨inside, all⟩
    · rw [List.foldl_cons, whole, played]
      exact (Hub.play_append _ _ _).symm

/-- A hub at rest has no update in its queue that it could take up; unless a socket breaks it, it is
idle or waits for a message that is due later. -/
theorem at_halt (ledger : Ledger capacity hub bars box published past roll) (still : hub.Still) :
    (hub.IsIdle → hub.room.bus.queue 0 = []) ∧
      (¬hub.room.Breakable →
        hub.IsIdle ∨ ∃ due, hub.nextDue? = some due ∧ hub.room.passed < due) := by
  have first : hub.relays[0]? = some bars := by rw [ledger.relays]; rfl
  obtain ⟨notDue, held, empty⟩ := Relay.step?_eq_none.mp (still bars (List.mem_of_getElem? first))
  refine ⟨?_, fun unbreakable => ?_⟩
  · rintro ⟨idle, same, waiting⟩
    obtain rfl : bars = idle := Option.some.inj (first.symm.trans same)
    exact ledger.queue ▸ empty waiting
  · obtain ⟨waiting, _⟩ | sending | broken := ledger.phase
    · exact .inl ⟨bars, first, waiting⟩
    · rw [ledger.nextDue?_eq]
      cases least : (bars.deliveries.map Delivery.due).min? with
      | none =>
        rw [List.min?_eq_none_iff, List.map_eq_nil_iff] at least
        exact absurd least (held sending)
      | some due =>
        obtain ⟨delivery, member, same⟩ := List.mem_map.mp (List.min?_eq_some_iff.mp least).1
        have early := List.any_eq_false.mp notDue delivery member
        exact .inr ⟨due, rfl, by simpa [same] using early⟩
    · exact absurd (ledger.books.breaks broken) unbreakable

end Ledger

namespace Hub

theorem opening_still (capacity : Int) : (opening capacity).Still :=
  (Ledger.opening capacity).still_of_step?
    (Relay.step?_eq_none.mpr ⟨rfl, nofun, fun _ => rfl⟩)

/-- Whatever happens to a started hub and in whatever order, it is faithful to its clients. So is it
under the operations in which it runs: each is its moves from outside and then moves of the hub
itself, up to where nothing can be done without time passing. If the relay is idle then, no update
waits; and it is idle, or waits for a message that is due later, unless a socket breaks it. What a
client is dealt for an update can be read as its messages: first the one about the closed candle, if
there is one, and then the one about the live candle. -/
theorem run_delivered (capacity : Int) :
    (∀ moves, Faithful capacity moves ((opening capacity).play moves)) ∧
      (∀ operations : List Operation,
        let hub := operations.foldl operate (opening capacity)
        (∃ turns : List (Operation × List Move), turns.map (·.1) = operations ∧
          (∀ turn ∈ turns, turn.2.all Move.isInside = true) ∧
          hub = (opening capacity).play (turns.flatMap fun turn => turn.1.moves ++ turn.2) ∧
          Faithful capacity (turns.flatMap fun turn => turn.1.moves ++ turn.2) hub) ∧
        hub.room.passed = (operations.map (·.ms)).sum ∧ hub.Still ∧
        (hub.IsIdle → hub.room.bus.queue 0 = []) ∧
        (¬hub.room.Breakable →
          hub.IsIdle ∨ ∃ due, hub.nextDue? = some due ∧ hub.room.passed < due)) ∧
      ∀ update : Update Float,
        update.told.mapM Wire.message? = some update.messages ∧
          update.messages.map (·.bar) = update.closedBar.toList ++ [update.bar] := by
  refine ⟨opening_faithful capacity, fun operations => ?_,
    fun update => ⟨update.read_told, update.bars_messages⟩⟩
  have opened := Ledger.opening capacity
  obtain ⟨still, passed, turns, same, inside, played⟩ :=
    opened.operateAll (opening_still capacity) operations
  have faithful := opening_faithful capacity (turns.flatMap fun turn => turn.1.moves ++ turn.2)
  obtain ⟨_, ledger⟩ := opened.play (turns.flatMap fun turn => turn.1.moves ++ turn.2)
  rw [← played] at faithful ledger
  have opened : (opening capacity).room.passed = 0 := rfl
  rw [opened, Int.zero_add] at passed
  exact ⟨⟨turns, same, inside, played, faithful⟩, passed, still, ledger.at_halt still⟩

/-- Of three clients the second refuses the second message of an update: it keeps the first one and
is removed, and the two others, of which one is slow, get both. -/
example :
    let bar : Candle Float :=
      { time := 0, opening := 1.0, high := 1.0, low := 1.0, closing := 1.0, volume := none }
    let update : Update Float :=
      { symbol := "A", timeframe := "1m", transition := .rollover, bar, closedBar := some bar }
    let hub := [Operation.connect .prompt { symbol := "A", timeframes := none },
      .connect (.uneven [(0, .delivered), (0, .lost)]) { symbol := "A", timeframes := none },
      .connect (.lagging 7) { symbol := "A", timeframes := some ["1m"] },
      .publish [update], .pass 20].foldl operate (opening 1)
    hub.relays.map (·.phase) = [.waiting, .waiting] ∧
      [0, 1, 2].map (fun number => (hub.room.messages number).length) = [2, 1, 2] ∧
      hub.room.clients.map (·.socket) = [0, 2] := by
  decide +kernel

end Hub

end SyntheticMarket
