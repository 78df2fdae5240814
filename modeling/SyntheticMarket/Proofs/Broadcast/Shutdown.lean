import SyntheticMarket.Proofs.Broadcast.Breakdown

/-! A hub that is stopped. Unless a relay broke down, every client is asked to close, each of them
once, nobody stays registered, no relay stays watched, and nothing is sent until the next start. A
relay that broke down prevents all of that: the stop tells the breakdown and asks nobody, and so
does every later one. -/

namespace SyntheticMarket

namespace Room

variable {room later : Room} {number other : Nat} {frame : Frame}

structure Orderly (room : Room) : Prop where
  within : ∀ client ∈ room.clients, client.socket < room.sockets.length
  distinct : (room.clients.map (·.socket)).Nodup

theorem Orderly.mono (orderly : room.Orderly) (clients : later.clients.Sublist room.clients)
    (sockets : later.sockets.length = room.sockets.length) : later.Orderly :=
  ⟨fun client member => sockets ▸ orderly.within client (clients.subset member),
    orderly.distinct.sublist (clients.map _)⟩

theorem Orderly.turn {relay after : Relay} (orderly : room.Orderly)
    (turn : relay.Turn room later after) : later.Orderly := by
  cases turn with
  | carry due =>
    have alike := (Round.mk room [] relay.lost none).carryAll_alike relay.deliveries
    exact orderly.mono (alike.clients ▸ List.Sublist.refl _) alike.sockets
  | finish idle sending done => exact orderly.mono List.filter_sublist rfl
  | take idle waiting taken => exact orderly.mono (List.Sublist.refl _) rfl

def frames (room : Room) (number : Nat) : List Frame :=
  match room.sockets[number]? with
  | some socket => socket.frames
  | none => []

theorem frames_put (within : other < room.sockets.length) (frame : Frame) (number : Nat) :
    (room.put other frame).frames number =
      room.frames number ++ if number = other then [frame] else [] := by
  by_cases same : number = other
  · subst same
    simp [frames, put, within]
  · simp [frames, put, same, Ne.symm same]

theorem messages_put_unread (unread : frame.message? = none) (number : Nat) :
    (room.put other frame).messages number = room.messages number := by
  by_cases same : number = other
  · subst same
    cases found : room.sockets[number]? <;> simp [messages, put, found, Socket.messages, unread]
  · exact messages_put_other same

end Room

theorem findSome?_set {γ δ : Type} {look : γ → Option δ} {items : List γ} {place : Nat}
    {old new : γ} (found : items[place]? = some old) (same : look new = look old) :
    (items.set place new).findSome? look = items.findSome? look := by
  induction items generalizing place with
  | nil => rfl
  | cons first others ih =>
    cases place with
    | zero =>
      obtain rfl : first = old := Option.some.inj found
      rw [List.set_cons_zero, List.findSome?_cons, List.findSome?_cons, same]
    | succ place => rw [List.set_cons_succ, List.findSome?_cons, List.findSome?_cons, ih found]

namespace Hub

variable {hub : Hub}

/-- The relays that stopping the hub stops. -/
def tasks (hub : Hub) : List Relay := hub.relays.filter (·.watched)

theorem unbroken_iff :
    hub.breakdown? = none ↔ ∀ relay ∈ hub.tasks, ¬relay.IsBroken := by
  simp [breakdown?_eq_none, tasks]

def closeNoted (noted : Room × List Nat) (client : Client) : Room × List Nat :=
  (close noted.1 client, noted.2 ++ [client.socket])

/-- A stop beside the list of the sockets that it asks to close. -/
def stopNoted (hub : Hub) : (Except Breakdown Unit × Hub) × List Nat :=
  match hub.breakdown? with
  | some breakdown => ((.error breakdown, { hub with relays := hub.relays.map Relay.halt }), [])
  | none =>
    let closed := hub.room.clients.foldl closeNoted (hub.room, [])
    ((.ok (), {
      room := { closed.1 with clients := [] }
      relays := hub.relays.map fun relay => { relay.halt with watched := false } }), closed.2)

theorem closeAllNoted (clients : List Client) (room : Room) (asked : List Nat) :
    clients.foldl closeNoted (room, asked) =
      (clients.foldl close room, asked ++ clients.map (·.socket)) := by
  induction clients generalizing room asked with
  | nil => simp
  | cons client others ih => rw [List.foldl_cons, closeNoted, ih]; simp

theorem stopNoted_stop (hub : Hub) : hub.stopNoted.1 = hub.stop := by
  cases found : hub.breakdown? with
  | some breakdown => simp only [stopNoted, found, stop_of_broken found]
  | none => simp only [stopNoted, found, stop_of_unbroken found, closeAllNoted]

theorem frames_close {room : Room} {client : Client} (within : client.socket < room.sockets.length)
    (number : Nat) : (close room client).frames number = room.frames number ++
      if number = client.socket ∧ room.link number ≠ .unclosable then [.closed 1000 ""] else [] := by
  rw [close]
  split
  · rename_i unclosable
    rw [if_neg, List.append_nil]
    rintro ⟨rfl, closable⟩
    exact closable unclosable
  · rename_i closable
    rw [Room.frames_put within]
    congr 1
    by_cases same : number = client.socket
    · rw [if_pos same, if_pos ⟨same, same ▸ closable⟩]
    · rw [if_neg same, if_neg fun both => same both.1]

/-- The closing frame is on the sockets of the clients, once, where it can be put. -/
theorem frames_closeAll {clients : List Client} {room : Room}
    (within : ∀ client ∈ clients, client.socket < room.sockets.length)
    (distinct : (clients.map (·.socket)).Nodup) (number : Nat) :
    (clients.foldl close room).frames number = room.frames number ++
      if number ∈ clients.map (·.socket) ∧ room.link number ≠ .unclosable then [.closed 1000 ""]
      else [] := by
  induction clients generalizing room with
  | nil => simp
  | cons client others ih =>
    obtain ⟨first, rest⟩ := List.forall_mem_cons.mp within
    rw [List.map_cons, List.nodup_cons] at distinct
    rw [← (close_alike room client).sockets] at rest
    rw [List.foldl_cons, ih rest distinct.2, frames_close first, link_close, List.append_assoc]
    congr 1
    by_cases same : number = client.socket
    · have absent : number ∉ others.map (·.socket) := same ▸ distinct.1
      simp [same, distinct.1]
    · simp [same]

theorem messages_closeAll (clients : List Client) (room : Room) (number : Nat) :
    (clients.foldl close room).messages number = room.messages number := by
  induction clients generalizing room with
  | nil => rfl
  | cons client others ih =>
    rw [List.foldl_cons, ih, close]
    split
    · rfl
    · exact Room.messages_put_unread rfl number

section Registered

theorem orderly_stop (orderly : hub.room.Orderly) : hub.stop.2.room.Orderly := by
  cases found : hub.breakdown? with
  | some breakdown => rwa [stop_of_broken found]
  | none =>
    rw [stop_of_unbroken found]
    exact ⟨fun _ absent => absurd absent List.not_mem_nil, List.nodup_nil⟩

theorem orderly_connect (orderly : hub.room.Orderly) (link : Link) (subscription : Subscription) :
    (hub.connect link subscription).2.room.Orderly := by
  constructor
  · intro client member
    simp only [connect, List.length_append, List.length_singleton]
    obtain old | new := List.mem_append.mp member
    · exact Nat.lt_succ_of_lt (orderly.within client old)
    · obtain rfl := List.mem_singleton.mp new
      exact Nat.lt_succ_self _
  · simp only [connect, List.map_append, List.map_singleton]
    refine List.nodup_append.mpr ⟨orderly.distinct, List.nodup_singleton _, ?_⟩
    intro number among other fresh same
    obtain ⟨client, member, rfl⟩ := List.mem_map.mp among
    have within := orderly.within client member
    rw [same, List.mem_singleton.mp fresh] at within
    exact Nat.lt_irrefl _ within

theorem orderly_turn (hub : Hub) (number : Nat) (orderly : hub.room.Orderly) :
    (hub.turn number).room.Orderly := by
  obtain same | ⟨relay, room, after, _, turn, same⟩ := hub.turn_cases number
  · rwa [same]
  · exact same ▸ orderly.turn turn

theorem orderly_meet (hub : Hub) (affair : Affair) (_ : True) (orderly : hub.room.Orderly) :
    (hub.meet affair).room.Orderly := by
  have waited : ∀ (hub : Hub) (ms : Int), hub.room.Orderly → (hub.wait ms).room.Orderly :=
    fun _ _ orderly => ⟨orderly.within, orderly.distinct⟩
  cases affair with
  | start => exact ⟨orderly.within, orderly.distinct⟩
  | stop => exact orderly_stop orderly
  | connect link subscription => exact orderly_connect orderly link subscription
  | disconnect socket => exact orderly.mono List.filter_sublist rfl
  | publish topic notice => exact ⟨orderly.within, orderly.distinct⟩
  | turn number => exact orderly_turn hub number orderly
  | wait ms => exact waited hub ms orderly
  | settle => exact settle_keeps orderly_turn orderly
  | pass ms => exact pass_keeps orderly_turn waited ms orderly

theorem orderly_course (capacity : Int) (affairs : List Affair) :
    ((empty capacity).course affairs).room.Orderly :=
  course_keeps orderly_meet (fun _ _ => trivial)
    ⟨fun _ absent => absurd absent List.not_mem_nil, List.nodup_nil⟩

end Registered

/-- The hub can be stopped: all clients are asked to close, once, and see the closing frame if their
socket can be closed; then neither clients nor relays are left to it. -/
structure Cleaned (hub : Hub) : Prop where
  answer : hub.stop.1 = .ok ()
  asked : hub.stopNoted.2 = hub.room.clients.map (·.socket)
  once : (hub.room.clients.map (·.socket)).Nodup
  frames : ∀ number, hub.stop.2.frames number = hub.frames number ++
    if number ∈ hub.room.clients.map (·.socket) ∧ hub.room.link number ≠ .unclosable then
      [.closed 1000 ""]
    else []
  clients : hub.stop.2.room.clients = []
  tasks : hub.stop.2.tasks = []

theorem cleaned_iff (orderly : hub.room.Orderly) :
    hub.Cleaned ↔ ∀ relay ∈ hub.tasks, ¬relay.IsBroken := by
  rw [← unbroken_iff]
  constructor
  · intro cleaned
    cases found : hub.breakdown? with
    | none => rfl
    | some breakdown =>
      have answer := cleaned.answer
      rw [stop_of_broken found] at answer
      cases answer
  · intro unbroken
    have stopped := stop_of_unbroken unbroken
    refine ⟨by rw [stopped], ?_, orderly.distinct, fun number => ?_, by rw [stopped], ?_⟩
    · simp only [stopNoted, unbroken, closeAllNoted, List.nil_append]
    · rw [stopped]
      exact frames_closeAll orderly.within orderly.distinct number
    · rw [stopped, Hub.tasks, List.filter_eq_nil_iff]
      exact List.forall_mem_map.mpr fun relay _ => Bool.false_ne_true

/-- A hub whose stops find that breakdown until the next start. -/
structure Wrecked (breakdown : Breakdown) (hub : Hub) : Prop where
  found : hub.breakdown? = some breakdown
  ended : ∀ relay ∈ hub.relays, relay.watched = true → relay.IsOver

section Wrecked

variable {breakdown : Breakdown}

theorem stop_wrecked (found : hub.breakdown? = some breakdown) :
    Wrecked breakdown hub.stop.2 := by
  rw [stop_of_broken found]
  constructor
  · rw [breakdown?_eq] at found ⊢
    rw [← found, List.findSome?_map]
    exact congrArg (hub.relays.findSome? ·) (funext Relay.breakdown?_halt)
  · refine List.forall_mem_map.mpr fun relay _ watched => ?_
    rw [Relay.watched_halt] at watched
    exact Relay.halt_ended watched

theorem Wrecked.turn (hub : Hub) (number : Nat) (wrecked : Wrecked breakdown hub) :
    Wrecked breakdown (hub.turn number) := by
  refine ⟨?_, forall_relays_turn wrecked.ended (fun relay room after ended turn watched => ?_) _⟩
  · obtain same | ⟨relay, room, after, found, turn, same⟩ := hub.turn_cases number
    · rw [same]
      exact wrecked.found
    · have kept := turn.breakdown?_eq (wrecked.ended relay (List.mem_of_getElem? found))
      rw [same, breakdown?_eq, findSome?_set found kept]
      exact wrecked.found
  · exact turn.isOver (ended (turn.watched_eq ▸ watched))

theorem Wrecked.meet (hub : Hub) (affair : Affair) (unstarted : affair ≠ .start)
    (wrecked : Wrecked breakdown hub) : Wrecked breakdown (hub.meet affair) := by
  have waited : ∀ (hub : Hub) (ms : Int), Wrecked breakdown hub → Wrecked breakdown (hub.wait ms) :=
    fun _ _ wrecked => ⟨wrecked.found, wrecked.ended⟩
  cases affair with
  | start => exact absurd rfl unstarted
  | stop => exact stop_wrecked wrecked.found
  | connect link subscription => exact ⟨wrecked.found, wrecked.ended⟩
  | disconnect socket => exact ⟨wrecked.found, wrecked.ended⟩
  | publish topic notice => exact ⟨wrecked.found, wrecked.ended⟩
  | turn number => exact .turn hub number wrecked
  | wait ms => exact waited hub ms wrecked
  | settle => exact settle_keeps Wrecked.turn wrecked
  | pass ms => exact pass_keeps Wrecked.turn waited ms wrecked

end Wrecked

/-- A hub that sends nothing: each socket has the messages told, and no relay does anything. -/
structure Quiet (told : Nat → List Json) (hub : Hub) : Prop where
  relays : ∀ relay ∈ hub.relays, relay.Silent
  messages : ∀ number, hub.room.messages number = told number

section Quiet

variable {told : Nat → List Json}

theorem messages_connect (hub : Hub) (link : Link) (subscription : Subscription) (number : Nat) :
    (hub.connect link subscription).2.room.messages number = hub.room.messages number := by
  simp only [Room.messages, connect]
  obtain before | fresh | beyond := Nat.lt_trichotomy number hub.room.sockets.length
  · rw [List.getElem?_append_left before]
  · subst fresh
    simp [Socket.messages, Frame.message?]
  · have past : hub.room.sockets.length ≤ number := Nat.le_of_lt beyond
    rw [List.getElem?_append_right past, List.getElem?_eq_none past,
      List.getElem?_eq_none (Nat.le_sub_of_add_le' beyond)]

theorem messages_stop (hub : Hub) (number : Nat) :
    hub.stop.2.room.messages number = hub.room.messages number := by
  cases found : hub.breakdown? with
  | some breakdown => rw [stop_of_broken found]
  | none =>
    rw [stop_of_unbroken found]
    exact messages_closeAll hub.room.clients hub.room number

theorem Quiet.turn (hub : Hub) (number : Nat) (quiet : Quiet told hub) :
    Quiet told (hub.turn number) := by
  obtain same | ⟨relay, _, _, found, turn, _⟩ := hub.turn_cases number
  · rwa [same]
  · exact absurd (quiet.relays relay (List.mem_of_getElem? found)) turn.not_silent

theorem silent_stop (halted : ∀ relay ∈ hub.relays, relay.halt.Silent) :
    ∀ relay ∈ hub.stop.2.relays, relay.Silent := by
  cases found : hub.breakdown? with
  | some breakdown =>
    rw [stop_of_broken found]
    exact List.forall_mem_map.mpr halted
  | none =>
    rw [stop_of_unbroken found]
    exact List.forall_mem_map.mpr fun relay member =>
      ⟨(halted relay member).ended, (halted relay member).sent⟩

theorem Quiet.stop (quiet : Quiet told hub) : Quiet told hub.stop.2 :=
  ⟨silent_stop fun relay member => (quiet.relays relay member).halt, fun number =>
    (messages_stop hub number).trans (quiet.messages number)⟩

theorem Quiet.meet (hub : Hub) (affair : Affair) (unstarted : affair ≠ .start)
    (quiet : Quiet told hub) : Quiet told (hub.meet affair) := by
  have waited : ∀ (hub : Hub) (ms : Int), Quiet told hub → Quiet told (hub.wait ms) :=
    fun _ _ quiet => ⟨quiet.relays, quiet.messages⟩
  cases affair with
  | start => exact absurd rfl unstarted
  | stop => exact quiet.stop
  | connect link subscription =>
    exact ⟨quiet.relays, fun number =>
      (messages_connect hub link subscription number).trans (quiet.messages number)⟩
  | disconnect socket => exact ⟨quiet.relays, quiet.messages⟩
  | publish topic notice => exact ⟨quiet.relays, quiet.messages⟩
  | turn number => exact .turn hub number quiet
  | wait ms => exact waited hub ms quiet
  | settle => exact settle_keeps Quiet.turn quiet
  | pass ms => exact pass_keeps Quiet.turn waited ms quiet

end Quiet

/-- No relay is left to itself: one that is not watched sends nothing more. -/
def Attended (hub : Hub) : Prop := ∀ relay ∈ hub.relays, relay.watched = false → relay.Silent

section Attended

theorem Attended.stop_quiet (attended : hub.Attended)
    (unbroken : ∀ relay ∈ hub.tasks, ¬relay.IsBroken) :
    Quiet hub.room.messages hub.stop.2 := by
  refine ⟨silent_stop fun relay member => ?_, messages_stop hub⟩
  cases watched : relay.watched with
  | false => exact (attended relay member watched).halt
  | true => exact Relay.halt_silent watched (unbroken relay (List.mem_filter.mpr ⟨member, watched⟩))

theorem Attended.stop (attended : hub.Attended) : hub.stop.2.Attended := by
  cases found : hub.breakdown? with
  | some breakdown =>
    rw [stop_of_broken found]
    refine List.forall_mem_map.mpr fun relay member unwatched => ?_
    rw [Relay.watched_halt] at unwatched
    exact (attended relay member unwatched).halt
  | none =>
    have quiet := attended.stop_quiet (unbroken_iff.mp found)
    exact fun relay member _ => quiet.relays relay member

/-- A start leaves the relays from before to themselves, unless none of them is watched. -/
theorem Attended.start (attended : hub.Attended) (none : hub.tasks = []) : hub.start.Attended := by
  refine List.forall_mem_append.mpr ⟨List.forall_mem_map.mpr fun relay member _ => ?_, ?_⟩
  · have unwatched : relay.watched = false :=
      Bool.eq_false_iff.mpr (List.filter_eq_nil_iff.mp none relay member)
    have silent := attended relay member unwatched
    exact ⟨silent.ended, silent.sent⟩
  · have watched : ∀ queue channel, (Relay.start queue channel).watched = true := fun _ _ => rfl
    exact List.forall_mem_cons.mpr ⟨fun unwatched => absurd unwatched (by simp [watched]),
      List.forall_mem_singleton.mpr fun unwatched => absurd unwatched (by simp [watched])⟩

theorem Attended.turn (hub : Hub) (number : Nat) (attended : hub.Attended) :
    (hub.turn number).Attended :=
  forall_relays_turn attended (fun _ _ _ held turn unwatched =>
    absurd (held (turn.watched_eq ▸ unwatched)) turn.not_silent) number

theorem Attended.meet (attended : hub.Attended) {affair : Affair}
    (fresh : affair = .start → hub.tasks = []) : (hub.meet affair).Attended := by
  have waited : ∀ (hub : Hub) (ms : Int), hub.Attended → (hub.wait ms).Attended :=
    fun _ _ attended => attended
  cases affair with
  | start => exact attended.start (fresh rfl)
  | stop => exact attended.stop
  | connect link subscription => exact attended
  | disconnect socket => exact attended
  | publish topic notice => exact attended
  | turn number => exact .turn hub number attended
  | wait ms => exact waited hub ms attended
  | settle => exact settle_keeps Attended.turn attended
  | pass ms => exact pass_keeps Attended.turn waited ms attended

/-- No relay is left to itself in a course that starts the hub only where no relay is watched. -/
theorem attended_course {capacity : Int} {affairs : List Affair}
    (fresh : ∀ before, before ++ [.start] <+: affairs →
      ((empty capacity).course before).tasks = []) :
    ((empty capacity).course affairs).Attended := by
  -- The last affair is split off: whether a start is fresh depends on all that came before it.
  induction affairs using List.reverseRecOn with
  | nil => exact fun _ absent => absurd absent List.not_mem_nil
  | append_singleton earlier affair ih =>
    have attended := ih fun before started =>
      fresh before (started.trans (List.prefix_append earlier [affair]))
    rw [course_append]
    refine attended.meet ?_
    rintro rfl
    exact fresh earlier (List.prefix_refl _)

end Attended

/-- A hub that is stopped after any course, whatever failed in it.
- Unless a relay that the stop waits for broke down, all clients are asked to close, once, and
  neither clients nor relays are left.
- No relay breaks down as long as sockets fail in expected ways only and all that is published can
  be read; a socket does if it only refuses, delays or cannot be closed, and every event can.
- Where one broke down, the stop tells that and asks nobody, and every client stays; so does each
  later stop until the next start.
- After a stop that cleaned up nothing is sent until the next start, if the hub was started only
  where no relay was watched. -/
theorem stop_cleans_iff (capacity : Int) (affairs : List Affair) :
    let hub := (empty capacity).course affairs
    hub.stopNoted.1 = hub.stop ∧
      (hub.Cleaned ↔ ∀ relay ∈ hub.tasks, ¬relay.IsBroken) ∧
      ((∀ affair ∈ affairs, affair.Foreseen) → hub.Cleaned) ∧
      (∀ affair : Affair, affair.Foreseen ↔ affair.Usual) ∧
      (∀ breakdown, hub.breakdown? = some breakdown →
        hub.stop.1 = .error breakdown ∧ hub.stopNoted.2 = [] ∧ hub.stop.2.room = hub.room ∧
          ∀ later : List Affair, .start ∉ later →
            (hub.stop.2.course later).stop.1 = .error breakdown) ∧
      (hub.Cleaned →
        (∀ before, before ++ [.start] <+: affairs →
          ((empty capacity).course before).tasks = []) →
        ∀ later : List Affair, .start ∉ later → ∀ number,
          (hub.stop.2.course later).room.messages number = hub.room.messages number) := by
  intro hub
  have cleaned := cleaned_iff (orderly_course capacity affairs)
  refine ⟨stopNoted_stop hub, cleaned, ?_, Affair.foreseen_iff, ?_, ?_⟩
  · intro expected
    refine cleaned.mpr fun relay watched => ?_
    exact course_unbroken expected capacity relay (List.mem_of_mem_filter watched)
  · intro breakdown found
    refine ⟨?_, ?_, ?_, fun later unstarted => ?_⟩
    · rw [stop_of_broken found]
    · simp only [stopNoted, found]
    · rw [stop_of_broken found]
    · have wrecked := course_keeps Wrecked.meet
        (fun affair member same => unstarted (same ▸ member)) (stop_wrecked found)
      rw [stop_of_broken wrecked.found]
  · intro clean fresh later unstarted number
    have quiet := (attended_course fresh).stop_quiet (cleaned.mp clean)
    exact (course_keeps Quiet.meet (fun affair member same => unstarted (same ▸ member))
      quiet).messages number

/-- A client whose socket fails in a way that nobody expects breaks the relay of bars: the hub
cannot be stopped, and neither that client nor the other one is asked to close. -/
theorem failing_socket_prevents_stop :
    let failure : Failure := { kind := "ValueError", text := "crash" }
    let subscription : Subscription := { symbol := "DOT/USDT", timeframes := none }
    let bar : Candle Float :=
      { time := 120, opening := 1.0, high := 1.25, low := 0.75, closing := 1.0, volume := some 5.0 }
    let update : Update Float :=
      { symbol := "DOT/USDT", timeframe := "1m", transition := .update, bar, closedBar := none }
    let hub := (empty 1000).course [.start, .settle, .connect (.failing failure) subscription,
      .settle, .connect .prompt subscription, .settle,
      .publish Event.tickTopic (.ofUpdate update), .settle]
    hub.stop.1 = .error (.socket failure) ∧ hub.stopNoted.2 = [] ∧
      hub.stop.2.room.clients.map (·.socket) = [0, 1] ∧ hub.stop.2.tasks.length = 2 ∧
      [0, 1].map (fun number => (hub.stop.2.frames number).length) = [1, 2] := by
  decide +kernel

/-- Started a second time while its relays were watched, a hub still sends after it was stopped. -/
example :
    let bar : Candle Float :=
      { time := 120, opening := 1.0, high := 1.0, low := 1.0, closing := 1.0, volume := none }
    let update : Update Float :=
      { symbol := "A", timeframe := "1m", transition := .update, bar, closedBar := none }
    let hub := (empty 1000).course [.start, .start, .stop,
      .connect .prompt { symbol := "A", timeframes := none },
      .publish Event.tickTopic (.ofUpdate update), .settle]
    hub.tasks.length = 0 ∧ (hub.room.messages 0).length = 1 := by
  decide +kernel

end Hub

end SyntheticMarket
