import SyntheticMarket.Proofs.Broadcast.Play

/-! The ledger of a started hub: after every move each client has what it was dealt, or what is
missing is on its way, or it fell out at a message that did not reach it. -/

namespace SyntheticMarket

/-- A started hub in step with what was published and taken up, and with its roll. -/
structure Ledger (capacity : Int) (hub : Hub) (bars : Relay) (box : Mailbox Notice)
    (published : List (Update Float)) (past : List Taking) (roll : Roll) : Prop where
  relays : hub.relays = [bars, .start 1 .status]
  queue : bars.queue = 0
  channel : bars.channel = .bars
  phase : (bars.phase = .waiting ∧ bars.deliveries = [] ∧ bars.lost = []) ∨
    bars.phase = .sending ∨ bars.IsBroken
  posted : Posted capacity hub.room.bus box published past
  books : Books (deals past) roll.clients hub.room bars.deliveries bars.lost bars.IsBroken
  next : roll.next = hub.room.sockets.length
  distinct : (roll.clients.map (·.socket)).Nodup
  known : ∀ client ∈ roll.clients, client.socket < roll.next
  listed : hub.room.clients.Sublist roll.clients
  dealtTo : ∀ taking ∈ past, ∀ client ∈ taking.clients, client.socket < roll.next

section Books

variable {deals : Nat → List (List Json)} {roll : List Client} {room later : Room}
  {deliveries : List Delivery} {lost : List Nat} {wrecked : Prop}

/-- The books look at the sockets and the clients only. -/
theorem Books.congr (books : Books deals roll room deliveries lost wrecked)
    (sockets : later.sockets = room.sockets) (clients : later.clients = room.clients) :
    Books deals roll later deliveries lost wrecked := by
  obtain ⟨bus, passed, _, _⟩ := room
  obtain ⟨otherBus, otherPassed, _, _⟩ := later
  obtain rfl : _ = _ := sockets
  obtain rfl : _ = _ := clients
  exact ⟨books.distinct, books.honest, books.steady, fun number =>
    (books.standing number).imp (fun served => ⟨served.dealt, served.kept, served.listed⟩)
      fun fallen => ⟨fallen.fails, fallen.dealt, fallen.silent, fallen.out⟩, books.breaks⟩

theorem Books.rephrase (books : Books deals roll room deliveries lost wrecked) {wrecked' : Prop}
    (same : wrecked ↔ wrecked') : Books deals roll room deliveries lost wrecked' :=
  propext same ▸ books

theorem mem_removeClients {sockets : List Nat} {client : Client} :
    client ∈ (room.removeClients sockets).clients ↔
      client ∈ room.clients ∧ client.socket ∉ sockets := by
  simp [Room.removeClients]

/-- A client that leaves leaves the roll as well. -/
theorem Books.disconnect (books : Books deals roll room deliveries lost wrecked) (socket : Nat) :
    Books deals (roll.filter (·.socket != socket)) (room.removeClients [socket]) deliveries lost
      wrecked := by
  refine ⟨books.distinct, books.honest, books.steady, fun number => ?_, books.breaks⟩
  obtain served | fallen := books.standing number
  · refine .inl ⟨served.dealt, served.kept, fun client member same => ?_⟩
    obtain ⟨listed, other⟩ := List.mem_filter.mp member
    exact mem_removeClients.mpr ⟨served.listed client listed same, by simpa using other⟩
  · refine .inr ⟨fallen.fails, fallen.dealt, fallen.silent, ?_⟩
    exact fallen.out.imp_right (Or.imp_right fun out client member =>
      out client (mem_removeClients.mp member).1)

/-- When the deal is over, those that fell out of it are removed. -/
theorem Books.finish (books : Books deals roll room [] lost False) :
    Books deals roll (room.removeClients lost) [] [] False := by
  refine ⟨books.distinct, nofun, books.steady, fun number => ?_, False.elim⟩
  obtain served | fallen := books.standing number
  · refine .inl ⟨served.dealt, List.not_mem_nil, fun client member same => ?_⟩
    exact mem_removeClients.mpr ⟨served.listed client member same, same ▸ served.kept⟩
  · refine .inr ⟨fallen.fails, fallen.dealt, fallen.silent, .inr (.inr fun client member => ?_)⟩
    obtain ⟨present, remains⟩ := mem_removeClients.mp member
    obtain among | never | out := fallen.out
    · rintro rfl
      exact remains among
    · exact never.elim
    · exact out client present

theorem Dealt.missing_eq_nil {γ : Type} {got missing : List γ} (dealt : Dealt [] got missing) :
    missing = [] := by
  have none := dealt.got_append_missing
  exact (List.append_eq_nil_iff.mp none).2

theorem Books.connect (books : Books deals roll room deliveries lost wrecked) (link : Link)
    (subscription : Subscription) (fresh : deals room.sockets.length = [])
    (known : ∀ client ∈ roll, client.socket < room.sockets.length) :
    let client : Client := { socket := room.sockets.length, subscription }
    let joined : Room :=
      { room with
        sockets := room.sockets ++ [{ link, frames := [.accepted] }]
        clients := room.clients ++ [client] }
    Books deals (roll ++ [client]) joined deliveries lost wrecked := by
  intro client joined
  have sockets : ∀ number ≠ room.sockets.length,
      joined.sockets[number]? = room.sockets[number]? := by
    intro number old
    obtain before | after := Nat.lt_or_gt_of_ne old
    · exact List.getElem?_append_left before
    · rw [List.getElem?_eq_none (by simp [joined]; omega), List.getElem?_eq_none (by omega)]
  have links : ∀ number ≠ room.sockets.length, joined.link number = room.link number := by
    intro number old
    rw [Room.link, Room.link, sockets number old]
  have messages : ∀ number, joined.messages number = room.messages number := by
    intro number
    by_cases new : number = room.sockets.length
    · subst new
      simp [Room.messages, joined, Socket.messages, Frame.message?]
    · rw [Room.messages, Room.messages, sockets number new]
  have nothing : room.messages room.sockets.length = [] := by
    simp [Room.messages]
  have sends : ∀ number ≠ room.sockets.length, joined.nextSend number = room.nextSend number := by
    intro number old
    rw [Room.nextSend, Room.nextSend, messages, links number old]
  refine ⟨books.distinct, ?_, ?_, ?_, fun wreck => ?_⟩
  · intro delivery member
    obtain ⟨waits, within, honest⟩ := books.honest delivery member
    refine ⟨waits, ?_, ?_⟩
    · rw [List.length_append]
      exact Nat.lt_add_right _ within
    · rw [honest, sends _ (Nat.ne_of_lt within)]
  · intro number count before
    rw [messages] at before
    by_cases new : number = room.sockets.length
    · subst new
      rw [nothing] at before
      exact absurd before (Nat.not_lt_zero count)
    · rw [links number new]
      exact books.steady number count before
  · intro number
    by_cases new : number = room.sockets.length
    · subst new
      obtain served | fallen := books.standing room.sockets.length
      · refine .inl ⟨messages _ ▸ served.dealt, served.kept, fun other member same => ?_⟩
        obtain old | last := List.mem_append.mp member
        · exact absurd same (Nat.ne_of_lt (known other old))
        · exact List.mem_append_right _ last
      · obtain ⟨missing, some, dealt⟩ := fallen.dealt
        rw [fresh] at dealt
        exact absurd dealt.missing_eq_nil some
    · obtain served | fallen := books.standing number
      · refine .inl ⟨messages _ ▸ served.dealt, served.kept, fun other member same => ?_⟩
        obtain old | last := List.mem_append.mp member
        · exact List.mem_append_left _ (served.listed other old same)
        · exact List.mem_append_right _ last
      · refine .inr ⟨sends number new ▸ fallen.fails, messages _ ▸ fallen.dealt, fallen.silent, ?_⟩
        refine fallen.out.imp_right (Or.imp_right fun out other member => ?_)
        obtain old | last := List.mem_append.mp member
        · exact out other old
        · obtain rfl := List.mem_singleton.mp last
          exact Ne.symm new
  · obtain ⟨number, old, taken, failure, broke⟩ := books.breaks wreck
    refine ⟨number, ?_, taken, failure, ?_⟩
    · rw [List.length_append]
      exact Nat.lt_add_right _ old
    · rw [links number (Nat.ne_of_lt old), broke]

/-- A deal to some of the clients, made while nothing is on its way. -/
theorem Books.deal (books : Books deals roll room [] [] False) {targets : List Nat}
    (distinct : targets.Nodup) (within : ∀ number ∈ targets, number < room.sockets.length)
    (present : ∀ number ∈ targets, ∃ client ∈ room.clients, client.socket = number)
    {messages : List Json} (some : messages ≠ []) {dealt : Nat → List (List Json)}
    (dealtTo : ∀ number ∈ targets, dealt number = deals number ++ [messages])
    (dealtNot : ∀ number ∉ targets, dealt number = deals number) :
    Books dealt roll room (targets.map (room.dispatch messages)) [] False := by
  have sockets : (targets.map (room.dispatch messages)).map (·.socket) = targets := by
    rw [List.map_map]
    exact List.map_id _
  refine ⟨sockets.symm ▸ distinct, ?_, books.steady, fun number => ?_, False.elim⟩
  · intro delivery member
    obtain ⟨number, target, rfl⟩ := List.mem_map.mp member
    exact ⟨some, within number target, rfl⟩
  · by_cases target : number ∈ targets
    · obtain served | fallen := books.standing number
      · refine .inl ⟨?_, served.kept, served.listed⟩
        have waiting : outstanding (targets.map (room.dispatch messages)) number = messages := by
          obtain ⟨before, after, rfl⟩ := List.append_of_mem target
          rw [List.map_append, List.map_cons] at sockets ⊢
          exact (outstanding_middle (sockets.symm ▸ distinct)).1
        rw [waiting, dealtTo number target]
        exact served.dealt.deal messages
      · obtain among | never | out := fallen.out
        · exact absurd among List.not_mem_nil
        · exact never.elim
        · obtain ⟨client, member, same⟩ := present number target
          exact absurd same (out client member)
    · have silent : outstanding (targets.map (room.dispatch messages)) number = [] :=
        outstanding_eq_nil (sockets.symm ▸ target)
      obtain served | fallen := books.standing number
      · refine .inl ⟨?_, served.kept, served.listed⟩
        rw [dealtNot number target, silent]
        exact served.dealt
      · refine .inr ⟨fallen.fails, ?_, silent, fallen.out⟩
        rw [dealtNot number target]
        exact fallen.dealt

end Books

theorem mem_targets {taking : Taking} {number : Nat} :
    number ∈ taking.targets ↔ ∃ client ∈ taking.clients, client.socket = number ∧
      client.subscription.wants (some taking.update.symbol) (some taking.update.timeframe) := by
  simp only [Taking.targets, List.mem_map, List.mem_filter]
  constructor
  · rintro ⟨client, ⟨among, wanted⟩, same⟩
    exact ⟨client, among, same, wanted⟩
  · rintro ⟨client, among, same, wanted⟩
    exact ⟨client, ⟨among, wanted⟩, same⟩

theorem Update.told_ne_nil (update : Update Float) : update.told ≠ [] := by
  rw [told, messages]
  split <;> simp

namespace Room

/-- Two rooms that differ only in what is on the sockets. -/
structure Alike (room later : Room) : Prop where
  bus : later.bus = room.bus
  passed : later.passed = room.passed
  clients : later.clients = room.clients
  sockets : later.sockets.length = room.sockets.length

theorem Alike.trans {room later last : Room} (first : room.Alike later)
    (second : later.Alike last) : room.Alike last :=
  ⟨second.bus.trans first.bus, second.passed.trans first.passed,
    second.clients.trans first.clients, second.sockets.trans first.sockets⟩

end Room

theorem Round.carry_alike (round : Round) (delivery : Delivery) :
    round.room.Alike (round.carry delivery).room := by
  rw [Round.carry]
  split
  · exact ⟨rfl, rfl, rfl, rfl⟩
  · split
    · exact ⟨rfl, rfl, rfl, rfl⟩
    · split
      · exact ⟨rfl, rfl, rfl, rfl⟩
      · exact ⟨rfl, rfl, rfl, rfl⟩
      · exact ⟨rfl, rfl, rfl, round.room.length_sockets_put _ _⟩

theorem Round.carryAll_alike (round : Round) (deliveries : List Delivery) :
    round.room.Alike (deliveries.foldl Round.carry round).room := by
  induction deliveries generalizing round with
  | nil => exact ⟨rfl, rfl, rfl, rfl⟩
  | cons delivery after ih => exact (round.carry_alike delivery).trans (ih _)

namespace Ledger

variable {capacity : Int} {hub : Hub} {bars : Relay} {box : Mailbox Notice}
  {published : List (Update Float)} {past : List Taking} {roll : Roll}

theorem connect (ledger : Ledger capacity hub bars box published past roll) (link : Link)
    (subscription : Subscription) :
    Ledger capacity (hub.connect link subscription).2 bars box published past
      (roll.after (.connect link subscription)) := by
  have known : ∀ client ∈ roll.clients, client.socket < hub.room.sockets.length :=
    fun client member => ledger.next ▸ ledger.known client member
  have fresh : deals past hub.room.sockets.length = [] := by
    have none : past.filter (·.targets.contains hub.room.sockets.length) = [] := by
      refine List.filter_eq_nil_iff.mpr fun taking member target => ?_
      obtain ⟨client, among, same⟩ := mem_targets.mp (List.contains_iff_mem.mp target)
      have before := ledger.dealtTo taking member client among
      exact absurd (same.1.trans ledger.next.symm) (Nat.ne_of_lt before)
    rw [deals, none, List.map_nil]
  refine ⟨ledger.relays, ledger.queue, ledger.channel, ledger.phase, ledger.posted, ?_, ?_, ?_, ?_,
    ?_, ?_⟩
  · simp only [Roll.after, ledger.next]
    exact ledger.books.connect link subscription fresh known
  · simp [Roll.after, Hub.connect, ledger.next]
  · simp only [Roll.after, List.map_append, List.map_singleton, List.nodup_append]
    refine ⟨ledger.distinct, List.nodup_singleton _, fun socket member other last => ?_⟩
    obtain ⟨client, listed, rfl⟩ := List.mem_map.mp member
    obtain rfl := List.mem_singleton.mp last
    exact Nat.ne_of_lt (ledger.known client listed)
  · intro client member
    obtain old | last := List.mem_append.mp member
    · exact Nat.lt_succ_of_lt (ledger.known client old)
    · obtain rfl := List.mem_singleton.mp last
      exact Nat.lt_succ_self roll.next
  · simp only [Hub.connect, Roll.after, ledger.next]
    exact ledger.listed.append_right _
  · intro taking member client among
    exact Nat.lt_succ_of_lt (ledger.dealtTo taking member client among)

theorem disconnect (ledger : Ledger capacity hub bars box published past roll) (socket : Nat) :
    Ledger capacity (hub.disconnect socket) bars box published past
      (roll.after (.disconnect socket)) := by
  refine ⟨ledger.relays, ledger.queue, ledger.channel, ledger.phase, ledger.posted,
    ledger.books.disconnect socket, ledger.next, ?_, ?_, ?_, ledger.dealtTo⟩
  · exact ledger.distinct.sublist (List.filter_sublist.map _)
  · exact fun client member => ledger.known client (List.mem_filter.mp member).1
  · have same : (hub.disconnect socket).room.clients =
        hub.room.clients.filter (·.socket != socket) := by
      simp only [Hub.disconnect, Room.removeClients]
      exact List.filter_congr fun client _ => by simp [bne, beq_eq_decide]
    rw [same]
    exact ledger.listed.filter _

theorem publish (ledger : Ledger capacity hub bars box published past roll)
    (update : Update Float) :
    Ledger capacity (hub.publish Event.tickTopic (.ofUpdate update)) bars
      (box.act capacity 0 (.publish Event.tickTopic (.ofUpdate update))) (published ++ [update])
      past roll := by
  refine ⟨ledger.relays, ledger.queue, ledger.channel, ledger.phase, ledger.posted.publish update,
    ledger.books.congr rfl rfl, ledger.next, ledger.distinct, ledger.known, ledger.listed,
    ledger.dealtTo⟩

theorem wait (ledger : Ledger capacity hub bars box published past roll) (ms : Int) :
    Ledger capacity (hub.wait ms) bars box published past roll :=
  ⟨ledger.relays, ledger.queue, ledger.channel, ledger.phase, ledger.posted,
    ledger.books.congr rfl rfl, ledger.next, ledger.distinct, ledger.known, ledger.listed,
    ledger.dealtTo⟩

theorem carry (ledger : Ledger capacity hub bars box published past roll)
    (due : bars.hasDue hub.room.passed = true) :
    Ledger capacity
      { room := (bars.carry hub.room).1, relays := hub.relays.set 0 (bars.carry hub.room).2 }
      (bars.carry hub.room).2 box published past roll := by
  let start : Round := { room := hub.room, under := [], lost := bars.lost, broke := none }
  have alike := start.carryAll_alike bars.deliveries
  have books : Books (deals past) roll.clients start.room (start.under ++ bars.deliveries)
      start.lost (bars.IsBroken ∨ start.broke.isSome) :=
    ledger.books.rephrase (by simp [start])
  have carried := books.carryAll
  have phase : ((bars.carry hub.room).2.phase = .sending ∨ (bars.carry hub.room).2.IsBroken) ∧
      (bars.IsBroken ∨ (bars.deliveries.foldl Round.carry start).broke.isSome ↔
        (bars.carry hub.room).2.IsBroken) := by
    simp only [Relay.carry, Relay.IsBroken]
    obtain ⟨_, nothing, _⟩ | sending | ⟨breakdown, broken⟩ := ledger.phase
    · simp [Relay.hasDue, nothing] at due
    · rw [sending]
      cases (bars.deliveries.foldl Round.carry start).broke <;> simp
    · rw [broken]
      simp
  refine ⟨?_, ledger.queue, ledger.channel, .inr phase.1, ?_, carried.rephrase phase.2, ?_,
    ledger.distinct, ledger.known, ?_, ledger.dealtTo⟩
  · simp only [ledger.relays, List.set_cons_zero]
  · exact alike.bus ▸ ledger.posted
  · exact ledger.next.trans alike.sockets.symm
  · exact alike.clients ▸ ledger.listed

theorem finish (ledger : Ledger capacity hub bars box published past roll)
    (sending : bars.phase = .sending) (done : bars.deliveries = []) :
    Ledger capacity
      { room := hub.room.removeClients bars.lost
        relays := hub.relays.set 0 { bars with phase := .waiting, lost := [] } }
      { bars with phase := .waiting, lost := [] } box published past roll := by
  have whole : ¬bars.IsBroken := fun ⟨_, broken⟩ => by rw [sending] at broken; cases broken
  have books := ledger.books.rephrase (iff_false_intro whole)
  rw [done] at books
  refine ⟨?_, ledger.queue, ledger.channel, .inl ⟨rfl, done, rfl⟩, ledger.posted, ?_, ledger.next,
    ledger.distinct, ledger.known, ?_, ledger.dealtTo⟩
  · simp only [ledger.relays, List.set_cons_zero]
  · simp only [done]
    exact books.finish.rephrase (iff_of_false id nofun)
  · exact List.filter_sublist.trans ledger.listed

/-- A relay that waits for a value has nothing on the way. -/
theorem at_rest (ledger : Ledger capacity hub bars box published past roll)
    (waiting : bars.phase = .waiting) :
    bars.deliveries = [] ∧ bars.lost = [] ∧ ¬bars.IsBroken := by
  obtain ⟨_, nothing, nobody⟩ | sending | ⟨breakdown, broken⟩ := ledger.phase
  · exact ⟨nothing, nobody, fun ⟨_, broken⟩ => absurd (waiting.symm.trans broken) nofun⟩
  · exact absurd (waiting.symm.trans sending) nofun
  · exact absurd (waiting.symm.trans broken) nofun

theorem take (ledger : Ledger capacity hub bars box published past roll)
    (waiting : bars.phase = .waiting) {notice : Notice} {bus : Bus Notice}
    (taken : hub.room.bus.take? bars.queue = some (notice, bus)) :
    ∃ update, notice = .ofUpdate update ∧
      let room := { hub.room with bus }
      Ledger capacity { room, relays := hub.relays.set 0 (bars.take room notice) }
        (bars.take room notice) (box.act capacity 0 (.take 0)) published
        (past ++ [{ update, clients := hub.room.clients }]) roll := by
  rw [ledger.queue] at taken
  obtain ⟨update, rfl, posted⟩ := ledger.posted.take taken
  refine ⟨update, rfl, ?_⟩
  intro room
  let taking : Taking := { update, clients := room.clients }
  obtain ⟨nothing, nobody, whole⟩ := ledger.at_rest waiting
  have books : Books (deals past) roll.clients room bars.deliveries bars.lost False :=
    (ledger.books.rephrase (iff_false_intro whole)).congr rfl rfl
  rw [nothing, nobody] at books
  have targeted : ∀ number ∈ taking.targets,
      deals (past ++ [taking]) number = deals past number ++ [update.told] := by
    intro number target
    simp [deals, target, taking]
  have untargeted : ∀ number ∉ taking.targets,
      deals (past ++ [taking]) number = deals past number := by
    intro number other
    simp [deals, other]
  have listed := ledger.listed
  have dealtTo : ∀ former ∈ past ++ [taking], ∀ client ∈ former.clients,
      client.socket < roll.next := by
    intro former member client among
    obtain old | last := List.mem_append.mp member
    · exact ledger.dealtTo former old client among
    · obtain rfl := List.mem_singleton.mp last
      exact ledger.known client (listed.subset among)
  have relayed := Relay.take_ofUpdate ledger.channel room update
  have relays : ∀ relay, hub.relays.set 0 relay = [relay, .start 1 .status] := by
    intro relay
    simp only [ledger.relays, List.set_cons_zero]
  -- Without anybody who wants it an update is taken up all the same, and dealt to nobody.
  by_cases none : taking.targets = []
  · rw [relayed, if_pos none]
    refine ⟨relays bars, ledger.queue, ledger.channel, ledger.phase, posted room.clients, ?_,
      ledger.next, ledger.distinct, ledger.known, listed, dealtTo⟩
    have same : deals (past ++ [taking]) = deals past :=
      funext fun number => untargeted number (by rw [none]; exact List.not_mem_nil)
    rw [nothing, nobody, same]
    exact books.rephrase (iff_of_false id whole)
  · rw [relayed, if_neg none]
    refine ⟨relays _, ledger.queue, ledger.channel, .inr (.inl rfl), posted room.clients, ?_,
      ledger.next, ledger.distinct, ledger.known, listed, dealtTo⟩
    refine (books.deal ?_ ?_ ?_ update.told_ne_nil targeted untargeted).rephrase
      (iff_of_false id nofun)
    · exact ledger.distinct.sublist ((List.filter_sublist.trans listed).map _)
    · intro number target
      obtain ⟨client, among, rfl, _⟩ := mem_targets.mp target
      exact ledger.next ▸ ledger.known client (listed.subset among)
    · intro number target
      obtain ⟨client, among, same, _⟩ := mem_targets.mp target
      exact ⟨client, among, same⟩

theorem turn_none (ledger : Ledger capacity hub bars box published past roll)
    (stopped : bars.step? hub.room = none) : hub.turn 0 = hub ∧ hub.taken? = none := by
  obtain ⟨idle, _, empty⟩ := Relay.step?_eq_none.mp stopped
  refine ⟨by simp [Hub.turn, ledger.relays, stopped], ?_⟩
  simp only [Hub.taken?, ledger.relays, List.getElem?_cons_zero, idle, Bool.false_eq_true, if_false]
  split
  · rename_i waiting held
    exact absurd (held.symm.trans (empty waiting)) (List.cons_ne_nil _ _)
  · rfl

theorem turn_some (ledger : Ledger capacity hub bars box published past roll) {room : Room}
    {after : Relay} (stepped : bars.step? hub.room = some (room, after)) :
    hub.turn 0 = { room, relays := hub.relays.set 0 after } := by
  rw [Hub.turn, ledger.relays]
  simp [stepped]

theorem status_still (ledger : Ledger capacity hub bars box published past roll) :
    (Relay.start 1 .status).step? hub.room = none :=
  Relay.step?_eq_none.mpr ⟨rfl, nofun, fun _ => ledger.posted.queue_status⟩

theorem turn_other (ledger : Ledger capacity hub bars box published past roll) (number : Nat) :
    hub.turn (number + 1) = hub := by
  rw [Hub.turn, ledger.relays]
  cases number with
  | zero => simp [ledger.status_still]
  | succ number => simp

/-- What the bars do in their turn, the ledger follows. -/
theorem turned (ledger : Ledger capacity hub bars box published past roll) {room : Room}
    {after : Relay} (stepped : bars.step? hub.room = some (room, after)) :
    Ledger capacity (hub.turn 0) after (box.run capacity 0 (hub.asks (.turn 0))) published
      (past ++ hub.takes (.turn 0)) roll := by
  rw [ledger.turn_some stepped]
  cases Relay.turn_of_step? stepped with
  | carry due =>
    have untaken : hub.taken? = none := by
      simp [Hub.taken?, ledger.relays, due]
    simpa [Hub.asks, Hub.takes, untaken] using ledger.carry due
  | finish idle sending done =>
    have untaken : hub.taken? = none := by
      simp [Hub.taken?, ledger.relays, idle, sending]
    simpa [Hub.asks, Hub.takes, untaken] using ledger.finish sending done
  | take idle waiting taken =>
    obtain ⟨update, same, later⟩ := ledger.take waiting taken
    have took : hub.taken? = some update := by
      rw [Bus.take?] at taken
      split at taken
      · cases taken
      · rename_i held
        cases taken
        simp [Hub.taken?, ledger.relays, idle, waiting, held, same, Notice.ofUpdate]
    simpa [Hub.asks, Hub.takes, took] using later

theorem turn (ledger : Ledger capacity hub bars box published past roll) :
    ∃ later, Ledger capacity (hub.turn 0) later
      (box.run capacity 0 (hub.asks (.turn 0))) published (past ++ hub.takes (.turn 0)) roll := by
  cases stepped : bars.step? hub.room with
  | none =>
    obtain ⟨same, untaken⟩ := ledger.turn_none stepped
    refine ⟨bars, ?_⟩
    rw [same]
    simpa [Hub.asks, Hub.takes, untaken] using ledger
  | some result => exact ⟨result.2, ledger.turned stepped⟩

theorem move (ledger : Ledger capacity hub bars box published past roll) (move : Hub.Move) :
    ∃ later, Ledger capacity (hub.move move) later (box.run capacity 0 (hub.asks move))
      (published ++ move.update?.toList) (past ++ hub.takes move) (roll.after move) := by
  cases move with
  | connect link subscription =>
    refine ⟨bars, ?_⟩
    simpa [Hub.Move.update?, Hub.takes, Hub.asks, Hub.move, Roll.after] using
      ledger.connect link subscription
  | disconnect socket =>
    refine ⟨bars, ?_⟩
    simpa [Hub.Move.update?, Hub.takes, Hub.asks, Hub.move, Roll.after] using
      ledger.disconnect socket
  | publish update =>
    refine ⟨bars, ?_⟩
    simpa [Hub.Move.update?, Hub.takes, Hub.asks, Hub.move, Roll.after] using ledger.publish update
  | wait ms =>
    refine ⟨bars, ?_⟩
    simpa [Hub.Move.update?, Hub.takes, Hub.asks, Hub.move, Roll.after] using ledger.wait ms
  | turn number =>
    cases number with
    | zero => simpa [Hub.Move.update?, Hub.move, Roll.after] using ledger.turn
    | succ number =>
      refine ⟨bars, ?_⟩
      simpa [Hub.Move.update?, Hub.takes, Hub.asks, Hub.move, Roll.after,
        ledger.turn_other] using ledger

theorem play (ledger : Ledger capacity hub bars box published past roll) (moves : List Hub.Move) :
    ∃ later, Ledger capacity (hub.play moves) later
      (box.run capacity 0 (Hub.note Hub.asks hub moves))
      (published ++ moves.filterMap Hub.Move.update?) (past ++ hub.takings moves)
      (moves.foldl Roll.after roll) := by
  induction moves generalizing hub bars box published past roll with
  | nil => exact ⟨bars, by simpa [Hub.note, Hub.takings, Hub.play] using ledger⟩
  | cons move rest ih =>
    obtain ⟨between, moved⟩ := ledger.move move
    obtain ⟨later, played⟩ := ih moved
    refine ⟨later, ?_⟩
    have published : (move :: rest).filterMap Hub.Move.update? =
        move.update?.toList ++ rest.filterMap Hub.Move.update? := by
      cases told : move.update? <;> simp [told]
    simpa [Hub.note, Hub.takings, Hub.play, Mailbox.run, published] using played

end Ledger

def Hub.opening (capacity : Int) : Hub := (Hub.empty capacity).start

theorem Ledger.opening (capacity : Int) :
    Ledger capacity (Hub.opening capacity) (.start 0 .bars) (.opened Event.tickTopic) [] []
      { clients := [], next := 0 } := by
  refine ⟨rfl, rfl, rfl, .inl ⟨rfl, rfl, rfl⟩, ?_, ?_, rfl, List.nodup_nil,
    fun _ absent => absurd absent List.not_mem_nil, List.Sublist.refl _,
    fun _ absent => absurd absent List.not_mem_nil⟩
  · exact ⟨rfl, rfl, rfl, rfl, Mailbox.opened_balanced capacity _, rfl, rfl⟩
  · have nothing : ∀ number, (Hub.opening capacity).room.messages number = [] := fun _ => rfl
    refine ⟨List.nodup_nil, nofun, fun number count before => ?_, fun number => .inl ⟨?_, ?_, ?_⟩,
      nofun⟩
    · rw [nothing] at before
      exact absurd before (Nat.not_lt_zero count)
    · rw [nothing]
      exact .whole []
    · exact List.not_mem_nil
    · exact nofun

end SyntheticMarket
