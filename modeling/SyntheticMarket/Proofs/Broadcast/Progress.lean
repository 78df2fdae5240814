import SyntheticMarket.Proofs.Broadcast.Ledger

/-! A started hub comes to rest. Every turn uses up something: an update in the queue, a message
that is due, or the end of a deal; so the relays stop moving after as many turns as they are given,
and time passes from one due message to the next. -/

namespace SyntheticMarket

def load (deliveries : List Delivery) : Nat := (deliveries.map (·.pending.length)).sum

section Load

variable {deliveries before after : List Delivery} {delivery : Delivery}

theorem load_append (before after : List Delivery) :
    load (before ++ after) = load before + load after := by
  simp [load]

theorem load_cons (delivery : Delivery) (after : List Delivery) :
    load (delivery :: after) = delivery.pending.length + load after := by
  simp [load]

theorem length_pending_le_load (member : delivery ∈ deliveries) :
    delivery.pending.length ≤ load deliveries := by
  obtain ⟨before, after, rfl⟩ := List.append_of_mem member
  rw [load_append, load_cons]
  omega

theorem Relay.pendingCount_eq (relay : Relay) : relay.pendingCount = load relay.deliveries := by
  have folded : ∀ (deliveries : List Delivery) (count : Nat),
      deliveries.foldl (fun count delivery => count + delivery.pending.length) count =
        count + load deliveries := by
    intro deliveries
    induction deliveries with
    | nil => exact fun count => rfl
    | cons delivery after ih =>
      intro count
      rw [List.foldl_cons, ih, load_cons, Nat.add_assoc]
  rw [pendingCount, folded, Nat.zero_add]

end Load

namespace Round

variable {round : Round} {delivery : Delivery} {deliveries : List Delivery}

/-- What is under way after a delivery was carried on: what was before, and the delivery, whole
where it is not due and shorter where it is. -/
theorem mem_carry {other : Delivery} (member : other ∈ (round.carry delivery).under) :
    other ∈ round.under ∨ (other = delivery ∧ round.room.passed < delivery.due) ∨
      (delivery.due ≤ round.room.passed ∧ other.pending.length < delivery.pending.length) := by
  rw [carry] at member
  split at member
  · exact .inl member
  · rename_i message rest pending
    split at member
    · rename_i early
      obtain old | new := List.mem_append.mp member
      · exact .inl old
      · exact .inr (.inl ⟨List.mem_singleton.mp new, early⟩)
    · rename_i late
      split at member
      · exact .inl member
      · exact .inl member
      · simp only at member
        split at member
        · exact .inl member
        · obtain old | new := List.mem_append.mp member
          · exact .inl old
          · obtain rfl := List.mem_singleton.mp new
            refine .inr (.inr ⟨Int.not_lt.mp late, ?_⟩)
            simp [Room.dispatch, pending]

theorem load_carry (round : Round) (delivery : Delivery) :
    load (round.carry delivery).under +
        (if delivery.due ≤ round.room.passed ∧ delivery.pending ≠ [] then 1 else 0) ≤
      load round.under + delivery.pending.length := by
  rw [carry]
  split
  · rename_i empty
    simp [empty]
  · rename_i message rest pending
    have length : delivery.pending.length = rest.length + 1 := by rw [pending, List.length_cons]
    split
    · rename_i early
      rw [if_neg fun late => Int.not_le.mpr early late.1, load_append, load_cons]
      exact Nat.le_refl _
    · rename_i late
      rw [if_pos ⟨Int.not_lt.mp late, by rw [pending]; exact List.cons_ne_nil _ _⟩, length]
      split
      · exact Nat.add_le_add_left (Nat.le_add_left 1 _) _
      · exact Nat.add_le_add_left (Nat.le_add_left 1 _) _
      · simp only
        split
        · exact Nat.add_le_add_left (Nat.le_add_left 1 _) _
        · rw [load_append, load_cons]
          exact Nat.le_refl _

theorem mem_carryAll {other : Delivery}
    (member : other ∈ (deliveries.foldl carry round).under) :
    other ∈ round.under ∨ ∃ delivery ∈ deliveries,
      (other = delivery ∧ round.room.passed < delivery.due) ∨
        (delivery.due ≤ round.room.passed ∧ other.pending.length < delivery.pending.length) := by
  induction deliveries generalizing round with
  | nil => exact .inl member
  | cons delivery after ih =>
    have passed := (round.carry_alike delivery).passed
    obtain under | ⟨later, among, how⟩ := ih member
    · obtain old | how := mem_carry under
      · exact .inl old
      · exact .inr ⟨delivery, List.mem_cons_self, how⟩
    · rw [passed] at how
      exact .inr ⟨later, List.mem_cons_of_mem _ among, how⟩

theorem load_carryAll (round : Round) (deliveries : List Delivery) :
    load (deliveries.foldl carry round).under +
        deliveries.countP (fun delivery =>
          delivery.due ≤ round.room.passed ∧ delivery.pending ≠ []) ≤
      load round.under + load deliveries := by
  induction deliveries generalizing round with
  | nil => simp [load]
  | cons delivery after ih =>
    have first := round.load_carry delivery
    have rest := ih (round.carry delivery)
    rw [(round.carry_alike delivery).passed] at rest
    rw [List.foldl_cons, load_cons, List.countP_cons]
    simp only [decide_eq_true_eq] at rest ⊢
    omega

end Round

theorem Update.length_told (update : Update Float) : update.told.length ≤ 2 := by
  rw [told, messages]
  split <;> simp

theorem load_dispatch (room : Room) (update : Update Float) (targets : List Nat) :
    load (targets.map (room.dispatch update.told)) ≤ 2 * targets.length := by
  induction targets with
  | nil => exact Nat.le_refl 0
  | cons number others ih =>
    have short := update.length_told
    have pending : (room.dispatch update.told number).pending = update.told := rfl
    rw [List.map_cons, load_cons, pending, List.length_cons]
    omega

namespace Hub

/-- Whether a move comes from the hub itself and not from outside. -/
def Move.isInside : Move → Bool
  | turn _ => true
  | wait _ => true
  | _ => false

/-- The hub at a moment, before anything that is due then was done. -/
def reach (hub : Hub) (moment : Int) : Hub :=
  { hub with room := { hub.room with passed := moment } }

theorem reach_eq (hub : Hub) (moment : Int) :
    hub.reach moment = hub.wait (moment - hub.room.passed) := by
  have back : hub.room.passed + (moment - hub.room.passed) = moment := by omega
  rw [wait, back]
  rfl

def Still (hub : Hub) : Prop := ∀ relay ∈ hub.relays, relay.step? hub.room = none

/-- The turns that a relay can take without time passing are fewer than the count. -/
structure Within (hub : Hub) (bars : Relay) (depth count : Nat) : Prop where
  deep : ∀ delivery ∈ bars.deliveries, delivery.due ≤ hub.room.passed →
    delivery.pending.length ≤ depth
  enough : 4 * (hub.room.bus.queue 0).length + depth + (if bars.phase = .sending then 1 else 0) <
    count

end Hub

namespace Ledger

variable {capacity : Int} {hub : Hub} {bars after : Relay} {box : Mailbox Notice} {room : Room}
  {published : List (Update Float)} {past : List Taking} {roll : Roll} {depth count : Nat}

theorem length_take? {bus later : Bus Notice} {notice : Notice}
    (taken : bus.take? 0 = some (notice, later)) :
    (later.queue 0).length + 1 = (bus.queue 0).length := by
  rw [Bus.take?] at taken
  split at taken
  · cases taken
  · rename_i held
    cases taken
    obtain ⟨capacity, queues, subscriptions, published, dropped⟩ := bus
    cases queues with
    | nil => simp [Bus.queue] at held
    | cons first rest =>
      simp only [Bus.queue, List.getD_cons_zero] at held
      simp [Bus.queue, held]

/-- A delivery that is due has a message to carry on. -/
theorem exists_due (ledger : Ledger capacity hub bars box published past roll)
    (due : bars.hasDue hub.room.passed = true) :
    ∃ delivery ∈ bars.deliveries, delivery.due ≤ hub.room.passed ∧ delivery.pending ≠ [] := by
  obtain ⟨delivery, member, late⟩ := List.any_eq_true.mp due
  exact ⟨delivery, member, by simpa using late, (ledger.books.honest delivery member).1⟩

theorem phase_carry (bars : Relay) (room : Room) (sending : (bars.carry room).2.phase = .sending) :
    bars.phase = .sending := by
  simp only [Relay.carry] at sending
  split at sending
  · cases sending
  · exact sending

theorem turn_within (ledger : Ledger capacity hub bars box published past roll)
    (stepped : bars.step? hub.room = some (room, after))
    (within : hub.Within bars depth (count + 1)) :
    ∃ depth, Hub.Within { room, relays := hub.relays.set 0 after } after depth count := by
  have enough := within.enough
  cases Relay.turn_of_step? stepped with
  | carry due =>
    obtain ⟨delivery, member, late, waits⟩ := ledger.exists_due due
    have positive := List.length_pos_iff.mpr waits
    have deep := within.deep delivery member late
    let start : Round := { room := hub.room, under := [], lost := bars.lost, broke := none }
    have alike := start.carryAll_alike bars.deliveries
    refine ⟨depth - 1, ?_, ?_⟩
    · intro other among otherLate
      obtain none | ⟨origin, held, how⟩ := Round.mem_carryAll among
      · cases none
      · obtain ⟨rfl, early⟩ | ⟨originLate, shorter⟩ := how
        · rw [← alike.passed] at early
          exact absurd otherLate (Int.not_le.mpr early)
        · have deepest := within.deep origin held originLate
          omega
    · have queue : (bars.carry hub.room).1.bus = hub.room.bus := alike.bus
      simp only [queue]
      split
      · rename_i sending
        rw [if_pos (phase_carry bars hub.room sending)] at enough
        omega
      · omega
  | finish idle sending done =>
    refine ⟨depth, ?_, ?_⟩
    · simp [done]
    · rw [if_pos sending] at enough
      simp only [Room.removeClients, reduceCtorEq, if_false]
      omega
  | take idle waiting taken =>
    obtain ⟨update, rfl, later⟩ := ledger.take waiting taken
    have shorter := length_take? (ledger.queue ▸ taken)
    have resting : bars.phase ≠ .sending := by simp [waiting]
    rw [if_neg resting] at enough
    rw [Relay.take_ofUpdate ledger.channel]
    split
    · refine ⟨0, ?_, ?_⟩
      · simp [(ledger.at_rest waiting).1]
      · simp only [waiting, reduceCtorEq, if_false]
        omega
    · refine ⟨2, ?_, ?_⟩
      · intro delivery member late
        obtain ⟨number, _, rfl⟩ := List.mem_map.mp member
        exact update.length_told
      · simp only [if_true]
        omega

theorem sweep_eq (ledger : Ledger capacity hub bars box published past roll) :
    Hub.sweep hub.room hub.relays = ((bars.step? hub.room).isSome, hub.turn 0) := by
  cases stepped : bars.step? hub.room with
  | none =>
    rw [(ledger.turn_none stepped).1, ledger.relays]
    simp only [Hub.sweep, stepped, ledger.status_still, Option.isSome_none]
    rw [← ledger.relays]
  | some result =>
    obtain ⟨room, after⟩ := result
    have still := (ledger.turned stepped).status_still
    rw [ledger.turn_some stepped] at still ⊢
    simp only [ledger.relays, Hub.sweep, stepped, still, Option.isSome_some, List.set_cons_zero]

theorem still_of_step? (ledger : Ledger capacity hub bars box published past roll)
    (stopped : bars.step? hub.room = none) : hub.Still := by
  intro relay member
  rw [ledger.relays] at member
  obtain rfl | last := List.mem_cons.mp member
  · exact stopped
  · obtain rfl := List.mem_singleton.mp last
    exact ledger.status_still

/-- With enough sweeps the relays come to rest, by turns of the bars alone. -/
theorem settleWithin_still (ledger : Ledger capacity hub bars box published past roll)
    (within : hub.Within bars depth count) :
    (Hub.settleWithin count hub).Still ∧
      ∃ turns, Hub.settleWithin count hub = hub.play (List.replicate turns (.turn 0)) := by
  -- The depth is general: a deal that is taken up starts a new one.
  induction count generalizing hub bars box past depth with
  | zero => exact absurd within.enough (Nat.not_lt_zero _)
  | succ count ih =>
    rw [Hub.settleWithin, ledger.sweep_eq]
    cases stepped : bars.step? hub.room with
    | none =>
      have same := (ledger.turn_none stepped).1
      simp only [Option.isSome_none, same]
      exact ⟨ledger.still_of_step? stepped, 0, rfl⟩
    | some result =>
      obtain ⟨room, after⟩ := result
      obtain ⟨deeper, fewer⟩ := ledger.turn_within stepped within
      rw [← ledger.turn_some stepped] at fewer
      obtain ⟨still, turns, settled⟩ := ih (ledger.turned stepped) fewer
      simp only [Option.isSome_some, if_true]
      exact ⟨still, turns + 1, settled⟩

theorem within_work (ledger : Ledger capacity hub bars box published past roll) :
    hub.Within bars (load bars.deliveries)
      (hub.relays.foldl (fun count relay => count + relay.work hub.room) 1) := by
  refine ⟨fun delivery member _ => length_pending_le_load member, ?_⟩
  simp only [ledger.relays, List.foldl_cons, List.foldl_nil, Relay.work, Relay.pendingCount_eq,
    ledger.queue]
  split <;> omega

theorem settle_still (ledger : Ledger capacity hub bars box published past roll) :
    hub.settle.Still ∧ ∃ turns, hub.settle = hub.play (List.replicate turns (.turn 0)) :=
  ledger.settleWithin_still ledger.within_work

def weight (hub : Hub) (bars : Relay) : Nat :=
  2 * (hub.room.bus.queue 0).length * hub.room.clients.length + load bars.deliveries

/-- A turn never makes more messages to send, and one that carries messages on makes fewer. -/
theorem turn_weight (ledger : Ledger capacity hub bars box published past roll)
    (stepped : bars.step? hub.room = some (room, after)) :
    weight { room, relays := hub.relays.set 0 after } after ≤ weight hub bars ∧
      (bars.hasDue hub.room.passed = true →
        weight { room, relays := hub.relays.set 0 after } after < weight hub bars) := by
  cases Relay.turn_of_step? stepped with
  | carry due =>
    let start : Round := { room := hub.room, under := [], lost := bars.lost, broke := none }
    have alike := start.carryAll_alike bars.deliveries
    have bus : (bars.carry hub.room).1.bus = hub.room.bus := alike.bus
    have clients : (bars.carry hub.room).1.clients = hub.room.clients := alike.clients
    have lighter : load (bars.carry hub.room).2.deliveries < load bars.deliveries := by
      have loads := start.load_carryAll bars.deliveries
      have some : 0 < bars.deliveries.countP fun delivery =>
          delivery.due ≤ start.room.passed ∧ delivery.pending ≠ [] := by
        obtain ⟨delivery, member, late, waits⟩ := ledger.exists_due due
        exact List.countP_pos_iff.mpr ⟨delivery, member, decide_eq_true ⟨late, waits⟩⟩
      have nothing : load start.under = 0 := rfl
      have carried : load (bars.carry hub.room).2.deliveries =
        load (bars.deliveries.foldl Round.carry start).under := rfl
      omega
    simp only [weight, bus, clients]
    exact ⟨Nat.add_le_add_left (Nat.le_of_lt lighter) _, fun _ => Nat.add_lt_add_left lighter _⟩
  | finish idle sending done =>
    refine ⟨?_, fun due => absurd (idle.symm.trans due) nofun⟩
    have fewer : (hub.room.removeClients bars.lost).clients.length ≤ hub.room.clients.length :=
      List.length_filter_le _ _
    exact Nat.add_le_add_right (Nat.mul_le_mul_left _ fewer) _
  | @take idle waiting notice bus taken =>
    refine ⟨?_, fun due => absurd (idle.symm.trans due) nofun⟩
    obtain ⟨update, rfl, later⟩ := ledger.take waiting taken
    have shorter := length_take? (ledger.queue ▸ taken)
    have fitting : 2 * (bus.queue 0).length * hub.room.clients.length +
        2 * hub.room.clients.length =
          2 * (hub.room.bus.queue 0).length * hub.room.clients.length := by
      rw [← shorter, Nat.mul_add, Nat.add_mul]
    have few : (Taking.targets { update, clients := hub.room.clients }).length ≤
        hub.room.clients.length := by
      rw [Taking.targets, List.length_map]
      exact List.length_filter_le _ _
    have dealt := load_dispatch { hub.room with bus } update
      (Taking.targets { update, clients := hub.room.clients })
    rw [Relay.take_ofUpdate ledger.channel]
    simp only [weight]
    split
    · omega
    · generalize Taking.targets { update, clients := hub.room.clients } = targets at few dealt ⊢
      refine Nat.le_trans (Nat.add_le_add_left dealt _) ?_
      omega

/-- Turns of the bars keep the ledger, and only lighten it. -/
theorem turns (ledger : Ledger capacity hub bars box published past roll) (count : Nat) :
    ∃ later box past, Ledger capacity (hub.play (List.replicate count (.turn 0))) later box
        published past roll ∧
      weight (hub.play (List.replicate count (.turn 0))) later ≤ weight hub bars ∧
      (count ≠ 0 → bars.hasDue hub.room.passed = true →
        weight (hub.play (List.replicate count (.turn 0))) later < weight hub bars) := by
  induction count generalizing hub bars box past with
  | zero => exact ⟨bars, box, past, ledger, Nat.le_refl _, fun never => absurd rfl never⟩
  | succ count ih =>
    have again : hub.play (List.replicate (count + 1) (.turn 0)) =
        (hub.turn 0).play (List.replicate count (.turn 0)) := rfl
    rw [again]
    cases stepped : bars.step? hub.room with
    | none =>
      rw [(ledger.turn_none stepped).1]
      obtain ⟨later, box, past, kept, lighter, _⟩ := ih ledger
      refine ⟨later, box, past, kept, lighter, fun _ due => ?_⟩
      simp [Relay.step?, due] at stepped
    | some result =>
      obtain ⟨room, after⟩ := result
      obtain ⟨light, lighter⟩ := ledger.turn_weight stepped
      rw [← ledger.turn_some stepped] at light lighter
      obtain ⟨later, box, past, kept, rest, _⟩ := ih (ledger.turned stepped)
      exact ⟨later, box, past, kept, Nat.le_trans rest light,
        fun _ due => Nat.lt_of_le_of_lt rest (lighter due)⟩

/-- Time that brings no message due leaves a hub at rest. -/
theorem still_wait (ledger : Ledger capacity hub bars box published past roll) (still : hub.Still)
    {moment : Int} (early : ∀ delivery ∈ bars.deliveries, moment < delivery.due) :
    (hub.reach moment).Still := by
  have later := ledger.wait (moment - hub.room.passed)
  rw [← hub.reach_eq] at later
  have stopped : bars.step? hub.room = none :=
    still bars (by rw [ledger.relays]; exact List.mem_cons_self)
  have notDue : bars.hasDue moment = false := by
    refine List.any_eq_false.mpr fun delivery member => ?_
    simpa using early delivery member
  obtain ⟨_, sending, waiting⟩ := Relay.step?_eq_none.mp stopped
  exact later.still_of_step? (Relay.step?_eq_none.mpr ⟨notDue, sending, waiting⟩)

theorem nextDue?_eq (ledger : Ledger capacity hub bars box published past roll) :
    hub.nextDue? = (bars.deliveries.map Delivery.due).min? := by
  rw [Hub.nextDue?, ledger.relays]
  simp [Relay.start]

/-- Time passes from one due message to the next, and the hub comes to rest at each. -/
theorem passWithin_still (ledger : Ledger capacity hub bars box published past roll)
    (still : hub.Still) (final : Int) (enough : weight hub bars < count) :
    (Hub.passWithin final count hub).Still ∧
      (Hub.passWithin final count hub).room.passed = final ∧
      ∃ moves, moves.all Hub.Move.isInside = true ∧
        Hub.passWithin final count hub = hub.play moves := by
  induction count generalizing hub bars box past with
  | zero => exact absurd enough (Nat.not_lt_zero _)
  | succ count ih =>
    have arrive : (∀ delivery ∈ bars.deliveries, final < delivery.due) →
        (hub.reach final).Still ∧ (hub.reach final).room.passed = final ∧
          ∃ moves, moves.all Hub.Move.isInside = true ∧ hub.reach final = hub.play moves :=
      fun early => ⟨ledger.still_wait still early, rfl, [.wait (final - hub.room.passed)], rfl,
        hub.reach_eq final⟩
    rw [Hub.passWithin, ledger.nextDue?_eq]
    cases least : (bars.deliveries.map Delivery.due).min? with
    | none =>
      refine arrive fun delivery member => ?_
      rw [List.min?_eq_none_iff, List.map_eq_nil_iff] at least
      rw [least] at member
      cases member
    | some due =>
      obtain ⟨attained, bound⟩ := List.min?_eq_some_iff.mp least
      simp only
      split
      · -- At the halt a message is due, so the hub has less to send when it comes to rest.
        have halted := ledger.wait (max hub.room.passed due - hub.room.passed)
        rw [← hub.reach_eq] at halted
        have late : bars.hasDue (max hub.room.passed due) = true := by
          obtain ⟨delivery, member, rfl⟩ := List.mem_map.mp attained
          exact List.any_eq_true.mpr ⟨delivery, member, decide_eq_true (Int.le_max_right _ _)⟩
        obtain ⟨rested, count, settled⟩ := halted.settle_still
        obtain ⟨later, box, past, kept, _, lighter⟩ := halted.turns count
        rw [← settled] at kept lighter
        have moved : count ≠ 0 := by
          rintro rfl
          have stopped := rested bars (by
            rw [settled, Hub.play, List.replicate_zero, List.foldl_nil, halted.relays]
            exact List.mem_cons_self)
          rw [settled] at stopped
          exact Bool.false_ne_true ((Relay.step?_eq_none.mp stopped).1.symm.trans late)
        have fewer := lighter moved late
        obtain ⟨still, reached, moves, inside, passed⟩ :=
          ih kept rested (Nat.lt_of_lt_of_le fewer (Nat.le_of_lt_succ enough))
        refine ⟨still, reached,
          .wait (max hub.room.passed due - hub.room.passed) :: List.replicate count (.turn 0) ++
            moves, ?_, ?_⟩
        · simp [inside, Hub.Move.isInside]
        · refine passed.trans ?_
          rw [settled, hub.reach_eq, Hub.play_append]
          rfl
      · rename_i beyond
        refine arrive fun delivery member => ?_
        have after := bound delivery.due (List.mem_map_of_mem member)
        omega

theorem pass_still (ledger : Ledger capacity hub bars box published past roll)
    (still : hub.Still) (ms : Int) :
    (hub.pass ms).Still ∧ (hub.pass ms).room.passed = hub.room.passed + ms ∧
      ∃ moves, moves.all Hub.Move.isInside = true ∧ hub.pass ms = hub.play moves := by
  refine ledger.passWithin_still still _ ?_
  simp only [ledger.relays, List.foldl_cons, List.foldl_nil, Relay.messages,
    Relay.pendingCount_eq, ledger.queue, weight]
  omega

end Ledger

end SyntheticMarket
