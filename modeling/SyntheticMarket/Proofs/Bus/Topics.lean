import SyntheticMarket.Proofs.Bus.Books

/-! Topics side by side. An action on one topic leaves the subscribers of every other topic and the
items of their queues, with one exception: ending the subscriptions of the topic that is named by an
empty text ends those of all topics. -/

namespace SyntheticMarket

namespace Bus

variable {β : Type} {bus : Bus β} {action : Bus.Action β} {topic other : String} {number : Nat}

/-- The topic that an action is about. Ending all subscriptions may be about none, and taking is
about a queue. -/
def Action.topic? : Action β → Option String
  | subscribe topic => some topic
  | unsubscribe topic _ => some topic
  | unsubscribeAll topic => topic
  | publish topic _ => some topic
  | take _ => none

def Action.EndsAll (action : Action β) : Prop :=
  action = .unsubscribeAll none ∨ action = .unsubscribeAll (some "")

/-- An action neither about a topic nor about all of them, and one that takes nothing from the
queue. -/
structure Action.Elsewhere (topic : String) (number : Nat) (action : Action β) : Prop where
  topic_ne : action.topic? ≠ some topic
  endsAll_not : ¬action.EndsAll
  take_ne : action ≠ .take number

theorem queue_deliver_other (bus : Bus β) (item : β) {place : Nat} (elsewhere : place ≠ number) :
    (bus.deliver item place).queue number = bus.queue number := by
  simp only [queue, deliver, List.getD_eq_getElem?_getD, List.getElem?_set_ne elsewhere]

theorem queue_deliverAll_other (bus : Bus β) (item : β) {places : List Nat}
    (elsewhere : number ∉ places) :
    (places.foldl (deliver item) bus).queue number = bus.queue number := by
  induction places generalizing bus with
  | nil => rfl
  | cons place others ih =>
    obtain ⟨here, there⟩ := not_or.mp (mt List.mem_cons.mpr elsewhere)
    rw [List.foldl_cons, ih _ there, queue_deliver_other bus item (Ne.symm here)]

theorem queue_take_other (bus : Bus β) {place : Nat} (elsewhere : place ≠ number) :
    (bus.act (.take place)).queue number = bus.queue number := by
  rw [act, take?]
  split
  · rfl
  · simp only [Option.map_some, Option.getD_some, queue, List.getD_eq_getElem?_getD,
      List.getElem?_set_ne elsewhere]

/-- The items of a queue change only by an action on a topic it is subscribed to, or by taking one
of them. -/
theorem queue_act (unsubscribed : ∀ topic, action.topic? = some topic →
      number ∉ bus.subscribers topic) (left : action ≠ .take number) :
    (bus.act action).queue number = bus.queue number := by
  cases action with
  | subscribe topic => exact queue_subscribe bus topic number
  | unsubscribe => rfl
  | unsubscribeAll topic =>
    rw [act, unsubscribeAll.eq_def]
    split <;> rfl
  | publish topic item => exact queue_deliverAll_other _ item (unsubscribed topic rfl)
  | take place => exact queue_take_other bus fun same => left (same ▸ rfl)

theorem subscribers_subscribe (bus : Bus β) (topic other : String) :
    (bus.subscribe topic).2.subscribers other =
      bus.subscribers other ++ if topic = other then [bus.queues.length] else [] := by
  by_cases same : topic = other <;> simp [subscribers, subscribe, same]

/-- Apart from a new subscription, an action only ends some. -/
theorem subscribers_act (bus : Bus β) (silent : ∀ topic, action ≠ .subscribe topic)
    (topic : String) :
    (bus.act action).subscribers topic =
      (bus.subscribers topic).filter fun number => !action.ends topic number := by
  rw [subscribers, subscribers, subscriptions_act bus silent, List.filter_map, List.filter_filter,
    List.filter_filter]
  refine congrArg _ (List.filter_congr fun entry _ => ?_)
  by_cases same : entry.1 = topic
  · simp [same]
  · simp [beq_eq_false_iff_ne.mpr same]

theorem ends_elsewhere (elsewhere : action.topic? ≠ some topic) (partly : ¬action.EndsAll) :
    action.ends topic number = false := by
  cases action with
  | unsubscribe other which =>
    have apart : other ≠ topic := fun same => elsewhere (same ▸ rfl)
    simp [Action.ends, apart]
  | unsubscribeAll named =>
    cases named with
    | none => exact absurd (.inl rfl) partly
    | some other =>
      have apart : other ≠ topic := fun same => elsewhere (same ▸ rfl)
      have nonempty : other ≠ "" := fun same => partly (.inr (same ▸ rfl))
      simp [Action.ends, apart, nonempty]
  | _ => rfl

/-- What is done about one topic leaves the subscribers of another one. -/
theorem subscribers_act_other (elsewhere : action.topic? ≠ some topic)
    (partly : ¬action.EndsAll) : (bus.act action).subscribers topic = bus.subscribers topic := by
  by_cases opening : ∃ other, action = .subscribe other
  · obtain ⟨other, rfl⟩ := opening
    have apart : other ≠ topic := fun same => elsewhere (same ▸ rfl)
    rw [act, subscribers_subscribe, if_neg apart, List.append_nil]
  · have silent : ∀ other, action ≠ .subscribe other := fun other same => opening ⟨other, same⟩
    rw [subscribers_act bus silent]
    exact List.filter_eq_self.mpr fun number _ => by simp [ends_elsewhere elsewhere partly]

theorem subscribers_endsAll (all : action.EndsAll) (topic : String) :
    (bus.act action).subscribers topic = [] := by
  obtain rfl | rfl := all <;> rfl

theorem length_queues_act (bus : Bus β) (action : Action β) :
    bus.queues.length ≤ (bus.act action).queues.length := by
  have delivered (item : β) (places : List Nat) : ∀ bus : Bus β,
      (places.foldl (deliver item) bus).queues.length = bus.queues.length := by
    induction places with
    | nil => exact fun _ => rfl
    | cons place others ih => exact fun bus => (ih _).trans List.length_set
  cases action with
  | subscribe topic => simp [act, subscribe]
  | unsubscribe => exact le_rfl
  | unsubscribeAll topic =>
    rw [act, unsubscribeAll.eq_def]
    split <;> exact le_rfl
  | publish topic item =>
    exact (delivered item (bus.subscribers topic) { bus with published := bus.published + 1 }).ge
  | take place =>
    rw [act, take?]
    split
    · exact le_rfl
    · simp

/-- A queue that was handed out is subscribed to nothing but what it was subscribed to. -/
theorem mem_subscribers_act (handed : number < bus.queues.length)
    (member : number ∈ (bus.act action).subscribers topic) : number ∈ bus.subscribers topic := by
  by_cases opening : ∃ other, action = .subscribe other
  · obtain ⟨other, rfl⟩ := opening
    rw [act, subscribers_subscribe, List.mem_append] at member
    obtain old | new := member
    · exact old
    · split at new
      · exact absurd (List.mem_singleton.mp new) handed.ne
      · cases new
  · have silent : ∀ other, action ≠ .subscribe other := fun other same => opening ⟨other, same⟩
    rw [subscribers_act bus silent] at member
    exact (List.mem_filter.mp member).1

/-- However much is done about other topics, a topic keeps its subscribers, and a queue subscribed
to this topic only keeps its items. -/
theorem run_elsewhere (handed : number < bus.queues.length)
    (only : ∀ other ≠ topic, number ∉ bus.subscribers other) {actions : List (Action β)}
    (elsewhere : ∀ action ∈ actions, action.Elsewhere topic number) :
    (bus.run actions).subscribers topic = bus.subscribers topic ∧
      (bus.run actions).queue number = bus.queue number := by
  induction actions generalizing bus with
  | nil => exact ⟨rfl, rfl⟩
  | cons action later ih =>
    have first := elsewhere action List.mem_cons_self
    have kept : (bus.act action).subscribers topic = bus.subscribers topic :=
      subscribers_act_other first.topic_ne first.endsAll_not
    have held : (bus.act action).queue number = bus.queue number :=
      queue_act (fun other about => only other fun same => first.topic_ne (same ▸ about))
        first.take_ne
    obtain ⟨subscribers, items⟩ := ih (handed.trans_le (length_queues_act bus action))
      (fun other apart member => only other apart (mem_subscribers_act handed member))
      (fun action member => elsewhere action (List.mem_cons_of_mem _ member))
    exact ⟨subscribers.trans kept, items.trans held⟩

theorem spares_others_iff (about : action.topic? = some topic) :
    (∀ other ≠ topic, (bus.act action).subscribers other = bus.subscribers other) ↔
      (action = .unsubscribeAll (some "") → ∀ other ≠ "", bus.subscribers other = []) := by
  by_cases empty : action = .unsubscribeAll (some "")
  · subst empty
    obtain rfl := Option.some.inj about
    refine ⟨fun kept _ other apart => (kept other apart).symm, fun alone other apart => ?_⟩
    exact (alone rfl other apart).symm
  · refine iff_of_true (fun other apart => ?_) fun same => absurd same empty
    refine subscribers_act_other (fun same => apart ?_) ?_
    · exact Option.some.inj (same.symm.trans about)
    · rintro (rfl | same)
      · cases about
      · exact empty same

/-- An action on a topic leaves the items of all queues not subscribed to it. It leaves the
subscribers of all other topics too, unless it ends the subscriptions of the topic that is named by
an empty text while another one has subscribers. Ending one subscription removes it and keeps the
order of the others, ending those of a topic leaves none; no subscription to any topic remains when
they are ended with no topic named or with an empty text, and only then does an action change the
subscribers of a topic it is not about. So a whole run of other actions leaves the subscribers of a
topic and the items of a queue that is subscribed to no other one. -/
theorem topics_isolated (bus : Bus β) (topic : String) :
    (∀ action : Action β, action.topic? = some topic →
      (∀ number ∉ bus.subscribers topic, (bus.act action).queue number = bus.queue number) ∧
      ((∀ other ≠ topic, (bus.act action).subscribers other = bus.subscribers other) ↔
        (action = .unsubscribeAll (some "") → ∀ other ≠ "", bus.subscribers other = []))) ∧
      (∀ number, (bus.unsubscribe topic number).subscribers topic =
        (bus.subscribers topic).filter (· ≠ number)) ∧
      (bus.unsubscribeAll (some topic)).subscribers topic = [] ∧
      (∀ action : Action β, action.topic? ≠ some topic →
        (bus.act action).subscribers topic ≠ bus.subscribers topic → action.EndsAll) ∧
      (∀ action : Action β, action.EndsAll → (bus.act action).subscribers topic = []) ∧
      ∀ number < bus.queues.length, (∀ other ≠ topic, number ∉ bus.subscribers other) →
        ∀ actions : List (Action β), (∀ action ∈ actions, action.Elsewhere topic number) →
          (bus.run actions).subscribers topic = bus.subscribers topic ∧
            (bus.run actions).queue number = bus.queue number := by
  refine ⟨fun action about => ⟨?_, spares_others_iff about⟩, ?_, ?_, ?_, ?_, ?_⟩
  · intro number unsubscribed
    refine queue_act (fun other same => ?_) (fun same => ?_)
    · exact Option.some.inj (about.symm.trans same) ▸ unsubscribed
    · cases same ▸ about
  · intro number
    change (bus.act (.unsubscribe topic number)).subscribers topic = _
    rw [subscribers_act bus (by simp)]
    exact List.filter_congr fun which _ => by simp [Action.ends, eq_comm]
  · change (bus.act (.unsubscribeAll (some topic))).subscribers topic = []
    rw [subscribers_act bus (by simp)]
    simp [Action.ends]
  · intro action elsewhere changed
    by_contra partly
    exact changed (subscribers_act_other elsewhere partly)
  · exact fun action all => subscribers_endsAll all topic
  · exact fun number handed only actions elsewhere => run_elsewhere handed only elsewhere

/-- One queue for bars and one for the topic named by an empty text: once the subscriptions to the
latter are ended, nobody gets the bars any more. -/
theorem empty_topic_ends_others :
    let bus := (empty 10 : Bus Nat).run [.subscribe "ohlcv", .subscribe ""]
    bus.subscribers "ohlcv" = [0] ∧
      (bus.unsubscribeAll (some "")).subscribers "ohlcv" = [] ∧
      ((bus.unsubscribeAll (some "")).publish "ohlcv" 7).queue 0 = [] ∧
      (bus.publish "ohlcv" 7).queue 0 = [7] := by
  decide

end Bus

end SyntheticMarket
