import Mathlib
import SyntheticMarket.Proofs.Bus.Mailbox

/-! The books of a bus: beside the queues runs one mailbox for each of them. The queues hold what
the mailboxes hold, the counters of the bus are the sums of the books, and no put is ever refused.
-/

namespace SyntheticMarket

variable {β : Type}

namespace Bus

def put? (capacity : Int) (items : List β) (item : β) : Option (List β) :=
  if isFull capacity items then none else some (items ++ [item])

/-- One delivery in two steps: a full queue gives up its oldest item, then the new one is put. -/
def deliver? (item : β) (bus : Bus β) (number : Nat) : Option (Bus β) :=
  let items := bus.queue number
  let full := isFull bus.capacity items
  (put? bus.capacity (if full then items.tail else items) item).map fun items =>
    { bus with
      queues := bus.queues.set number items
      dropped := bus.dropped + if full then 1 else 0 }

/-- Publishing that fails as soon as a put is refused. -/
def publish? (bus : Bus β) (topic : String) (item : β) : Option (Bus β) :=
  (bus.subscribers topic).foldlM (deliver? item) { bus with published := bus.published + 1 }

/-- The mailboxes after an action. Each is told of it by itself. -/
def book (capacity : Int) (boxes : List (Mailbox β)) : Action β → List (Mailbox β)
  | .subscribe topic => boxes ++ [.opened topic]
  | action => boxes.mapIdx fun number box => box.act capacity number action

theorem book_silent {capacity : Int} (boxes : List (Mailbox β)) {action : Action β}
    (silent : ∀ topic, action ≠ .subscribe topic) :
    book capacity boxes action =
      boxes.mapIdx fun number box => box.act capacity number action := by
  cases action with
  | subscribe topic => exact absurd rfl (silent topic)
  | _ => rfl

def books (capacity : Int) (actions : List (Action β)) : List (Mailbox β) :=
  actions.foldl (book capacity) []

/-- The queues hold what waits in the mailboxes, and the evictions were counted. -/
structure Filled (bus : Bus β) (boxes : List (Mailbox β)) : Prop where
  queues_eq : bus.queues = boxes.map (·.waiting)
  dropped_eq : bus.dropped = (boxes.map (·.evictions)).sum
  balanced : ∀ box ∈ boxes, box.Balanced bus.capacity

/-- The subscriptions are those of the mailboxes, each listed once. -/
structure Listed (bus : Bus β) (boxes : List (Mailbox β)) : Prop where
  mem_iff : ∀ topic number, (topic, number) ∈ bus.subscriptions ↔
    ∃ box, boxes[number]? = some box ∧ box.topic = some topic
  nodup : bus.subscriptions.Nodup

variable {bus : Bus β} {boxes : List (Mailbox β)}

theorem isFull_iff (capacity : Int) (box : Mailbox β) :
    isFull capacity box.waiting = true ↔ box.IsFull capacity := by
  simp [isFull, Mailbox.IsFull]

theorem isFull_nil (capacity : Int) : isFull capacity ([] : List β) = false := by
  simp [isFull]

theorem offer_waiting (capacity : Int) (box : Mailbox β) (item : β) :
    offer capacity box.waiting item = (box.hear capacity item).waiting := by
  rw [offer, Mailbox.waiting_hear]
  simp only [isFull_iff]

theorem sum_map_modify {γ : Type} (weigh : γ → Nat) (change : γ → γ) {items : List γ} {place : Nat}
    {item : γ} {gain : Nat} (found : items[place]? = some item)
    (grown : weigh (change item) = weigh item + gain) :
    ((items.modify place change).map weigh).sum = (items.map weigh).sum + gain := by
  induction items generalizing place with
  | nil => simp at found
  | cons first rest ih =>
    cases place with
    | zero =>
      obtain rfl : first = item := by simpa using found
      simp [grown]
      omega
    | succ place =>
      have deeper := @ih place (by simpa using found)
      simp [deeper]
      omega

theorem Filled.queue_eq (filled : bus.Filled boxes) (number : Nat) :
    bus.queue number = (boxes[number]?.map (·.waiting)).getD [] := by
  simp [queue, filled.queues_eq, List.getD_eq_getElem?_getD]

theorem Filled.update (filled : bus.Filled boxes) {number : Nat} {box : Mailbox β}
    (found : boxes[number]? = some box) (change : Mailbox β → Mailbox β) (gain : Nat)
    (grown : (change box).evictions = box.evictions + gain)
    (balanced : (change box).Balanced bus.capacity) :
    ({ bus with
        queues := bus.queues.set number (change box).waiting
        dropped := bus.dropped + gain } : Bus β).Filled (boxes.modify number change) := by
  refine ⟨?_, ?_, ?_⟩
  · rw [filled.queues_eq]
    apply List.ext_getElem?
    intro place
    obtain ⟨within, rfl⟩ := List.getElem?_eq_some_iff.mp found
    by_cases here : number = place
    · subst here
      simp [within]
    · simp [here]
  · rw [sum_map_modify _ _ found grown, ← filled.dropped_eq]
  · intro other member
    obtain ⟨place, reached⟩ := List.mem_iff_getElem?.mp member
    rw [List.getElem?_modify] at reached
    obtain ⟨old, stood, rfl⟩ := Option.map_eq_some_iff.mp reached
    split
    · rename_i here
      rw [← here, found] at stood
      obtain rfl := Option.some.inj stood
      exact balanced
    · exact filled.balanced old (List.mem_of_getElem? stood)

theorem Filled.deliver (filled : bus.Filled boxes) (item : β) (number : Nat) :
    (bus.deliver item number).Filled (boxes.modify number (·.hear bus.capacity item)) := by
  cases found : boxes[number]? with
  | none =>
    have empty : bus.queue number = [] := by simp [filled.queue_eq, found]
    have beyond : boxes.length ≤ number := List.getElem?_eq_none_iff.mp found
    have same : boxes.modify number (·.hear bus.capacity item) = boxes :=
      List.modify_eq_self beyond
    rw [same]
    refine ⟨?_, ?_, filled.balanced⟩
    · rw [Bus.deliver, filled.queues_eq]
      exact List.set_eq_of_length_le (by simpa using beyond)
    · simp [Bus.deliver, empty, isFull_nil, filled.dropped_eq]
  | some box =>
    have held : bus.queue number = box.waiting := by simp [filled.queue_eq, found]
    have balanced := (filled.balanced box (List.mem_of_getElem? found)).hear item
    have heard := filled.update found (·.hear bus.capacity item) _
      (Mailbox.evictions_hear item box) balanced
    simp only [← isFull_iff] at heard
    rw [Bus.deliver, held, offer_waiting]
    exact heard

theorem Filled.take (filled : bus.Filled boxes) (number : Nat) :
    (bus.act (.take number)).Filled (boxes.modify number (·.lose .taken)) := by
  cases found : boxes[number]? with
  | none =>
    have empty : bus.queue number = [] := by simp [filled.queue_eq, found]
    have beyond : boxes.length ≤ number := List.getElem?_eq_none_iff.mp found
    have same : boxes.modify number (·.lose .taken) = boxes := List.modify_eq_self beyond
    rw [act, take?, empty, same]
    exact filled
  | some box =>
    have held : bus.queue number = box.waiting := by simp [filled.queue_eq, found]
    have balanced := (filled.balanced box (List.mem_of_getElem? found)).lose_taken
    have lost := filled.update found (·.lose .taken) 0 (Mailbox.evictions_lose_taken box) balanced
    rw [Mailbox.waiting_lose] at lost
    have shorter : bus.act (.take number) =
        { bus with queues := bus.queues.set number box.waiting.tail } := by
      rw [act, take?, held]
      split
      · rename_i empty
        have stands : bus.queues[number]? = some [] := by simp [filled.queues_eq, found, empty]
        obtain ⟨within, same⟩ := List.getElem?_eq_some_iff.mp stands
        have kept : bus.queues.set number [] = bus.queues := by
          rw [← same, List.set_getElem_self]
        simp [empty, kept]
      · rename_i full
        simp [full]
    rw [shorter]
    exact lost

/-- Once a full queue gave up its oldest item there is room in it. -/
theorem Filled.deliver?_eq (filled : bus.Filled boxes) (item : β) (number : Nat) :
    bus.deliver? item number = some (bus.deliver item number) := by
  have roomy : isFull bus.capacity (if isFull bus.capacity (bus.queue number) then
      (bus.queue number).tail else bus.queue number) = false := by
    cases found : boxes[number]? with
    | none =>
      have empty : bus.queue number = [] := by simp [filled.queue_eq, found]
      simp [empty, isFull_nil]
    | some box =>
      have held : bus.queue number = box.waiting := by simp [filled.queue_eq, found]
      have bounded := (filled.balanced box (List.mem_of_getElem? found)).bounded
      rw [held]
      split
      · rename_i full
        obtain ⟨positive, reached⟩ := (isFull_iff bus.capacity box).mp full
        have bounded := bounded positive
        simp [isFull]
        omega
      · rename_i roomy
        simpa using roomy
  have accepted : put? bus.capacity (if isFull bus.capacity (bus.queue number) then
      (bus.queue number).tail else bus.queue number) item =
        some (offer bus.capacity (bus.queue number) item) := by
    rw [put?, roomy]
    rfl
  rw [deliver?, accepted]
  rfl

theorem Filled.deliverAll (filled : bus.Filled boxes) (item : β) (numbers : List Nat) :
    (numbers.foldl (Bus.deliver item) bus).Filled
        (numbers.foldl (fun boxes number => boxes.modify number (·.hear bus.capacity item)) boxes) ∧
      numbers.foldlM (deliver? item) bus = some (numbers.foldl (Bus.deliver item) bus) := by
  induction numbers generalizing bus boxes with
  | nil => exact ⟨filled, rfl⟩
  | cons number others ih =>
    obtain ⟨later, accepted⟩ := ih (filled.deliver item number)
    refine ⟨later, ?_⟩
    rw [List.foldlM_cons, filled.deliver?_eq]
    exact accepted

theorem getElem?_modify_all {γ : Type} (change : γ → γ) {numbers : List Nat}
    (once : numbers.Nodup) (items : List γ) (place : Nat) :
    (numbers.foldl (fun items number => items.modify number change) items)[place]? =
      items[place]?.map fun item => if place ∈ numbers then change item else item := by
  induction numbers generalizing items with
  | nil => simp
  | cons number others ih =>
    obtain ⟨apart, rest⟩ := List.nodup_cons.mp once
    rw [List.foldl_cons, ih rest, List.getElem?_modify]
    by_cases here : number = place
    · subst here
      cases items[number]? <;> simp [apart]
    · simp [here, Ne.symm here]

theorem mem_subscribers (bus : Bus β) (topic : String) (number : Nat) :
    number ∈ bus.subscribers topic ↔ (topic, number) ∈ bus.subscriptions := by
  simp only [subscribers, List.mem_map, List.mem_filter, beq_iff_eq]
  constructor
  · rintro ⟨⟨_, _⟩, ⟨listed, rfl⟩, rfl⟩
    exact listed
  · intro listed
    exact ⟨_, ⟨listed, rfl⟩, rfl⟩

theorem Listed.subscribers_nodup (listed : bus.Listed boxes) (topic : String) :
    (bus.subscribers topic).Nodup := by
  apply List.Nodup.map_on _ (listed.nodup.filter _)
  rintro ⟨_, _⟩ first ⟨_, _⟩ second same
  have left := (List.mem_filter.mp first).2
  have right := (List.mem_filter.mp second).2
  simp_all

/-- Every mailbox that is subscribed to the topic hears the item, and no put is refused. -/
theorem Filled.publish (filled : bus.Filled boxes) (listed : bus.Listed boxes) (topic : String)
    (item : β) :
    (bus.publish topic item).Filled (book bus.capacity boxes (.publish topic item)) ∧
      bus.publish? topic item = some (bus.publish topic item) := by
  have announced : ({ bus with published := bus.published + 1 } : Bus β).Filled boxes :=
    ⟨filled.queues_eq, filled.dropped_eq, filled.balanced⟩
  obtain ⟨heard, accepted⟩ := announced.deliverAll item (bus.subscribers topic)
  refine ⟨?_, accepted⟩
  have told : (bus.subscribers topic).foldl
      (fun boxes number => boxes.modify number (·.hear bus.capacity item)) boxes =
        book bus.capacity boxes (.publish topic item) := by
    apply List.ext_getElem?
    intro place
    change _ = (boxes.mapIdx fun number box =>
      box.act bus.capacity number (.publish topic item))[place]?
    rw [getElem?_modify_all _ (listed.subscribers_nodup topic), List.getElem?_mapIdx]
    simp only [mem_subscribers, listed.mem_iff, Mailbox.act]
    cases found : boxes[place]? <;> simp
  rw [← told]
  exact heard

structure Kept (bus : Bus β) (boxes : List (Mailbox β)) : Prop where
  filled : bus.Filled boxes
  listed : bus.Listed boxes

theorem length_eq (filled : bus.Filled boxes) : bus.queues.length = boxes.length := by
  rw [filled.queues_eq, List.length_map]

theorem queue_subscribe (bus : Bus β) (topic : String) (number : Nat) :
    (bus.subscribe topic).2.queue number = bus.queue number := by
  simp only [queue, subscribe, List.getD_eq_getElem?_getD, List.getElem?_append]
  grind

theorem Kept.subscribe (kept : bus.Kept boxes) (topic : String) :
    (bus.act (.subscribe topic)).Kept (boxes ++ [.opened topic]) := by
  have next := length_eq kept.filled
  refine ⟨⟨?_, ?_, ?_⟩, ?_, ?_⟩
  · simp [act, Bus.subscribe, kept.filled.queues_eq, Mailbox.opened]
  · simp [act, Bus.subscribe, kept.filled.dropped_eq, Mailbox.opened, Mailbox.evictions]
  · intro box member
    rcases List.mem_append.mp member with old | new
    · exact kept.filled.balanced box old
    · obtain rfl := List.mem_singleton.mp new
      exact Mailbox.opened_balanced _ topic
  · intro other number
    have known := kept.listed.mem_iff other number
    simp only [act, Bus.subscribe, next, List.mem_append, List.mem_singleton, Prod.mk.injEq, known]
    rcases Nat.lt_trichotomy number boxes.length with old | rfl | beyond
    · rw [List.getElem?_append_left old]
      simp [Nat.ne_of_lt old]
    · simp [Mailbox.opened, eq_comm]
    · have past : (boxes ++ [Mailbox.opened topic])[number]? = none := by simp; omega
      have before : boxes[number]? = none := by simp; omega
      simp [past, before, Nat.ne_of_gt beyond]
  · refine List.nodup_append.mpr ⟨kept.listed.nodup, List.nodup_singleton _, ?_⟩
    rintro ⟨_, _⟩ listed _ new same
    obtain rfl := List.mem_singleton.mp new
    obtain ⟨rfl, rfl⟩ := Prod.mk.inj same
    obtain ⟨box, found, _⟩ := (kept.listed.mem_iff _ _).mp listed
    simp [next] at found

/-- A delivery touches the queues and the count of evictions only. -/
theorem deliverAll_frame (bus : Bus β) (item : β) (numbers : List Nat) :
    (numbers.foldl (Bus.deliver item) bus).capacity = bus.capacity ∧
      (numbers.foldl (Bus.deliver item) bus).subscriptions = bus.subscriptions ∧
      (numbers.foldl (Bus.deliver item) bus).published = bus.published := by
  induction numbers generalizing bus with
  | nil => exact ⟨rfl, rfl, rfl⟩
  | cons number others ih => exact ih (bus.deliver item number)

theorem take_frame (bus : Bus β) (number : Nat) :
    (bus.act (.take number)).capacity = bus.capacity ∧
      (bus.act (.take number)).subscriptions = bus.subscriptions ∧
      (bus.act (.take number)).published = bus.published := by
  rw [act, take?]
  split <;> exact ⟨rfl, rfl, rfl⟩

@[simp] theorem capacity_act (bus : Bus β) (action : Action β) :
    (bus.act action).capacity = bus.capacity := by
  cases action with
  | subscribe => rfl
  | unsubscribe => rfl
  | unsubscribeAll topic =>
    rw [act, Bus.unsubscribeAll.eq_def]
    split <;> rfl
  | publish topic item => exact (deliverAll_frame _ item _).1
  | take number => exact (take_frame bus number).1

theorem published_act (bus : Bus β) (action : Action β) :
    (bus.act action).published = bus.published + if action.isPublish then 1 else 0 := by
  cases action with
  | subscribe => rfl
  | unsubscribe => rfl
  | unsubscribeAll topic =>
    rw [act, Bus.unsubscribeAll.eq_def]
    split <;> rfl
  | publish topic item => exact (deliverAll_frame _ item _).2.2
  | take number => exact (take_frame bus number).2.2

/-- Apart from a new subscription, an action only ends some. -/
theorem subscriptions_act (bus : Bus β) {action : Action β}
    (silent : ∀ topic, action ≠ .subscribe topic) :
    (bus.act action).subscriptions =
      bus.subscriptions.filter fun entry => !action.ends entry.1 entry.2 := by
  cases action with
  | subscribe topic => exact absurd rfl (silent topic)
  | unsubscribe topic number =>
    apply List.filter_congr
    rintro ⟨other, which⟩ _
    by_cases same : topic = other
    · subst same
      by_cases own : number = which
      · simp [Action.ends, own]
      · simp [Action.ends, own, Ne.symm own]
    · simp [Action.ends, same, Ne.symm same]
  | unsubscribeAll topic =>
    rw [act, Bus.unsubscribeAll.eq_def]
    split
    · simp [Action.ends]
    · simp [Action.ends]
    · rename_i topic named
      apply List.filter_congr
      rintro ⟨other, which⟩ _
      by_cases same : topic = other
      · simp [Action.ends, same]
      · have different : (other != topic) = true := bne_iff_ne.mpr (Ne.symm same)
        simp [Action.ends, same, different, show ¬ topic = "" from named]
  | publish topic item =>
    rw [act, Bus.publish, (deliverAll_frame _ item _).2.1]
    exact (List.filter_eq_self.mpr fun _ _ => rfl).symm
  | take number =>
    rw [(take_frame bus number).2.1]
    exact (List.filter_eq_self.mpr fun _ _ => rfl).symm

theorem Listed.act (listed : bus.Listed boxes) {action : Action β}
    (silent : ∀ topic, action ≠ .subscribe topic) :
    (bus.act action).Listed
      (boxes.mapIdx fun number box => box.act bus.capacity number action) := by
  refine ⟨?_, ?_⟩ <;> rw [subscriptions_act bus silent]
  · intro topic number
    rw [List.mem_filter, listed.mem_iff, List.getElem?_mapIdx]
    cases boxes[number]? <;> simp [Mailbox.topic_act_iff]
  · exact listed.nodup.filter _

theorem Filled.relabel (filled : bus.Filled boxes) {change : Nat → Mailbox β → Mailbox β}
    (same : ∀ number box, ∃ topic, change number box = { box with topic }) :
    bus.Filled (boxes.mapIdx change) := by
  have waiting (number : Nat) (box : Mailbox β) : (change number box).waiting = box.waiting := by
    obtain ⟨_, relabelled⟩ := same number box
    rw [relabelled]
  have evictions (number : Nat) (box : Mailbox β) :
      (change number box).evictions = box.evictions := by
    obtain ⟨_, relabelled⟩ := same number box
    rw [relabelled]
    rfl
  refine ⟨?_, ?_, ?_⟩
  · rw [filled.queues_eq]
    apply List.ext_getElem?
    intro number
    cases found : boxes[number]? <;> simp [found, waiting]
  · rw [filled.dropped_eq]
    apply congrArg List.sum
    apply List.ext_getElem?
    intro number
    cases found : boxes[number]? <;> simp [found, evictions]
  · intro box member
    obtain ⟨number, within, rfl⟩ := List.mem_mapIdx.mp member
    obtain ⟨_, relabelled⟩ := same number boxes[number]
    have balanced := filled.balanced _ (List.getElem_mem within)
    rw [relabelled]
    exact ⟨balanced.heard_eq, balanced.bounded, balanced.spared⟩

theorem Filled.act (filled : bus.Filled boxes) (listed : bus.Listed boxes) {action : Action β}
    (silent : ∀ topic, action ≠ .subscribe topic) :
    (bus.act action).Filled
      (boxes.mapIdx fun number box => box.act bus.capacity number action) := by
  cases action with
  | subscribe topic => exact absurd rfl (silent topic)
  | unsubscribe topic number =>
    have quiet (place : Nat) (box : Mailbox β) := box.act_quiet bus.capacity place
      (show ∀ other item, Action.unsubscribe topic number ≠ .publish other item by simp) (by simp)
    have same := filled.relabel quiet
    exact ⟨same.queues_eq, same.dropped_eq, same.balanced⟩
  | unsubscribeAll topic =>
    have quiet (place : Nat) (box : Mailbox β) := box.act_quiet bus.capacity place
      (show ∀ other item, Action.unsubscribeAll topic ≠ .publish other item by simp) (by simp)
    have same := filled.relabel quiet
    rw [Bus.act, Bus.unsubscribeAll.eq_def]
    split <;> exact ⟨same.queues_eq, same.dropped_eq, same.balanced⟩
  | publish topic item => exact (filled.publish listed topic item).1
  | take number =>
    have same : boxes.mapIdx (fun place box => box.act bus.capacity place (.take number)) =
        boxes.modify number (·.lose .taken) := by
      apply List.ext_getElem?
      intro place
      rw [List.getElem?_mapIdx, List.getElem?_modify]
      rfl
    rw [same]
    exact filled.take number

theorem Kept.act (kept : bus.Kept boxes) (action : Action β) :
    (bus.act action).Kept (book bus.capacity boxes action) := by
  by_cases opening : ∃ topic, action = .subscribe topic
  · obtain ⟨topic, rfl⟩ := opening
    exact kept.subscribe topic
  · have silent : ∀ topic, action ≠ .subscribe topic := fun topic same => opening ⟨topic, same⟩
    rw [book_silent boxes silent]
    exact ⟨kept.filled.act kept.listed silent, kept.listed.act silent⟩

theorem Kept.run (kept : bus.Kept boxes) (actions : List (Action β)) :
    (bus.run actions).Kept (actions.foldl (book bus.capacity) boxes) := by
  induction actions generalizing bus boxes with
  | nil => exact kept
  | cons action later ih =>
    have next := ih (kept.act action)
    rwa [capacity_act] at next

theorem empty_kept (capacity : Int) : (empty capacity : Bus β).Kept [] :=
  ⟨⟨rfl, rfl, by simp⟩, by simp [empty], List.nodup_nil⟩

theorem run_kept (capacity : Int) (actions : List (Action β)) :
    ((empty capacity).run actions).Kept (books capacity actions) :=
  (empty_kept capacity).run actions

theorem published_run (bus : Bus β) (actions : List (Action β)) :
    (bus.run actions).published = bus.published + actions.countP (·.isPublish) := by
  induction actions generalizing bus with
  | nil => rfl
  | cons action later ih =>
    rw [run, List.foldl_cons, ← run, ih, published_act, List.countP_cons]
    omega

theorem capacity_run (bus : Bus β) (actions : List (Action β)) :
    (bus.run actions).capacity = bus.capacity := by
  induction actions generalizing bus with
  | nil => rfl
  | cons action later ih => exact (ih (bus.act action)).trans (capacity_act bus action)

/-- A mailbox comes from the one before the action, or the action opened it. -/
theorem book_cases {capacity : Int} {action : Action β} {number : Nat} {box : Mailbox β}
    (found : (book capacity boxes action)[number]? = some box) :
    (∃ old, boxes[number]? = some old ∧ box = old.act capacity number action) ∨
      ∃ topic, action = .subscribe topic ∧ number = boxes.length ∧ box = .opened topic := by
  by_cases opening : ∃ topic, action = .subscribe topic
  · obtain ⟨topic, rfl⟩ := opening
    rcases Nat.lt_or_ge number boxes.length with old | new
    · rw [book, List.getElem?_append_left old] at found
      exact .inl ⟨box, found, (Mailbox.act_unconcerned rfl).symm⟩
    · rw [book, List.getElem?_append_right new, List.getElem?_singleton] at found
      split at found
      · exact .inr ⟨topic, rfl, by omega, (Option.some.inj found).symm⟩
      · cases found
  · have silent : ∀ topic, action ≠ .subscribe topic := fun topic same => opening ⟨topic, same⟩
    rw [book_silent boxes silent, List.getElem?_mapIdx] at found
    obtain ⟨old, stood, same⟩ := Option.map_eq_some_iff.mp found
    exact .inl ⟨old, stood, same.symm⟩

/-- Every mailbox was opened by a subscription and ran by itself from there on. -/
theorem books_opened {capacity : Int} {actions : List (Action β)} {number : Nat} {box : Mailbox β}
    (found : (books capacity actions)[number]? = some box) :
    ∃ before topic later, actions = before ++ .subscribe topic :: later ∧
      (books capacity before).length = number ∧
      box = (Mailbox.opened topic).run capacity number later := by
  induction actions using List.reverseRecOn generalizing box with
  | nil => simp [books] at found
  | append_singleton actions action ih =>
    rw [books, List.foldl_append] at found
    obtain ⟨old, stood, rfl⟩ | ⟨topic, rfl, rfl, rfl⟩ := book_cases found
    · obtain ⟨before, topic, later, rfl, handed, rfl⟩ := ih stood
      refine ⟨before, topic, later ++ [action], by simp, handed, ?_⟩
      rw [Mailbox.run, Mailbox.run, List.foldl_append]
      rfl
    · exact ⟨actions, topic, [], rfl, rfl, rfl⟩

/-- After any actions the queues are those of the mailboxes, and the counters add up their evictions
and the publications; no put is ever refused. Every mailbox is that of a queue handed out by a
subscription and a run by itself on what concerns it since then; it heard what was published on its
topic until its subscription ended, its book adds up, and its front item is the next to be taken. -/
theorem run_booked (capacity : Int) (actions : List (Action β)) :
    let bus := (empty capacity).run actions
    let boxes := books capacity actions
    bus.queues = boxes.map (·.waiting) ∧
      bus.dropped = (boxes.map (·.evictions)).sum ∧
      bus.published = actions.countP (·.isPublish) ∧
      (∀ topic item, bus.publish? topic item = some (bus.publish topic item)) ∧
      ∀ number box, boxes[number]? = some box →
        box.Balanced capacity ∧
        box.heard.length = box.takings + box.evictions + box.waiting.length ∧
        (bus.take? number).map (·.1) = box.waiting.head? ∧
        ∃ before topic later, actions = before ++ .subscribe topic :: later ∧
          (((empty capacity).run before).subscribe topic).1 = number ∧
          box = (Mailbox.opened topic).run capacity number (later.filter (·.concerns number)) ∧
          box.heard = (later.takeWhile (!·.ends topic number)).flatMap (·.published topic) := by
  intro bus boxes
  have kept : bus.Kept boxes := run_kept capacity actions
  have wide : bus.capacity = capacity := capacity_run _ actions
  refine ⟨kept.filled.queues_eq, kept.filled.dropped_eq, ?_, ?_, ?_⟩
  · exact (published_run _ actions).trans (Nat.zero_add _)
  · intro topic item
    exact (kept.filled.publish kept.listed topic item).2
  · intro number box found
    have balanced := kept.filled.balanced box (List.mem_of_getElem? found)
    rw [wide] at balanced
    obtain ⟨before, topic, later, split, handed, alone⟩ := books_opened found
    have subscribed : (Mailbox.opened topic : Mailbox β).topic = some topic := rfl
    have heard := Mailbox.heard_run capacity number subscribed later
    refine ⟨balanced, Mailbox.length_heard balanced, ?_, before, topic, later, split, ?_, ?_, ?_⟩
    · rw [take?, kept.filled.queue_eq, found, Option.map_some, Option.getD_some]
      cases box.waiting <;> rfl
    · exact (length_eq (run_kept capacity before).filled).trans handed
    · rw [Mailbox.run_concerned]
      exact alone
    · rw [alone]
      exact heard

end Bus

end SyntheticMarket
