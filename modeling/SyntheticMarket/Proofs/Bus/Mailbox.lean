import SyntheticMarket.Bus

/-! A queue of the bus by itself. Its mailbox is told of everything that is asked of the bus and
looks at nothing but its own book: it hears what is published on its topic until its subscription
ends, and every item that it heard was taken or evicted from the front, or still waits. -/

namespace SyntheticMarket

variable {β : Type}

namespace Bus

inductive Action (β : Type) where
  | subscribe (topic : String)
  | unsubscribe (topic : String) (number : Nat)
  | unsubscribeAll (topic : Option String)
  | publish (topic : String) (item : β)
  | take (number : Nat)
deriving DecidableEq, Repr

/-- The bus after an action; taking from an empty queue does nothing. -/
def act (bus : Bus β) : Action β → Bus β
  | .subscribe topic => (bus.subscribe topic).2
  | .unsubscribe topic number => bus.unsubscribe topic number
  | .unsubscribeAll topic => bus.unsubscribeAll topic
  | .publish topic item => bus.publish topic item
  | .take number => ((bus.take? number).map (·.2)).getD bus

def run (bus : Bus β) (actions : List (Action β)) : Bus β := actions.foldl act bus

namespace Action

def isPublish : Action β → Bool
  | publish _ _ => true
  | _ => false

def published (topic : String) : Action β → List β
  | publish other item => if other = topic then [item] else []
  | _ => []

def ends (topic : String) (number : Nat) : Action β → Bool
  | unsubscribe other which => other = topic && which = number
  | unsubscribeAll none => true
  | unsubscribeAll (some other) => other = "" || other = topic
  | _ => false

/-- Whether the action says anything to a queue. What is subscribed, unsubscribed or taken elsewhere
does not. -/
def concerns (number : Nat) : Action β → Bool
  | subscribe _ => false
  | unsubscribe _ which => which = number
  | take which => which = number
  | _ => true

end Action

end Bus

inductive Departure (β : Type) where
  | taken (item : β)
  | evicted (item : β)
deriving DecidableEq, Repr

namespace Departure

def item : Departure β → β
  | taken item => item
  | evicted item => item

def isEviction : Departure β → Bool
  | taken _ => false
  | evicted _ => true

end Departure

/-- The book of one queue: the topic it is subscribed to, all items it ever heard there, those that
left it, and those that wait in it. -/
structure Mailbox (β : Type) where
  topic : Option String
  heard : List β
  gone : List (Departure β)
  waiting : List β
deriving DecidableEq, Repr

namespace Mailbox

def opened (topic : String) : Mailbox β :=
  { topic := some topic, heard := [], gone := [], waiting := [] }

def evictions (box : Mailbox β) : Nat := box.gone.countP Departure.isEviction

def takings (box : Mailbox β) : Nat := box.gone.countP (!·.isEviction)

def taken (box : Mailbox β) : List β :=
  (box.gone.filter (!·.isEviction)).map Departure.item

/-- A capacity of zero or below is never used up. -/
def IsFull (capacity : Int) (box : Mailbox β) : Prop :=
  0 < capacity ∧ capacity ≤ box.waiting.length

instance (capacity : Int) (box : Mailbox β) : Decidable (box.IsFull capacity) :=
  inferInstanceAs (Decidable (_ ∧ _))

def lose (how : β → Departure β) (box : Mailbox β) : Mailbox β :=
  match box.waiting with
  | [] => box
  | oldest :: others => { box with gone := box.gone ++ [how oldest], waiting := others }

/-- One more item is heard and waits; where the capacity is used up, the front item is evicted. -/
def hear (capacity : Int) (item : β) (box : Mailbox β) : Mailbox β :=
  let roomy := if box.IsFull capacity then box.lose .evicted else box
  { roomy with heard := roomy.heard ++ [item], waiting := roomy.waiting ++ [item] }

def act (capacity : Int) (number : Nat) (box : Mailbox β) (action : Bus.Action β) : Mailbox β :=
  match action with
  | .publish topic item => if box.topic = some topic then box.hear capacity item else box
  | .take which => if which = number then box.lose .taken else box
  | action =>
    if box.topic.any fun topic => action.ends topic number then { box with topic := none } else box

def run (capacity : Int) (number : Nat) (box : Mailbox β) (actions : List (Bus.Action β)) :
    Mailbox β :=
  actions.foldl (act capacity number) box

/-- The book adds up: what was heard left from the front or waits, in the order of hearing; a queue
is never above a positive capacity and never evicts without one. -/
structure Balanced (capacity : Int) (box : Mailbox β) : Prop where
  heard_eq : box.heard = box.gone.map Departure.item ++ box.waiting
  bounded : 0 < capacity → (box.waiting.length : Int) ≤ capacity
  spared : capacity ≤ 0 → box.evictions = 0

variable {capacity : Int} {number : Nat} {box : Mailbox β} {topic : String}

theorem opened_balanced (capacity : Int) (topic : String) :
    (opened topic : Mailbox β).Balanced capacity :=
  ⟨rfl, fun positive => Int.le_of_lt positive, fun _ => rfl⟩

theorem length_heard (balanced : box.Balanced capacity) :
    box.heard.length = box.takings + box.evictions + box.waiting.length := by
  have parts := box.gone.length_eq_countP_add_countP Departure.isEviction
  rw [balanced.heard_eq, List.length_append, List.length_map, parts, takings, evictions]
  simp [Nat.add_comm]

@[simp] theorem heard_lose (how : β → Departure β) (box : Mailbox β) :
    (box.lose how).heard = box.heard := by
  rw [lose]
  split <;> rfl

@[simp] theorem topic_lose (how : β → Departure β) (box : Mailbox β) :
    (box.lose how).topic = box.topic := by
  rw [lose]
  split <;> rfl

@[simp] theorem waiting_lose (how : β → Departure β) (box : Mailbox β) :
    (box.lose how).waiting = box.waiting.tail := by
  rw [lose]
  split
  · rename_i empty
    simp [empty]
  · rename_i held
    simp [held]

/-- Whatever leaves from the front, the items stay in the order of hearing. -/
theorem heard_eq_lose (same : box.heard = box.gone.map Departure.item ++ box.waiting)
    (how : β → Departure β) (itself : ∀ item, (how item).item = item) :
    (box.lose how).heard =
      (box.lose how).gone.map Departure.item ++ (box.lose how).waiting := by
  rw [lose]
  split
  · exact same
  · rename_i held
    simp [same, held, itself]

theorem evictions_lose_taken (box : Mailbox β) : (box.lose .taken).evictions = box.evictions := by
  rw [lose]
  split
  · rfl
  · simp [evictions, Departure.isEviction]

/-- A full queue has a front item to evict. -/
theorem evictions_lose_evicted (full : box.IsFull capacity) :
    (box.lose .evicted).evictions = box.evictions + 1 := by
  obtain ⟨positive, reached⟩ := full
  rw [lose]
  split
  · rename_i empty
    rw [empty, List.length_nil] at reached
    omega
  · simp [evictions, Departure.isEviction]

theorem taken_lose {oldest : β} {others : List β} (held : box.waiting = oldest :: others) :
    (box.lose .taken).taken = box.taken ++ [oldest] := by
  rw [lose, held]
  simp [taken, Departure.isEviction, Departure.item]

theorem taken_hear (item : β) (box : Mailbox β) :
    (box.hear capacity item).taken = box.taken := by
  rw [hear]
  split
  · simp only [taken, lose]
    split <;> simp [Departure.isEviction]
  · rfl

theorem Balanced.lose_taken (balanced : box.Balanced capacity) :
    (box.lose .taken).Balanced capacity := by
  refine ⟨heard_eq_lose balanced.heard_eq .taken fun _ => rfl, ?_, ?_⟩
  · intro positive
    have bounded := balanced.bounded positive
    rw [waiting_lose, List.length_tail]
    omega
  · intro unbounded
    rw [evictions_lose_taken, balanced.spared unbounded]

@[simp] theorem topic_hear (item : β) (box : Mailbox β) :
    (box.hear capacity item).topic = box.topic := by
  rw [hear]
  split <;> simp

@[simp] theorem heard_hear (item : β) (box : Mailbox β) :
    (box.hear capacity item).heard = box.heard ++ [item] := by
  rw [hear]
  split <;> simp

theorem waiting_hear (item : β) (box : Mailbox β) :
    (box.hear capacity item).waiting =
      (if box.IsFull capacity then box.waiting.tail else box.waiting) ++ [item] := by
  rw [hear]
  split <;> simp

theorem evictions_hear (item : β) (box : Mailbox β) :
    (box.hear capacity item).evictions =
      box.evictions + if box.IsFull capacity then 1 else 0 := by
  rw [hear]
  split
  · rename_i full
    exact evictions_lose_evicted full
  · rfl

theorem Balanced.hear (balanced : box.Balanced capacity) (item : β) :
    (box.hear capacity item).Balanced capacity := by
  refine ⟨?_, ?_, ?_⟩
  · rw [Mailbox.hear]
    split
    · have kept := heard_eq_lose balanced.heard_eq .evicted fun _ => rfl
      simp only [kept, List.append_assoc]
    · simp [balanced.heard_eq]
  · intro positive
    have bounded := balanced.bounded positive
    rw [waiting_hear, List.length_append, List.length_singleton]
    split
    · rw [List.length_tail]
      omega
    · rename_i roomy
      have below : ¬ capacity ≤ box.waiting.length := fun reached => roomy ⟨positive, reached⟩
      omega
  · intro unbounded
    have roomy : ¬ box.IsFull capacity := fun full => Int.not_lt.mpr unbounded full.1
    rw [evictions_hear, if_neg roomy, balanced.spared unbounded]

theorem Balanced.act (balanced : box.Balanced capacity) (number : Nat) (action : Bus.Action β) :
    (box.act capacity number action).Balanced capacity := by
  rw [Mailbox.act.eq_def]
  split
  · split
    · exact balanced.hear _
    · exact balanced
  · split
    · exact balanced.lose_taken
    · exact balanced
  · split
    · exact ⟨balanced.heard_eq, balanced.bounded, balanced.spared⟩
    · exact balanced

@[simp] theorem run_nil (capacity : Int) (number : Nat) (box : Mailbox β) :
    box.run capacity number [] = box := rfl

@[simp] theorem run_cons (capacity : Int) (number : Nat) (box : Mailbox β) (action : Bus.Action β)
    (later : List (Bus.Action β)) :
    box.run capacity number (action :: later) =
      (box.act capacity number action).run capacity number later := rfl

/-- What does not concern the queue leaves its mailbox as it is. -/
theorem act_unconcerned {action : Bus.Action β} (aside : action.concerns number = false) :
    box.act capacity number action = box := by
  cases action with
  | publish => simp [Bus.Action.concerns] at aside
  | unsubscribeAll => simp [Bus.Action.concerns] at aside
  | subscribe => simp [act, Bus.Action.ends]
  | unsubscribe other which =>
    have elsewhere : which ≠ number := by simpa [Bus.Action.concerns] using aside
    simp [act, Bus.Action.ends, elsewhere]
  | take which =>
    have elsewhere : which ≠ number := by simpa [Bus.Action.concerns] using aside
    simp [act, elsewhere]

theorem run_concerned (capacity : Int) (number : Nat) (box : Mailbox β)
    (actions : List (Bus.Action β)) :
    box.run capacity number (actions.filter (·.concerns number)) =
      box.run capacity number actions := by
  induction actions generalizing box with
  | nil => rfl
  | cons action later ih =>
    rw [List.filter_cons]
    split
    · rw [run_cons, run_cons, ih]
    · rename_i aside
      rw [run_cons, act_unconcerned (by simpa using aside), ih]

/-- Whatever neither publishes nor takes leaves all items where they are. -/
theorem act_quiet (capacity : Int) (number : Nat) (box : Mailbox β) {action : Bus.Action β}
    (unpublished : ∀ topic item, action ≠ .publish topic item)
    (untaken : ∀ which, action ≠ .take which) :
    ∃ topic, box.act capacity number action = { box with topic } := by
  rw [act.eq_def]
  split
  · exact absurd rfl (unpublished _ _)
  · exact absurd rfl (untaken _)
  · split
    · exact ⟨none, rfl⟩
    · exact ⟨box.topic, rfl⟩

/-- What an action lets a subscribed mailbox hear, and whether it stays subscribed. -/
theorem act_subscribed (capacity : Int) (number : Nat) (subscribed : box.topic = some topic)
    (action : Bus.Action β) :
    (box.act capacity number action).heard = box.heard ++ action.published topic ∧
      (box.act capacity number action).topic =
        if action.ends topic number then none else some topic := by
  cases action with
  | publish other item =>
    by_cases same : other = topic
    · simp [act, subscribed, Bus.Action.published, Bus.Action.ends, same]
    · simp [act, subscribed, Bus.Action.published, Bus.Action.ends, same, Ne.symm same]
  | take which =>
    by_cases own : which = number <;>
      simp [act, subscribed, Bus.Action.published, Bus.Action.ends, own]
  | subscribe => simp [act, subscribed, Bus.Action.published, Bus.Action.ends]
  | unsubscribe other which =>
    by_cases ended : (Bus.Action.unsubscribe other which : Bus.Action β).ends topic number <;>
      simp [act, subscribed, Bus.Action.published, ended]
  | unsubscribeAll other =>
    by_cases ended : (Bus.Action.unsubscribeAll other : Bus.Action β).ends topic number <;>
      simp [act, subscribed, Bus.Action.published, ended]

theorem act_closed (capacity : Int) (number : Nat) (closed : box.topic = none)
    (action : Bus.Action β) :
    (box.act capacity number action).heard = box.heard ∧
      (box.act capacity number action).topic = none := by
  rw [act.eq_def]
  split
  · simp [closed]
  · split <;> simp [closed]
  · simp [closed]

theorem topic_act_iff (action : Bus.Action β) :
    (box.act capacity number action).topic = some topic ↔
      box.topic = some topic ∧ action.ends topic number = false := by
  cases held : box.topic with
  | none => simp [(act_closed capacity number held action).2]
  | some other =>
    rw [(act_subscribed capacity number held action).2]
    split
    · rename_i ended
      refine ⟨nofun, ?_⟩
      rintro ⟨same, lasting⟩
      obtain rfl := Option.some.inj same
      exact absurd ended (by simp [lasting])
    · rename_i lasting
      refine ⟨?_, And.left⟩
      intro same
      obtain rfl := Option.some.inj same
      exact ⟨rfl, by simpa using lasting⟩

/-- Nobody subscribes a queue a second time, so it hears nothing more. -/
theorem heard_run_closed (closed : box.topic = none) (actions : List (Bus.Action β)) :
    (box.run capacity number actions).heard = box.heard := by
  induction actions generalizing box with
  | nil => rfl
  | cons action later ih =>
    obtain ⟨heard, still⟩ := act_closed capacity number closed action
    rw [run_cons, ih still, heard]

/-- A subscribed mailbox hears what is published on its topic until its subscription ends. -/
theorem heard_run (capacity : Int) (number : Nat) (subscribed : box.topic = some topic)
    (actions : List (Bus.Action β)) :
    (box.run capacity number actions).heard = box.heard ++
      (actions.takeWhile (!·.ends topic number)).flatMap (·.published topic) := by
  induction actions generalizing box with
  | nil => simp
  | cons action later ih =>
    obtain ⟨heard, still⟩ := act_subscribed capacity number subscribed action
    rw [run_cons, List.takeWhile_cons]
    by_cases ended : action.ends topic number
    · have silent : action.published topic = [] := by
        cases action <;> simp_all [Bus.Action.ends, Bus.Action.published]
      rw [if_pos ended] at still
      rw [heard_run_closed still, heard, silent]
      simp [ended]
    · rw [if_neg ended] at still
      rw [ih still, heard]
      simp [ended]

end Mailbox

end SyntheticMarket
