/-! Events by topic. Every subscription gets a queue of its own; a full queue gives up its oldest
item for a new one, so publishing never waits. -/

namespace SyntheticMarket

/-- The queues ever handed out, by number, and which of them are subscribed to which topic, in the
order of subscription. A capacity of zero or below means no bound. -/
structure Bus (β : Type) where
  capacity : Int
  queues : List (List β)
  subscriptions : List (String × Nat)
  published : Nat
  dropped : Nat
deriving Repr

namespace Bus

variable {β : Type}

def empty (capacity : Int) : Bus β :=
  { capacity, queues := [], subscriptions := [], published := 0, dropped := 0 }

/-- The items in a queue, oldest first; a number never handed out has none. -/
def queue (bus : Bus β) (number : Nat) : List β := bus.queues.getD number []

def subscribers (bus : Bus β) (topic : String) : List Nat :=
  (bus.subscriptions.filter (·.1 == topic)).map (·.2)

def isFull (capacity : Int) (items : List β) : Bool := 0 < capacity && capacity ≤ items.length

/-- A queue that takes one more item, dropping its oldest one if it is full. -/
def offer (capacity : Int) (items : List β) (item : β) : List β :=
  (if isFull capacity items then items.tail else items) ++ [item]

def subscribe (bus : Bus β) (topic : String) : Nat × Bus β :=
  (bus.queues.length,
    { bus with
      queues := bus.queues ++ [[]]
      subscriptions := bus.subscriptions ++ [(topic, bus.queues.length)] })

/-- The queue gets no more items of the topic; what it holds stays in it. -/
def unsubscribe (bus : Bus β) (topic : String) (number : Nat) : Bus β :=
  { bus with subscriptions := bus.subscriptions.filter fun entry => !(entry == (topic, number)) }

/-- No queue gets items of the topic any more, or of any topic if none is named. -/
def unsubscribeAll (bus : Bus β) (topic : Option String) : Bus β :=
  match topic with
  | none => { bus with subscriptions := [] }
  | some "" => { bus with subscriptions := [] }
  | some topic => { bus with subscriptions := bus.subscriptions.filter (·.1 != topic) }

def deliver (item : β) (bus : Bus β) (number : Nat) : Bus β :=
  let items := bus.queue number
  { bus with
    queues := bus.queues.set number (offer bus.capacity items item)
    dropped := bus.dropped + if isFull bus.capacity items then 1 else 0 }

def publish (bus : Bus β) (topic : String) (item : β) : Bus β :=
  (bus.subscribers topic).foldl (deliver item) { bus with published := bus.published + 1 }

def take? (bus : Bus β) (number : Nat) : Option (β × Bus β) :=
  match bus.queue number with
  | [] => none
  | item :: rest => some (item, { bus with queues := bus.queues.set number rest })

def takeAll (bus : Bus β) (number : Nat) : List β × Bus β :=
  (bus.queue number, { bus with queues := bus.queues.set number [] })

def subscriberCount (bus : Bus β) : Nat := bus.subscriptions.length

end Bus

end SyntheticMarket
