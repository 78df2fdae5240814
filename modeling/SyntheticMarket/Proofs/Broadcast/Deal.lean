import Mathlib.Data.List.Nodup
import SyntheticMarket.Broadcast.Hub

/-! What a relay owes to each client. Every update that a client wants is dealt to it as a whole; at
any moment the client has some of it, and the rest is on its way or was lost with the client. -/

namespace SyntheticMarket

/-- Of the deals made to somebody, what was got and what is missing: nothing, or a rest of the last
deal. -/
inductive Dealt {γ : Type} : List (List γ) → List γ → List γ → Prop where
  | whole (deals : List (List γ)) : Dealt deals deals.flatten []
  | midway (earlier : List (List γ)) (told missing : List γ) :
    Dealt (earlier ++ [told ++ missing]) (earlier.flatten ++ told) missing

namespace Dealt

variable {γ : Type} {deals : List (List γ)} {got missing : List γ} {item : γ}

theorem got_append_missing (dealt : Dealt deals got missing) : got ++ missing = deals.flatten := by
  cases dealt with
  | whole => exact List.append_nil _
  | midway earlier told missing => simp

theorem got_eq (dealt : Dealt deals got []) : got = deals.flatten := by
  simpa using dealt.got_append_missing

theorem deal (dealt : Dealt deals got []) (messages : List γ) :
    Dealt (deals ++ [messages]) got messages := by
  rw [dealt.got_eq]
  simpa using midway deals [] messages

theorem hear (dealt : Dealt deals got (item :: missing)) : Dealt deals (got ++ [item]) missing := by
  cases dealt with
  | midway earlier told =>
    have moved := midway earlier (told ++ [item]) missing
    simpa using moved

end Dealt

namespace Room

variable {room : Room} {number other : Nat} {frame : Frame}

@[simp] theorem messages_put_self (value : Json) (within : number < room.sockets.length) :
    (room.put number (.message value)).messages number = room.messages number ++ [value] := by
  simp [messages, put, within, Socket.messages, Frame.message?]

@[simp] theorem messages_put_other (distinct : number ≠ other) :
    (room.put other frame).messages number = room.messages number := by
  simp [messages, put, Ne.symm distinct]

@[simp] theorem link_put (room : Room) (number other : Nat) (frame : Frame) :
    (room.put other frame).link number = room.link number := by
  by_cases same : other = number
  · subst same
    cases found : room.sockets[other]? <;> simp [link, put, found]
  · simp [link, put, same]

@[simp] theorem length_sockets_put (room : Room) (other : Nat) (frame : Frame) :
    (room.put other frame).sockets.length = room.sockets.length :=
  List.length_modify ..

@[simp] theorem nextSend_put_other (distinct : number ≠ other) :
    (room.put other frame).nextSend number = room.nextSend number := by
  rw [nextSend, nextSend, link_put, messages_put_other distinct]

def Accepts (room : Room) (number count : Nat) : Prop :=
  ∀ taken < count, ((room.link number).send taken).2 = .delivered

def Breakable (room : Room) : Prop :=
  ∃ number < room.sockets.length, ∃ taken failure,
    ((room.link number).send taken).2 = .broke failure

theorem Accepts.put {count : Nat} (accepts : room.Accepts number count) :
    (room.put other frame).Accepts number count := by
  intro taken before
  rw [link_put]
  exact accepts taken before

theorem Accepts.succ (accepts : room.Accepts number (room.messages number).length)
    (taken : (room.nextSend number).2 = .delivered) :
    room.Accepts number ((room.messages number).length + 1) := by
  intro count before
  obtain earlier | last := Nat.lt_or_eq_of_le (Nat.le_of_lt_succ before)
  · exact accepts count earlier
  · rw [last]
    exact taken

end Room

def outstanding (deliveries : List Delivery) (number : Nat) : List Json :=
  (deliveries.filter (·.socket == number)).flatMap (·.pending)

section Outstanding

variable {before after : List Delivery} {delivery : Delivery} {number : Nat}

theorem outstanding_append (before after : List Delivery) (number : Nat) :
    outstanding (before ++ after) number =
      outstanding before number ++ outstanding after number := by
  simp [outstanding]

theorem outstanding_cons_other (distinct : number ≠ delivery.socket) :
    outstanding (delivery :: after) number = outstanding after number := by
  simp [outstanding, Ne.symm distinct]

theorem outstanding_cons_self (delivery : Delivery) (after : List Delivery) :
    outstanding (delivery :: after) delivery.socket =
      delivery.pending ++ outstanding after delivery.socket := by
  simp [outstanding]

theorem outstanding_eq_nil (absent : number ∉ before.map (·.socket)) :
    outstanding before number = [] := by
  have none : before.filter (·.socket == number) = [] := by
    refine List.filter_eq_nil_iff.mpr fun delivery member same => absent ?_
    exact List.mem_map.mpr ⟨delivery, member, beq_iff_eq.mp same⟩
  rw [outstanding, none, List.flatMap_nil]

/-- Where nobody has two deliveries, one delivery is all that is on its way to its socket. -/
theorem outstanding_middle
    (distinct : ((before ++ delivery :: after).map (·.socket)).Nodup) :
    outstanding (before ++ delivery :: after) delivery.socket = delivery.pending ∧
      outstanding (before ++ after) delivery.socket = [] := by
  rw [List.map_append, List.map_cons, List.nodup_middle, List.nodup_cons, List.mem_append,
    not_or] at distinct
  obtain ⟨⟨notBefore, notAfter⟩, _⟩ := distinct
  rw [outstanding_append, outstanding_append, outstanding_cons_self,
    outstanding_eq_nil notBefore, outstanding_eq_nil notAfter]
  exact ⟨by simp, rfl⟩

end Outstanding

section Books

variable {deals : Nat → List (List Json)} {roll : List Client} {room : Room}
  {deliveries before after : List Delivery} {delivery : Delivery} {lost : List Nat}
  {wrecked : Prop} {number : Nat}

/-- A client that gets all of its deals: what it did not get yet is on its way. -/
structure Served (deals : Nat → List (List Json)) (roll : List Client) (room : Room)
    (deliveries : List Delivery) (lost : List Nat) (number : Nat) : Prop where
  dealt : Dealt (deals number) (room.messages number) (outstanding deliveries number)
  kept : number ∉ lost
  listed : ∀ client ∈ roll, client.socket = number → client ∈ room.clients

/-- A client that a message did not reach: it gets nothing more of that deal, and it is out, or will
be when the deal is over. -/
structure Fallen (deals : Nat → List (List Json)) (room : Room) (deliveries : List Delivery)
    (lost : List Nat) (wrecked : Prop) (number : Nat) : Prop where
  fails : (room.nextSend number).2 ≠ .delivered
  dealt : ∃ missing, missing ≠ [] ∧ Dealt (deals number) (room.messages number) missing
  silent : outstanding deliveries number = []
  out : number ∈ lost ∨ wrecked ∨ ∀ client ∈ room.clients, client.socket ≠ number

/-- The books of a relay: what was dealt to whom, who is on the roll, and how far the deliveries
are. -/
structure Books (deals : Nat → List (List Json)) (roll : List Client) (room : Room)
    (deliveries : List Delivery) (lost : List Nat) (wrecked : Prop) : Prop where
  distinct : (deliveries.map (·.socket)).Nodup
  honest : ∀ delivery ∈ deliveries, delivery.pending ≠ [] ∧
    delivery.socket < room.sockets.length ∧
    delivery.arrival = (room.nextSend delivery.socket).2
  steady : ∀ number, room.Accepts number (room.messages number).length
  standing : ∀ number, Served deals roll room deliveries lost number ∨
    Fallen deals room deliveries lost wrecked number
  breaks : wrecked → room.Breakable

theorem Books.served (books : Books deals roll room (before ++ delivery :: after) lost wrecked) :
    Served deals roll room (before ++ delivery :: after) lost delivery.socket := by
  obtain served | fallen := books.standing delivery.socket
  · exact served
  · have waits := (books.honest delivery (by simp)).1
    have silent := fallen.silent
    rw [(outstanding_middle books.distinct).1] at silent
    exact absurd silent waits

/-- A message that does not arrive ends its delivery and nobody else's. -/
theorem Books.drop (books : Books deals roll room (before ++ delivery :: after) lost wrecked)
    (fails : delivery.arrival ≠ .delivered) {lost' : List Nat} {wrecked' : Prop}
    (others : ∀ number ≠ delivery.socket, (number ∈ lost' ↔ number ∈ lost))
    (worse : wrecked → wrecked') (out : delivery.socket ∈ lost' ∨ wrecked')
    (breaks : wrecked' → room.Breakable) :
    Books deals roll room (before ++ after) lost' wrecked' := by
  obtain ⟨waits, _, arrival⟩ := books.honest delivery (by simp)
  have ⟨waiting, silent⟩ := outstanding_middle books.distinct
  have fewer : (before ++ after).Sublist (before ++ delivery :: after) :=
    (List.sublist_cons_self delivery after).append_left before
  refine ⟨books.distinct.sublist (fewer.map _), ?_, books.steady, fun number => ?_, breaks⟩
  · exact fun other member => books.honest other (fewer.subset member)
  · by_cases same : number = delivery.socket
    · -- The client still had messages to come, so it was served so far; now it falls.
      subst same
      have served := books.served
      exact .inr ⟨arrival ▸ fails, ⟨delivery.pending, waits, waiting ▸ served.dealt⟩, silent,
        out.imp_right .inl⟩
    · have unchanged : outstanding (before ++ after) number =
          outstanding (before ++ delivery :: after) number := by
        rw [outstanding_append, outstanding_append, outstanding_cons_other same]
      obtain served | fallen := books.standing number
      · exact .inl ⟨unchanged ▸ served.dealt, mt (others number same).mp served.kept,
          served.listed⟩
      · refine .inr ⟨fallen.fails, fallen.dealt, unchanged ▸ fallen.silent, ?_⟩
        obtain among | broken | gone := fallen.out
        · exact .inl ((others number same).mpr among)
        · exact .inr (.inl (worse broken))
        · exact .inr (.inr gone)

/-- A message that arrives leaves the rest of its delivery on the way, if there is any. -/
theorem Books.arrive (books : Books deals roll room (before ++ delivery :: after) lost wrecked)
    {message : Json} {rest : List Json} (pending : delivery.pending = message :: rest)
    (arrived : delivery.arrival = .delivered) :
    let later := room.put delivery.socket (.message message)
    let again := if rest.isEmpty then [] else [later.dispatch rest delivery.socket]
    Books deals roll later (before ++ again ++ after) lost wrecked := by
  intro later again
  obtain ⟨_, within, arrival⟩ := books.honest delivery (by simp)
  have ⟨waiting, silent⟩ := outstanding_middle books.distinct
  have sockets : (again.map (·.socket)).Sublist [delivery.socket] := by
    simp only [again]
    split
    · exact List.nil_sublist _
    · exact List.Sublist.refl _
  have distinct : ((before ++ again ++ after).map (·.socket)).Nodup := by
    refine books.distinct.sublist ?_
    simp only [List.map_append, List.map_cons, List.append_assoc]
    exact (sockets.append_right _).append_left _
  have elsewhere : ∀ other ∈ before ++ after, other.socket ≠ delivery.socket := by
    have apart := books.distinct
    rw [List.map_append, List.map_cons, List.nodup_middle, List.nodup_cons, ← List.map_append]
      at apart
    exact fun other member same => apart.1 (List.mem_map.mpr ⟨other, member, same⟩)
  have rested : outstanding again delivery.socket = rest := by
    simp only [again]
    split
    · rename_i empty
      exact (List.isEmpty_iff.mp empty).symm
    · exact (outstanding_cons_self (later.dispatch rest delivery.socket) []).trans
        (List.append_nil rest)
  refine ⟨distinct, ?_, ?_, ?_, fun wreck => ?_⟩
  · intro other member
    obtain inside | here : other ∈ before ++ after ∨ other ∈ again := by
      simp only [List.mem_append] at member ⊢
      tauto
    · have fewer : (before ++ after).Sublist (before ++ delivery :: after) :=
        (List.sublist_cons_self delivery after).append_left before
      obtain ⟨waits, known, honest⟩ := books.honest other (fewer.subset inside)
      refine ⟨waits, (room.length_sockets_put _ _).symm ▸ known, ?_⟩
      rw [Room.nextSend_put_other (elsewhere other inside), honest]
    · simp only [again] at here
      split at here
      · cases here
      · rename_i more
        obtain rfl := List.mem_singleton.mp here
        exact ⟨fun empty => more (List.isEmpty_iff.mpr empty),
          (room.length_sockets_put _ _).symm ▸ within, rfl⟩
  · intro number
    by_cases same : number = delivery.socket
    · subst same
      rw [Room.messages_put_self message within, List.length_append, List.length_singleton]
      exact ((books.steady delivery.socket).succ (arrival ▸ arrived)).put
    · rw [Room.messages_put_other same]
      exact (books.steady number).put
  · intro number
    by_cases same : number = delivery.socket
    · subst same
      have served := books.served
      have dealt := served.dealt
      rw [waiting, pending] at dealt
      refine .inl ⟨?_, served.kept, served.listed⟩
      rw [outstanding_append] at silent
      obtain ⟨none, none'⟩ := List.append_eq_nil_iff.mp silent
      rw [Room.messages_put_self message within, outstanding_append, outstanding_append, none,
        none', rested, List.append_nil, List.nil_append]
      exact dealt.hear
    · have silent' : outstanding again number = [] :=
        outstanding_eq_nil fun member => same (List.mem_singleton.mp (sockets.subset member))
      have unchanged : outstanding (before ++ again ++ after) number =
          outstanding (before ++ delivery :: after) number := by
        rw [outstanding_append, outstanding_append, outstanding_append, silent',
          outstanding_cons_other same, List.append_nil]
      obtain served | fallen := books.standing number
      · refine .inl ⟨?_, served.kept, served.listed⟩
        rw [unchanged, Room.messages_put_other same]
        exact served.dealt
      · refine .inr ⟨?_, ?_, unchanged ▸ fallen.silent, fallen.out⟩
        · rw [Room.nextSend_put_other same]
          exact fallen.fails
        · rw [Room.messages_put_other same]
          exact fallen.dealt
  · obtain ⟨number, known, taken, failure, broke⟩ := books.breaks wreck
    exact ⟨number, (room.length_sockets_put _ _).symm ▸ known, taken, failure,
      (room.link_put number _ _).symm ▸ broke⟩

theorem Books.carry {round : Round}
    (books : Books deals roll round.room (round.under ++ delivery :: after) round.lost
      (wrecked ∨ round.broke.isSome)) :
    Books deals roll (round.carry delivery).room ((round.carry delivery).under ++ after)
      (round.carry delivery).lost (wrecked ∨ (round.carry delivery).broke.isSome) := by
  have waits := (books.honest delivery (by simp)).1
  rw [Round.carry]
  split
  · rename_i empty
    exact absurd empty waits
  · rename_i message rest pending
    split
    · simpa using books
    · split
      · rename_i arrival
        refine books.drop (by rw [arrival]; nofun) ?_ id (.inl (by simp)) books.breaks
        intro number distinct
        simp [distinct]
      · rename_i failure arrival
        obtain ⟨_, within, honest⟩ := books.honest delivery (by simp)
        exact books.drop (by rw [arrival]; nofun) (fun _ _ => Iff.rfl)
          (Or.imp_right fun _ => by simp) (.inr (.inr (by simp)))
          fun _ => ⟨delivery.socket, within, _, failure, honest.symm.trans arrival⟩
      · rename_i arrival
        have arrived := books.arrive pending arrival
        by_cases last : rest.isEmpty
        · simpa [last] using arrived
        · simpa [last] using arrived

theorem Books.carryAll {round : Round}
    (books : Books deals roll round.room (round.under ++ deliveries) round.lost
      (wrecked ∨ round.broke.isSome)) :
    Books deals roll (deliveries.foldl Round.carry round).room
      (deliveries.foldl Round.carry round).under (deliveries.foldl Round.carry round).lost
      (wrecked ∨ (deliveries.foldl Round.carry round).broke.isSome) := by
  induction deliveries generalizing round with
  | nil => simpa using books
  | cons delivery after ih => exact ih books.carry

end Books

end SyntheticMarket
