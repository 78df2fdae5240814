import SyntheticMarket.Price

/-! Comparing prices when some of them may be undefined. An undefined number fails every comparison,
also the one with itself, and the defined ones are ordered; everything about the higher and the lower
of two prices is derived from that alone. -/

namespace SyntheticMarket

namespace Price

variable {α : Type} [PriceScale α]

/-- A number that takes part in comparisons. -/
def Defined (price : α) : Prop := price ≤ price

def highest (first : α) (prices : List α) : α := prices.foldl higher first

def lowest (first : α) (prices : List α) : α := prices.foldl lower first

end Price

/-- Comparisons fail on undefined numbers and order the others. -/
class PriceScale.Ordered (α : Type) [PriceScale α] : Prop where
  left_defined : ∀ {a b : α}, a ≤ b → Price.Defined a
  right_defined : ∀ {a b : α}, a ≤ b → Price.Defined b
  le_total : ∀ {a b : α}, Price.Defined a → Price.Defined b → a ≤ b ∨ b ≤ a
  le_trans : ∀ {a b c : α}, a ≤ b → b ≤ c → a ≤ c
  lt_iff : ∀ {a b : α}, a < b ↔ a ≤ b ∧ ¬ b ≤ a

namespace Price

variable {α : Type} [PriceScale α] [PriceScale.Ordered α] {a b bound : α}

open PriceScale.Ordered

theorem le_of_lt (below : a < b) : a ≤ b := (lt_iff.mp below).1

theorem lt_of_lt_of_le {a b c : α} (below : a < b) (upTo : b ≤ c) : a < c := by
  obtain ⟨first, strict⟩ := lt_iff.mp below
  apply lt_iff.mpr
  constructor
  · exact le_trans first upTo
  · intro back
    exact strict (le_trans upTo back)

/-- Of two defined prices the second is at most the first unless it is above. -/
theorem le_of_not_lt (first : Defined a) (second : Defined b) (least : ¬ a < b) : b ≤ a := by
  rcases le_total first second with below | above
  · by_cases same : b ≤ a
    · exact same
    · exact absurd (lt_iff.mpr ⟨below, same⟩) least
  · exact above

omit [PriceScale.Ordered α] in
theorem higher_cases (a b : α) : (a < b ∧ higher a b = b) ∨ (¬ a < b ∧ higher a b = a) := by
  by_cases below : a < b
  · exact .inl ⟨below, if_pos below⟩
  · exact .inr ⟨below, if_neg below⟩

omit [PriceScale.Ordered α] in
theorem lower_cases (a b : α) : (b < a ∧ lower a b = b) ∨ (¬ b < a ∧ lower a b = a) := by
  by_cases below : b < a
  · exact .inl ⟨below, if_pos below⟩
  · exact .inr ⟨below, if_neg below⟩

theorem left_le_higher (first : Defined a) (b : α) : a ≤ higher a b := by
  obtain ⟨below, same⟩ | ⟨_, same⟩ := higher_cases a b
  · rw [same]
    exact le_of_lt below
  · rw [same]
    exact first

theorem right_le_higher (first : Defined a) (second : Defined b) : b ≤ higher a b := by
  obtain ⟨_, same⟩ | ⟨least, same⟩ := higher_cases a b
  · rw [same]
    exact second
  · rw [same]
    exact le_of_not_lt first second least

omit [PriceScale.Ordered α] in
theorem higher_le (first : a ≤ bound) (second : b ≤ bound) : higher a b ≤ bound := by
  obtain ⟨_, same⟩ | ⟨_, same⟩ := higher_cases a b <;> rw [same] <;> assumption

/-- A bound of the higher one bounds the first, whatever the second is. -/
theorem left_le_of_higher_le (bounded : higher a b ≤ bound) : a ≤ bound := by
  obtain ⟨below, same⟩ | ⟨_, same⟩ := higher_cases a b
  · rw [same] at bounded
    exact le_trans (le_of_lt below) bounded
  · rwa [same] at bounded

theorem lower_le_left (first : Defined a) (b : α) : lower a b ≤ a := by
  obtain ⟨below, same⟩ | ⟨_, same⟩ := lower_cases a b
  · rw [same]
    exact le_of_lt below
  · rw [same]
    exact first

theorem lower_le_right (first : Defined a) (second : Defined b) : lower a b ≤ b := by
  obtain ⟨_, same⟩ | ⟨least, same⟩ := lower_cases a b
  · rw [same]
    exact second
  · rw [same]
    exact le_of_not_lt second first least

omit [PriceScale.Ordered α] in
theorem le_lower (first : bound ≤ a) (second : bound ≤ b) : bound ≤ lower a b := by
  obtain ⟨_, same⟩ | ⟨_, same⟩ := lower_cases a b <;> rw [same] <;> assumption

omit [PriceScale.Ordered α] in
theorem lt_lower (first : bound < a) (second : bound < b) : bound < lower a b := by
  obtain ⟨_, same⟩ | ⟨_, same⟩ := lower_cases a b <;> rw [same] <;> assumption

theorem le_left_of_le_lower (bounded : bound ≤ lower a b) : bound ≤ a := by
  obtain ⟨below, same⟩ | ⟨_, same⟩ := lower_cases a b
  · rw [same] at bounded
    exact le_trans bounded (le_of_lt below)
  · rwa [same] at bounded

/-- Where the lower one is above a bound, so is the first, whatever the second is. -/
theorem lt_left_of_lt_lower (bounded : bound < lower a b) : bound < a := by
  obtain ⟨below, same⟩ | ⟨_, same⟩ := lower_cases a b
  · rw [same] at bounded
    exact lt_of_lt_of_le bounded (le_of_lt below)
  · rwa [same] at bounded

theorem lt_right_of_lt_lower (second : Defined b) (bounded : bound < lower a b) : bound < b := by
  have first := right_defined (le_of_lt (lt_left_of_lt_lower bounded))
  exact lt_of_lt_of_le bounded (lower_le_right first second)

omit [PriceScale.Ordered α] in
/-- Whatever picks the further of two defined prices finds the furthest of many. -/
private theorem furthest_spec (pick : α → α → α) (upTo : α → α → Prop)
    (picks : ∀ a b, pick a b = a ∨ pick a b = b)
    (left : ∀ {a} b, Defined a → upTo a (pick a b))
    (right : ∀ {a b}, Defined a → Defined b → upTo b (pick a b))
    (trans : ∀ {a b c}, upTo a b → upTo b c → upTo a c)
    {first : α} {prices : List α} (defined : ∀ price ∈ first :: prices, Defined price) :
    prices.foldl pick first ∈ first :: prices ∧
      ∀ price ∈ first :: prices, upTo price (prices.foldl pick first) := by
  induction prices generalizing first with
  | nil =>
    have self := left first (defined first (by simp))
    obtain same | same := picks first first <;> rw [same] at self <;> simpa using self
  | cons next rest ih =>
    have start : Defined first := defined first (by simp)
    have second : Defined next := defined next (by simp)
    have further : ∀ price ∈ pick first next :: rest, Defined price := by
      intro price member
      rcases List.mem_cons.mp member with rfl | present
      · obtain same | same := picks first next <;> rw [same] <;> assumption
      · exact defined price (by simp [present])
    obtain ⟨member, reached⟩ := ih further
    have upToPicked := reached _ List.mem_cons_self
    rw [List.foldl_cons]
    constructor
    · rcases List.mem_cons.mp member with same | present
      · rw [same]
        obtain same | same := picks first next <;> simp [same]
      · exact List.mem_cons_of_mem first (List.mem_cons_of_mem next present)
    · intro price present
      rcases List.mem_cons.mp present with rfl | present
      · exact trans (left next start) upToPicked
      · rcases List.mem_cons.mp present with rfl | present
        · exact trans (right start second) upToPicked
        · exact reached price (List.mem_cons_of_mem _ present)

/-- The highest of defined prices is one of them, and none is above it. -/
theorem highest_spec {first : α} {prices : List α}
    (defined : ∀ price ∈ first :: prices, Defined price) :
    highest first prices ∈ first :: prices ∧
      ∀ price ∈ first :: prices, price ≤ highest first prices := by
  apply furthest_spec higher (· ≤ ·) _ (fun b first => left_le_higher first b) right_le_higher
    le_trans defined
  intro a b
  obtain ⟨_, same⟩ | ⟨_, same⟩ := higher_cases a b
  · exact .inr same
  · exact .inl same

/-- The lowest of defined prices is one of them, and none is below it. -/
theorem lowest_spec {first : α} {prices : List α}
    (defined : ∀ price ∈ first :: prices, Defined price) :
    lowest first prices ∈ first :: prices ∧
      ∀ price ∈ first :: prices, lowest first prices ≤ price := by
  apply furthest_spec lower (· ≥ ·) _ (fun b first => lower_le_left first b) lower_le_right
    (fun above further => le_trans further above) defined
  intro a b
  obtain ⟨_, same⟩ | ⟨_, same⟩ := lower_cases a b
  · exact .inr same
  · exact .inl same

end Price

/-- Besides the order: the floor is positive, and a volume stays at zero or above when a drawn share
is added to it or when it is scaled by one. -/
class PriceScale.Lawful (α : Type) [PriceScale α] : Prop extends PriceScale.Ordered α where
  zero_lt_floor : (0.0 : α) < Price.floor
  zero_le_fifty : (0.0 : α) ≤ 50.0
  zero_le_add : ∀ (volume : α) (word : UInt32), 0.0 ≤ volume →
    0.0 ≤ volume + (0.2 + PriceScale.fraction word * 0.8)
  zero_le_mul : ∀ (volume : α) (word : UInt32), 0.0 ≤ volume →
    0.0 ≤ volume * (0.9 + PriceScale.fraction word * 0.2)

/-- Besides the order: the volume drawn for a candle of a history is above zero. -/
class PriceScale.Brisk (α : Type) [PriceScale α] : Prop extends PriceScale.Ordered α where
  zero_lt_drawn : ∀ word : UInt32, (0.0 : α) < 10.0 + PriceScale.fraction word * 90.0

namespace Price

variable {α : Type} [PriceScale α] [PriceScale.Lawful α]

open PriceScale.Ordered PriceScale.Lawful

theorem zero_le_zero : (0.0 : α) ≤ 0.0 := left_defined (le_of_lt zero_lt_floor)

/-- The floor comes first in the comparison, so no price makes the raised one undefined or lower. -/
theorem floor_le_raise (price : α) : floor ≤ raise price :=
  left_le_higher (right_defined (le_of_lt zero_lt_floor)) price

theorem zero_le_orZero {volume : Option α} (sound : ∀ amount, volume = some amount → 0.0 ≤ amount) :
    (0.0 : α) ≤ orZero volume := by
  cases volume with
  | none => exact zero_le_zero
  | some amount =>
    rw [orZero]
    split
    · exact zero_le_zero
    · exact sound amount rfl

omit [PriceScale.Lawful α] in
theorem orZero_of_pos [PriceScale.Ordered α] {amount : α} (positive : 0.0 < amount) :
    orZero (some amount) = amount := by
  have strict := (lt_iff.mp positive).2
  exact if_neg fun zero => strict zero.1

end Price

end SyntheticMarket
