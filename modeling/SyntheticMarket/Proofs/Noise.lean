import SyntheticMarket.Noise
import SyntheticMarket.Proofs.Price.Shares

/-! Noise in closed form. Whatever is asked of a source, its counter is the seed it was last given
plus one stride for each draw since, modulo the word range, and every value it tells is a function of
the counter alone. The stride is odd, so the counter comes back to where it was only when the draws
fill the word range. -/

namespace SyntheticMarket.Noise

variable {left right noise : Noise}

/-- Only draws changed the counter since the source was seeded. -/
def IsDrawn (noise : Noise) : Prop :=
  noise.state = noise.seed + UInt32.ofNat noise.draws * stride

theorem ofSeed_isDrawn (seed : Int) : (ofSeed seed).IsDrawn := by
  simp [IsDrawn, ofSeed]

theorem state_next (noise : Noise) : noise.next.2.state = noise.state + stride :=
  UInt32.add_comm stride noise.state

theorem IsDrawn.next (drawn : noise.IsDrawn) : noise.next.2.IsDrawn := by
  rw [IsDrawn, state_next, seed_next, draws_next, drawn, UInt32.ofNat_add, UInt32.add_mul]
  change _ = _ + (_ + 1 * stride)
  rw [UInt32.one_mul, UInt32.add_assoc]

/-- The counter comes around with the word range, and the count of draws may do so too. -/
theorem IsDrawn.state_eq (leftDrawn : left.IsDrawn) (rightDrawn : right.IsDrawn)
    (seed : left.seed = right.seed)
    (draws : left.draws % UInt32.size = right.draws % UInt32.size) : left.state = right.state := by
  have word : UInt32.ofNat left.draws = UInt32.ofNat right.draws := by
    rw [← UInt32.toNat_inj, UInt32.toNat_ofNat', UInt32.toNat_ofNat']
    exact draws
  rw [leftDrawn, rightDrawn, seed, word]

theorem toNat_ofInt (number : Int) : ((UInt32.ofInt number).toNat : Int) = number % 2 ^ 32 := by
  rw [UInt32.ofInt, UInt32.toNat_ofNat']
  omega

theorem ofInt_natCast (number : Nat) : UInt32.ofInt number = UInt32.ofNat number := by
  apply UInt32.toNat_inj.mp
  have word := toNat_ofInt number
  rw [UInt32.toNat_ofNat']
  omega

/-- A counter in numbers that are never cut to a word. -/
theorem IsDrawn.state_ofInt (drawn : noise.IsDrawn) {seed : Int}
    (seeded : noise.seed = UInt32.ofInt seed) :
    noise.state = UInt32.ofInt (seed + noise.draws * 0x6D2B79F5) := by
  rw [drawn, seeded, UInt32.ofInt_add, UInt32.ofInt_mul, ofInt_natCast]
  rfl

theorem state_skip (count : Nat) (noise : Noise) :
    (skip count noise).state = noise.state + UInt32.ofNat count * stride := by
  induction count generalizing noise with
  | zero =>
    change noise.state = noise.state + 0 * stride
    rw [UInt32.zero_mul, UInt32.add_zero]
  | succ count ih =>
    rw [skip, ih, state_next, UInt32.ofNat_add, UInt32.add_mul, UInt32.add_assoc,
      UInt32.add_comm stride]
    change _ = _ + (_ + 1 * stride)
    rw [UInt32.one_mul]

/-- An odd stride leads through every word before it leads back. -/
theorem state_skip_eq_iff (count : Nat) (noise : Noise) :
    (skip count noise).state = noise.state ↔ 2 ^ 32 ∣ count := by
  have odd : Nat.Coprime (2 ^ 32) 0x6D2B79F5 := by norm_num
  have around : UInt32.ofNat count * stride = 0 ↔ 2 ^ 32 ∣ count * 0x6D2B79F5 := by
    have product : UInt32.ofNat count * stride = UInt32.ofNat (count * 0x6D2B79F5) :=
      (UInt32.ofNat_mul count 0x6D2B79F5).symm
    rw [product, UInt32.ofNat_eq_iff_mod_eq_toNat]
    exact (Nat.dvd_iff_mod_eq_zero ..).symm
  rw [state_skip, UInt32.add_eq_left, around]
  exact ⟨odd.dvd_of_dvd_mul_right, fun divides => divides.mul_right 0x6D2B79F5⟩

inductive Call where
  | next
  | reseed (seed : Int)

def lastSeed (seed : Int) : List Call → Int
  | [] => seed
  | .next :: later => lastSeed seed later
  | .reseed anew :: later => lastSeed anew later

/-- How many values were drawn since then, after `count` earlier ones. -/
def drawsSince (count : Nat) : List Call → Nat
  | [] => count
  | .next :: later => drawsSince (count + 1) later
  | .reseed _ :: later => drawsSince 0 later

def meet (noise : Noise) : Call → Noise
  | .next => noise.next.2
  | .reseed seed => ofSeed seed

def meetAll (noise : Noise) (calls : List Call) : Noise := calls.foldl meet noise

def values {α : Type} [PriceScale α] (noise : Noise) : List Call → List α
  | [] => []
  | .next :: later => (noise.draw (α := α)).1 :: values (noise.draw (α := α)).2 later
  | .reseed seed :: later => values (ofSeed seed) later

/-- A source that was last given this seed, and has drawn so many values since. -/
structure Stands (seed : Int) (count : Nat) (noise : Noise) : Prop where
  seed_eq : noise.seed = UInt32.ofInt seed
  draws_eq : noise.draws = count
  drawn : noise.IsDrawn

theorem ofSeed_stands (seed : Int) : (ofSeed seed).Stands seed 0 := ⟨rfl, rfl, ofSeed_isDrawn seed⟩

theorem Stands.meetAll {seed : Int} {count : Nat} (stands : noise.Stands seed count)
    (calls : List Call) :
    (noise.meetAll calls).Stands (lastSeed seed calls) (drawsSince count calls) := by
  induction calls generalizing noise seed count with
  | nil => exact stands
  | cons call later ih =>
    cases call with
    | next => exact ih ⟨stands.seed_eq, congrArg (· + 1) stands.draws_eq, stands.drawn.next⟩
    | reseed anew => exact ih (ofSeed_stands anew)

theorem Stands.state_eq {seed : Int} {count : Nat} (stands : noise.Stands seed count) :
    noise.state = UInt32.ofInt (seed + count * 0x6D2B79F5) := by
  rw [stands.drawn.state_ofInt stands.seed_eq, stands.draws_eq]

variable {α : Type} [PriceScale α]

theorem values_congr (same : left.state = right.state) (calls : List Call) :
    (left.values calls : List α) = right.values calls := by
  induction calls generalizing left right with
  | nil => rfl
  | cons call later ih =>
    cases call with
    | next =>
      have word : left.next.1 = right.next.1 := congrArg (fun state => scramble (stride + state)) same
      have onward : left.next.2.state = right.next.2.state := congrArg (stride + ·) same
      exact congrArg₂ List.cons (congrArg PriceScale.fraction word) (ih onward)
    | reseed seed => rfl

/-- Every value is the share of some word. -/
theorem mem_values {value : α} {calls : List Call} (told : value ∈ noise.values calls) :
    ∃ word, value = PriceScale.fraction word := by
  induction calls generalizing noise with
  | nil => exact absurd told List.not_mem_nil
  | cons call later ih =>
    cases call with
    | next =>
      rcases List.mem_cons.mp told with first | others
      · exact ⟨_, first⟩
      · exact ih others
    | reseed seed => exact ih told

/-- The word for a counter in numbers without bound, of which only products and sums are cut. -/
def mixed (counter : Nat) : Nat :=
  let first := (counter ^^^ (counter >>> 15)) * (1 ||| counter) % 2 ^ 32
  let folded := first ^^^ (first + (first ^^^ (first >>> 7)) * (61 ||| first) % 2 ^ 32) % 2 ^ 32
  folded ^^^ (folded >>> 14)

theorem toNat_scramble (counter : UInt32) : (scramble counter).toNat = mixed counter.toNat := by
  simp only [scramble, mixed, UInt32.toNat_xor, UInt32.toNat_mul, UInt32.toNat_add, UInt32.toNat_or,
    UInt32.toNat_shiftRight]
  rfl

theorem Stands.value?_draw {seed : Int} {count : Nat} (stands : noise.Stands seed count) :
    Binary64.value? (noise.draw : Float × Noise).1 =
      some ((mixed ((seed + (count + 1 : Nat) * 0x6D2B79F5) % 2 ^ 32).toNat : Rat) / 2 ^ 32) := by
  have onward : noise.next.2.Stands seed (count + 1) :=
    ⟨stands.seed_eq, congrArg (· + 1) stands.draws_eq, stands.drawn.next⟩
  have counter : noise.next.2.state.toNat =
      ((seed + (count + 1 : Nat) * 0x6D2B79F5) % 2 ^ 32).toNat := by
    rw [onward.state_eq, ← toNat_ofInt, Int.toNat_natCast]
  have word : (noise.draw : Float × Noise).1 =
      PriceScale.fraction (scramble noise.next.2.state) := rfl
  rw [word, Binary64.value?_fraction, toNat_scramble, counter]

/-- Whatever was asked of a source that began from a seed: its state is known from the seed last given
and the draws since, as is every value to come; no two counters within the word range are the same;
and each value that was told is a whole number of parts of the word range, less than all of it. -/
theorem source_closed (seed : Int) (calls : List Call) :
    let noise := (ofSeed seed).meetAll calls
    let start := lastSeed seed calls
    let count := drawsSince 0 calls
    ((noise.seed.toNat : Int) = start % 2 ^ 32 ∧ noise.draws = count ∧
        (noise.state.toNat : Int) = (start + count * 0x6D2B79F5) % 2 ^ 32) ∧
      Binary64.value? (noise.draw : Float × Noise).1 =
        some ((mixed ((start + (count + 1 : Nat) * 0x6D2B79F5) % 2 ^ 32).toNat : Rat) / 2 ^ 32) ∧
      (∀ other : Noise, other.state = noise.state →
        ∀ later, (other.values later : List Float) = noise.values later) ∧
      (∀ later, (noise.values later : List Float) =
        (ofSeed (start + count * 0x6D2B79F5)).values later) ∧
      (∀ number, (skip number noise).state = noise.state ↔ 2 ^ 32 ∣ number) ∧
      ∀ value ∈ ((ofSeed seed).values calls : List Float), ∃ parts : Nat, parts < 2 ^ 32 ∧
        Binary64.value? value = some ((parts : Rat) / 2 ^ 32) ∧ 0.0 ≤ value ∧ value < 1.0 := by
  intro noise start count
  have stands : noise.Stands start count := (ofSeed_stands seed).meetAll calls
  refine ⟨⟨?_, stands.draws_eq, ?_⟩, stands.value?_draw, ?_, ?_, ?_, ?_⟩
  · rw [stands.seed_eq, toNat_ofInt]
  · rw [stands.state_eq, toNat_ofInt]
  · intro other same later
    exact values_congr same later
  · intro later
    exact values_congr stands.state_eq later
  · intro number
    exact state_skip_eq_iff number noise
  · intro value told
    obtain ⟨word, rfl⟩ := mem_values told
    exact ⟨word.toNat, word.toNat_lt, Binary64.value?_fraction word,
      Binary64.zero_le_fraction word, Binary64.fraction_lt_one word⟩

/-- A source drawn from once, begun anew below zero and drawn from twice more, beside one that began
where it ended. -/
theorem golden_closed :
    let calls : List Call := [.next, .reseed (-1), .next, .next]
    let other := ofSeed (-1 + 2 * 0x6D2B79F5)
    0.18867595493793488 ∈ ((ofSeed 3245382817).values calls : List Float) ∧
      other.state = ((ofSeed 3245382817).meetAll calls).state ∧
      (∃ parts : Nat, parts < 2 ^ 32 ∧
        Binary64.value? 0.18867595493793488 = some ((parts : Rat) / 2 ^ 32)) ∧
      ∀ later, (other.values later : List Float) =
        ((ofSeed 3245382817).meetAll calls).values later := by
  intro calls other
  have first : 0.18867595493793488 = ((ofSeed 3245382817).draw : Float × Noise).1 := by
    decide +kernel
  have told : 0.18867595493793488 ∈ ((ofSeed 3245382817).values calls : List Float) :=
    first ▸ List.mem_cons_self
  have same : other.state = ((ofSeed 3245382817).meetAll calls).state := by decide +kernel
  obtain ⟨-, -, alike, -, -, shares⟩ := source_closed 3245382817 calls
  obtain ⟨parts, within, share, -⟩ := shares _ told
  exact ⟨told, same, ⟨parts, within, share⟩, alike other same⟩

end SyntheticMarket.Noise
