import Mathlib.Logic.Function.Basic
import SyntheticMarket.Symbol

/-! How the letters of a symbol enter its hash. Taking in a letter can be undone, because the factor
is odd, and two letters never have the same effect on one hash. So texts that differ at one place
have different hashes, and what is appended to two texts never makes their hashes meet. -/

namespace SyntheticMarket.Symbol

def absorbAll (hash : UInt32) (letters : List Char) : UInt32 := letters.foldl absorb hash

/-- What undoes the factor of `absorb`, modulo the word range. -/
def inverse : UInt32 := 899433627

def release (hash : UInt32) (letter : Char) : UInt32 := (hash * inverse) ^^^ letter.val

/-- One letter taken into a number that is never cut to a word. -/
def gather (total : Nat) (letter : Char) : Nat := (total ^^^ letter.toNat) * 16777619

/-- Texts of one length whose letters differ at exactly one place. -/
structure DifferOnce (one other : String) : Prop where
  length_eq : one.length = other.length
  place : ∃! place : Nat, one.toList[place]? ≠ other.toList[place]?

theorem release_absorb (hash : UInt32) (letter : Char) :
    release (absorb hash letter) letter = hash := by
  have undone : (16777619 : UInt32) * inverse = 1 := rfl
  rw [release, absorb, UInt32.mul_assoc, undone, UInt32.mul_one, UInt32.xor_assoc,
    UInt32.xor_self, UInt32.xor_zero]

theorem absorb_release (hash : UInt32) (letter : Char) :
    absorb (release hash letter) letter = hash := by
  have undone : inverse * (16777619 : UInt32) = 1 := rfl
  rw [absorb, release, UInt32.xor_assoc, UInt32.xor_self, UInt32.xor_zero, UInt32.mul_assoc, undone,
    UInt32.mul_one]

theorem absorb_bijective (letter : Char) : Function.Bijective fun hash => absorb hash letter :=
  Function.bijective_iff_has_inverse.mpr
    ⟨fun hash => release hash letter, fun hash => release_absorb hash letter,
      fun hash => absorb_release hash letter⟩

/-- A hash takes in different letters differently. -/
theorem absorb_inj {hash : UInt32} {letter other : Char}
    (same : absorb hash letter = absorb hash other) : letter = other := by
  have undone : (16777619 : UInt32) * inverse = 1 := rfl
  have mixed : hash ^^^ letter.val = hash ^^^ other.val := by
    have scaled := congrArg (· * inverse) same
    simpa only [absorb, UInt32.mul_assoc, undone, UInt32.mul_one] using scaled
  exact Char.ext ((UInt32.xor_right_inj hash).mp mixed)

/-- Cutting to a word may wait until a letter was taken in. -/
theorem absorb_ofNat (total : Nat) (letter : Char) :
    absorb (UInt32.ofNat total) letter = UInt32.ofNat (gather total letter) := by
  have short : letter.toNat % 2 ^ 32 = letter.toNat := Nat.mod_eq_of_lt letter.val.toNat_lt
  apply UInt32.toNat_inj.mp
  calc
    ((UInt32.ofNat total ^^^ letter.val) * 16777619).toNat
    _ = (total % 2 ^ 32 ^^^ letter.toNat % 2 ^ 32) * 16777619 % 2 ^ 32 := by
      rw [UInt32.toNat_mul, UInt32.toNat_xor, UInt32.toNat_ofNat', short]
      rfl
    _ = (total ^^^ letter.toNat) * 16777619 % 2 ^ 32 := by
      rw [← Nat.xor_mod_two_pow, Nat.mod_mul_mod]
    _ = (UInt32.ofNat (gather total letter)).toNat := UInt32.toNat_ofNat'.symm

theorem absorbAll_bijective (letters : List Char) :
    Function.Bijective fun hash => absorbAll hash letters := by
  induction letters with
  | nil => exact Function.bijective_id
  | cons letter later ih => exact ih.comp (absorb_bijective letter)

theorem absorbAll_ofNat (total : Nat) (letters : List Char) :
    absorbAll (UInt32.ofNat total) letters = UInt32.ofNat (letters.foldl gather total) := by
  induction letters generalizing total with
  | nil => rfl
  | cons letter later ih =>
    rw [absorbAll, List.foldl_cons, absorb_ofNat]
    exact ih (gather total letter)

theorem hash_append (front back : String) :
    hash (front ++ back) = absorbAll (hash front) back.toList := by
  rw [hash, String.toList_append, List.foldl_append]
  rfl

/-- The texts share what is before the place, and what is after it. -/
theorem differOnce_iff {one other : String} :
    DifferOnce one other ↔ ∃ before first second after, first ≠ second ∧
      one.toList = before ++ first :: after ∧ other.toList = before ++ second :: after := by
  constructor
  · rintro ⟨length, place, differ, only⟩
    have alike (index : Nat) (elsewhere : index ≠ place) :
        one.toList[index]? = other.toList[index]? := by
      by_contra apart
      exact elsewhere (only index apart)
    rw [← String.length_toList, ← String.length_toList] at length
    have within : place < one.toList.length := by
      by_contra beyond
      apply differ
      rw [List.getElem?_eq_none (by omega), List.getElem?_eq_none (by omega)]
    have within' : place < other.toList.length := length ▸ within
    have front : one.toList.take place = other.toList.take place := by
      apply List.ext_getElem?
      intro index
      rw [List.getElem?_take, List.getElem?_take]
      split
      · rename_i below
        exact alike index (Nat.ne_of_lt below)
      · rfl
    have back : one.toList.drop (place + 1) = other.toList.drop (place + 1) := by
      apply List.ext_getElem?
      intro index
      rw [List.getElem?_drop, List.getElem?_drop]
      exact alike _ (by omega)
    refine ⟨one.toList.take place, one.toList[place], other.toList[place],
      one.toList.drop (place + 1), ?_, ?_, ?_⟩
    · rwa [List.getElem?_eq_getElem within, List.getElem?_eq_getElem within', ne_eq,
        Option.some_inj] at differ
    · rw [List.getElem_cons_drop, List.take_append_drop]
    · rw [front, back, List.getElem_cons_drop, List.take_append_drop]
  · rintro ⟨before, first, second, after, apart, left, right⟩
    refine ⟨?_, before.length, ?_, ?_⟩
    · rw [← String.length_toList, ← String.length_toList, left, right, List.length_append,
        List.length_append]
      rfl
    · simpa [left, right] using apart
    · intro index differ
      by_contra elsewhere
      apply differ
      rw [left, right]
      rcases Nat.lt_or_gt_of_ne elsewhere with below | above
      · rw [List.getElem?_append_left below, List.getElem?_append_left below]
      · obtain ⟨offset, rfl⟩ := Nat.exists_eq_add_of_lt above
        rw [List.getElem?_append_right (by omega), List.getElem?_append_right (by omega)]
        have past : before.length + offset + 1 - before.length = offset + 1 := by omega
        rw [past]
        rfl

theorem DifferOnce.hash_ne {one other : String} (differ : DifferOnce one other) :
    hash one ≠ hash other := by
  obtain ⟨before, first, second, after, apart, left, right⟩ := differOnce_iff.mp differ
  intro same
  rw [hash, hash, left, right, List.foldl_append, List.foldl_append] at same
  have met : absorb (absorbAll 2166136261 before) first =
      absorb (absorbAll 2166136261 before) second := (absorbAll_bijective after).injective same
  exact apart (absorb_inj met)

theorem seed_of_ne_empty {symbol : String} (present : symbol ≠ "") : seed symbol = hash symbol := by
  rw [seed, normal, if_neg (mt String.isEmpty_iff.mp present)]

theorem DifferOnce.symm {one other : String} (differ : DifferOnce one other) :
    DifferOnce other one := by
  obtain ⟨length, place, apart, only⟩ := differ
  exact ⟨length.symm, place, apart.symm, fun index differ => only index differ.symm⟩

theorem DifferOnce.ne_empty {one other : String} (differ : DifferOnce one other) : one ≠ "" := by
  obtain ⟨before, first, second, after, apart, left, right⟩ := differOnce_iff.mp differ
  rintro rfl
  exact List.append_ne_nil_of_right_ne_nil before (List.cons_ne_nil first after) left.symm

/-- Texts that differ in one letter never share a hash or a seed. Appending a text turns hashes into
hashes one to one, so it neither loses nor makes a difference between two texts. And cutting to a word
after each letter is the same as cutting once, at the end. -/
theorem hash_tells_letters :
    (∀ one other : String, DifferOnce one other → hash one ≠ hash other ∧ seed one ≠ seed other) ∧
      (∀ text : String, (Function.Bijective fun word => absorbAll word text.toList) ∧
        (∀ front, hash (front ++ text) = absorbAll (hash front) text.toList) ∧
        ∀ front other, hash (front ++ text) = hash (other ++ text) ↔ hash front = hash other) ∧
      ∀ text : String, (hash text).toNat = text.toList.foldl gather 2166136261 % UInt32.size := by
  refine ⟨?_, ?_, ?_⟩
  · intro one other differ
    refine ⟨differ.hash_ne, ?_⟩
    rw [seed_of_ne_empty differ.ne_empty, seed_of_ne_empty differ.symm.ne_empty]
    exact differ.hash_ne
  · intro text
    have bijective := absorbAll_bijective text.toList
    refine ⟨bijective, fun front => hash_append front text, ?_⟩
    intro front other
    rw [hash_append, hash_append]
    exact bijective.injective.eq_iff
  · intro text
    have cut : hash text = UInt32.ofNat (text.toList.foldl gather 2166136261) :=
      absorbAll_ofNat 2166136261 text.toList
    rw [cut]
    exact UInt32.toNat_ofNat'

theorem tether_told :
    DifferOnce "BTC/USDT" "BTC/USDC" ∧ hash "BTC/USDT" ≠ hash "BTC/USDC" ∧
      seed "BTC/USDT" ≠ seed "BTC/USDC" := by
  have differ : DifferOnce "BTC/USDT" "BTC/USDC" :=
    differOnce_iff.mpr ⟨"BTC/USD".toList, 'T', 'C', [], by decide, by decide, by decide⟩
  exact ⟨differ, hash_tells_letters.1 _ _ differ⟩

end SyntheticMarket.Symbol
