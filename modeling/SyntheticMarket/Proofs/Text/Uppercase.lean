import Mathlib.Data.List.Infix
import Mathlib.Data.Nat.ModEq
import SyntheticMarket.Text.Uppercase

/-! The upper case of an upper case is itself. The code points that the mapping changes come in runs,
and so do the code points that it yields; the mapping leaves alone what it yields because no run of
the one kind meets a run of the other. -/

namespace SyntheticMarket.Text

namespace CaseRun

variable {run other : CaseRun} {others : List CaseRun} {code : Nat}

def single (code : Nat) : CaseRun := { first := code, last := code, stride := 1, offset := 0 }

def image (run : CaseRun) : CaseRun where
  first := (run.first + run.offset).toNat
  last := (run.last + run.offset).toNat
  stride := run.stride
  offset := 0

/-- A run without gaps over all the others. -/
def hull : List CaseRun → CaseRun
  | [] => { first := 0x110000, last := 0, stride := 1, offset := 0 }
  | run :: others =>
    { first := min run.first (hull others).first, last := max run.last (hull others).last,
      stride := 1, offset := 0 }

/-- No code point is in both runs: one ends before the other starts, or the steps of the first are
also steps of the other but start out of step with it. -/
def Apart (run other : CaseRun) : Prop :=
  run.last < other.first ∨ other.last < run.first ∨
    (run.first = run.last ∨ other.stride ∣ run.stride) ∧
      run.first % other.stride ≠ other.first % other.stride

instance : Decidable (run.Apart other) :=
  inferInstanceAs (Decidable (_ ∨ _ ∨ (_ ∨ _ ∣ _) ∧ _ ≠ _))

/-- Whether a run is apart from all the others. Halves whose hull is apart from it are not looked
into, which leaves few of the many pairs of runs to compare. -/
def clears (run : CaseRun) : Nat → List CaseRun → Bool
  | 0, others => others.all fun other => run.Apart other
  | depth + 1, others =>
    run.Apart (hull others) ||
      clears run depth (others.take (others.length / 2)) &&
        clears run depth (others.drop (others.length / 2))

theorem covers_iff :
    run.covers code = true ↔
      run.first ≤ code ∧ code ≤ run.last ∧ run.stride ∣ code - run.first := by
  simp [covers, and_assoc, Nat.dvd_iff_mod_eq_zero]

theorem covers_single : (single code).covers code = true :=
  covers_iff.mpr ⟨Nat.le_refl code, Nat.le_refl code, Nat.one_dvd _⟩

theorem covers_image (sound : 0 ≤ run.first + run.offset) (covered : run.covers code = true) :
    run.image.covers (code + run.offset).toNat = true := by
  obtain ⟨after, before, step⟩ := covers_iff.mp covered
  have distance : (code + run.offset).toNat - (run.first + run.offset).toNat = code - run.first := by
    omega
  refine covers_iff.mpr ⟨?_, ?_, ?_⟩
  · exact Int.toNat_le_toNat (by omega)
  · exact Int.toNat_le_toNat (by omega)
  · exact distance ▸ step

theorem covers_hull (member : run ∈ others) (covered : run.covers code = true) :
    (hull others).covers code = true := by
  have bounds : (hull others).first ≤ run.first ∧ run.last ≤ (hull others).last := by
    induction others with
    | nil => cases member
    | cons head tail ih =>
      rcases List.mem_cons.mp member with rfl | later
      · exact ⟨Nat.min_le_left .., Nat.le_max_left ..⟩
      · exact ⟨(Nat.min_le_right ..).trans (ih later).1, (ih later).2.trans (Nat.le_max_right ..)⟩
  have gapless : (hull others).stride = 1 := by
    cases others <;> rfl
  obtain ⟨after, before, -⟩ := covers_iff.mp covered
  exact covers_iff.mpr ⟨bounds.1.trans after, before.trans bounds.2, gapless ▸ Nat.one_dvd _⟩

theorem Apart.not_covers (apart : run.Apart other) (covered : run.covers code = true) :
    other.covers code = false := by
  by_contra both
  obtain ⟨after, before, step⟩ := covers_iff.mp covered
  obtain ⟨otherAfter, otherBefore, otherStep⟩ := covers_iff.mp (Bool.eq_true_of_not_eq_false both)
  rcases apart with early | late | ⟨inStep, apart⟩
  · omega
  · omega
  · have reached : code ≡ other.first [MOD other.stride] :=
      ((Nat.modEq_iff_dvd' otherAfter).mpr otherStep).symm
    have started : run.first ≡ code [MOD other.stride] := by
      rcases inStep with one | steps
      · rw [Nat.le_antisymm after (one ▸ before)]
      · exact (Nat.modEq_iff_dvd' after).mpr (steps.trans step)
    exact apart (started.trans reached)

theorem not_covers_of_clears {depth : Nat} (clear : run.clears depth others = true)
    (covered : run.covers code = true) (member : other ∈ others) : other.covers code = false := by
  induction depth generalizing others with
  | zero => exact (of_decide_eq_true (List.all_eq_true.mp clear other member)).not_covers covered
  | succ depth ih =>
    rw [clears, Bool.or_eq_true, Bool.and_eq_true] at clear
    rcases clear with apart | ⟨front, back⟩
    · by_contra both
      have within := covers_hull member (Bool.eq_true_of_not_eq_false both)
      rw [(of_decide_eq_true apart).not_covers covered] at within
      cases within
    · rw [← List.take_append_drop (others.length / 2) others, List.mem_append] at member
      exact member.elim (ih front) (ih back)

end CaseRun

/-- The code points whose upper case is another one or longer. -/
def changing : List CaseRun := caseRuns ++ caseExpansions.map fun entry => .single entry.1

/-- The code points that the upper case of one of those consists of. -/
def yielded : List CaseRun :=
  caseRuns.map .image ++ caseExpansions.flatMap fun entry => entry.2.map .single

theorem yielded_clears : ∀ run ∈ yielded, run.clears 8 changing = true := by
  decide +kernel

variable {letter result : Char} {code : Nat}

/-- A letter in none of the changing runs is its own upper case. -/
theorem upperLetter_eq_self (still : ∀ run ∈ changing, run.covers letter.toNat = false) :
    upperLetter letter = [letter] := by
  have noRun : caseRuns.find? (·.covers letter.toNat) = none :=
    List.find?_eq_none.mpr fun run member =>
      Bool.eq_false_iff.mp (still run (List.mem_append_left _ member))
  have noExpansion : caseExpansions.lookup letter.toNat = none := by
    refine List.lookup_eq_none_iff.mpr fun entry member => ?_
    have missed := still (.single entry.1)
      (List.mem_append_right _ (List.mem_map_of_mem member))
    by_contra same
    rw [bne_iff_ne, not_not] at same
    rw [same, CaseRun.covers_single] at missed
    cases missed
  rw [upperLetter]
  simp only [noRun, noExpansion]

/-- A number that is no code point counts as the null character, which has no case. -/
theorem upperLetter_ofNat (still : ∀ run ∈ changing, run.covers code = false) :
    upperLetter (Char.ofNat code) = [Char.ofNat code] := by
  by_cases valid : code.isValidChar
  · apply upperLetter_eq_self
    have code_eq : (Char.ofNat code).toNat = code := by
      rw [Char.ofNat, dif_pos valid]
      rfl
    rwa [code_eq]
  · have null : Char.ofNat code = '\x00' := by
      rw [Char.ofNat, dif_neg valid]
      rfl
    rw [null]
    decide +kernel

/-- The upper case of a letter is the letter itself, if the tables do not name it, or is made of code
points of the yielded runs. -/
theorem mem_upperLetter (member : result ∈ upperLetter letter) :
    result = letter ∧ upperLetter letter = [letter] ∨
      ∃ run ∈ yielded, ∃ code, run.covers code = true ∧ result = Char.ofNat code := by
  have sound : ∀ run ∈ caseRuns, 0 ≤ run.first + run.offset := by decide +kernel
  simp only [upperLetter] at member
  split at member
  · rename_i run found
    obtain rfl := List.mem_singleton.mp member
    have known := List.mem_of_find?_eq_some found
    have covered := List.find?_some found
    exact .inr ⟨run.image, List.mem_append_left _ (List.mem_map_of_mem known), _,
      CaseRun.covers_image (sound run known) covered, rfl⟩
  · split at member
    · rename_i codes found
      obtain ⟨code, told, rfl⟩ := List.mem_map.mp member
      obtain ⟨before, after, whole, -⟩ := List.lookup_eq_some_iff.mp found
      have known : (letter.toNat, codes) ∈ caseExpansions :=
        whole ▸ List.mem_append_right _ List.mem_cons_self
      have yields : CaseRun.single code ∈ yielded :=
        List.mem_append_right _ (List.mem_flatMap.mpr ⟨_, known, List.mem_map_of_mem told⟩)
      exact .inr ⟨_, yields, code, CaseRun.covers_single, rfl⟩
    · rename_i noRun _ noExpansion
      refine .inl ⟨List.mem_singleton.mp member, ?_⟩
      rw [upperLetter]
      simp only [noRun, noExpansion]

theorem upperLetter_of_mem (member : result ∈ upperLetter letter) :
    upperLetter result = [result] := by
  obtain ⟨rfl, same⟩ | ⟨run, yields, code, covered, rfl⟩ := mem_upperLetter member
  · exact same
  · exact upperLetter_ofNat fun other changes =>
      CaseRun.not_covers_of_clears (yielded_clears run yields) covered changes

theorem toList_upper (text : String) : (upper text).toList = text.toList.flatMap upperLetter :=
  String.toList_ofList

theorem upper_upper (text : String) : upper (upper text) = upper text := by
  rw [← String.toList_inj, toList_upper, toList_upper, List.flatMap_assoc]
  refine List.flatMap_congr fun letter _ => ?_
  calc (upperLetter letter).flatMap upperLetter
      = (upperLetter letter).flatMap fun result => [result] :=
        List.flatMap_congr fun result member => upperLetter_of_mem member
    _ = upperLetter letter := List.flatMap_singleton' _

/-- Each letter has its upper case to itself, so a part of a text has a part of its upper case. -/
theorem upper_infix {part text : String} (within : part.toList <:+: text.toList) :
    (upper part).toList <:+: (upper text).toList := by
  rw [toList_upper, toList_upper]
  exact within.flatMap upperLetter

end SyntheticMarket.Text
