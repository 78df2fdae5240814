import SyntheticMarket.Proofs.Timeframe
import SyntheticMarket.Subscription

/-! Subscriptions to timeframes. However the labels of some widths are written into one list, the
subscription that is read from it wants the candles of its symbol in these widths and no others. -/

namespace SyntheticMarket

namespace Subscription

structure Padding where
  letters : List Char
  all_blank : letters.all Text.isBlank = true

/-- A place in a list: the label of a width with blanks around it, or nothing but blanks. -/
inductive Place where
  | label (before : Padding) (width : Width) (after : Padding)
  | empty (blanks : Padding)

namespace Place

def letters : Place → List Char
  | label before width after =>
    before.letters ++ ((Timeframe.label width.ms).toList ++ after.letters)
  | empty blanks => blanks.letters

def width? : Place → Option Width
  | label _ width _ => some width
  | empty _ => none

def name? (place : Place) : Option String := place.width?.map fun width => Timeframe.label width.ms

end Place

def written (places : List Place) : String :=
  String.ofList ([','].intercalate (places.map Place.letters))

/-- The places hold the labels of these widths, in any order and as often as they like. -/
def Tells (places : List Place) (widths : List Width) : Prop :=
  ∀ width, width ∈ widths ↔ width ∈ places.filterMap Place.width?

theorem Padding.blank (padding : Padding) :
    ∀ letter ∈ padding.letters, Text.isBlank letter = true :=
  List.all_eq_true.mp padding.all_blank

theorem Padding.comma_not_mem (padding : Padding) : ',' ∉ padding.letters := by
  intro member
  exact absurd (padding.blank ',' member) (by decide)

theorem Place.comma_not_mem (place : Place) : ',' ∉ place.letters := by
  cases place with
  | label before width after =>
    intro member
    obtain leading | inside := List.mem_append.mp member
    · exact before.comma_not_mem leading
    · obtain core | trailing := List.mem_append.mp inside
      · exact (Timeframe.label_plain width ',' core).1 rfl
      · exact after.comma_not_mem trailing
  | empty blanks => exact blanks.comma_not_mem

/-- What is read at a place is the label in it. -/
theorem Place.trimmed (place : Place) :
    String.ofList (Text.trimLetters Text.isBlank place.letters) = place.name?.getD "" := by
  cases place with
  | label before width after =>
    have plain (letter : Char) (member : letter ∈ (Timeframe.label width.ms).toList) :=
      (Timeframe.label_plain width letter member).2
    rw [letters, Text.trimLetters_append before.blank after.blank plain, String.ofList_toList]
    rfl
  | empty blanks =>
    have nothing : Text.trimLetters Text.isBlank (blanks.letters ++ ([] ++ [])) = [] :=
      Text.trimLetters_append blanks.blank (List.forall_mem_nil _) (List.forall_mem_nil _)
    rw [List.append_nil, List.append_nil] at nothing
    rw [letters, nothing]
    rfl

theorem names_written {places : List Place} (nonempty : places ≠ []) :
    names (written places) = places.filterMap Place.name? := by
  have parted : Text.pieces ',' (written places).toList = places.map Place.letters := by
    rw [written, String.toList_ofList]
    apply Text.pieces_intercalate (mt List.map_eq_nil_iff.mp nonempty)
    intro part member
    obtain ⟨place, _, rfl⟩ := List.mem_map.mp member
    exact place.comma_not_mem
  rw [names, parted, List.map_map]
  clear parted nonempty
  induction places with
  | nil => rfl
  | cons place others ih =>
    rw [List.map_cons, Function.comp_apply, place.trimmed]
    cases place with
    | label before width after =>
      have present : (!(Timeframe.label width.ms).isEmpty) = true := by
        simp [Timeframe.label_ne_empty width]
      have named : (Place.label before width after).name?.getD "" = Timeframe.label width.ms := rfl
      rw [named, List.filter_cons, if_pos present, ih]
      rfl
    | empty blanks =>
      have unnamed : (Place.empty blanks).name?.getD "" = "" := rfl
      rw [unnamed, List.filter_cons, if_neg (by decide), ih]
      rfl

theorem mem_ordered {name : String} {names : List String} :
    name ∈ ordered names ↔ name ∈ names := by
  rw [ordered, List.mem_eraseDups, List.mem_mergeSort]

/-- A list with a name in it admits the timeframes that it names. -/
theorem admits_ofText {symbol text timeframe : String} (named : names text ≠ []) :
    (ofText symbol (some text)).admits timeframe = true ↔ timeframe ∈ names text := by
  rw [← mem_ordered, ofText, Option.getD_some]
  split
  · rename_i nothing
    obtain ⟨name, member⟩ := List.exists_mem_of_ne_nil _ named
    rw [← mem_ordered, nothing] at member
    exact absurd member List.not_mem_nil
  · exact List.contains_iff_mem

theorem symbol_ofText (symbol : String) (text : Option String) :
    (ofText symbol text).symbol = symbol := by
  rw [ofText]
  split <;> rfl

theorem mem_names_written {places : List Place} {widths : List Width} (nonempty : places ≠ [])
    (told : Tells places widths) (width : Width) :
    Timeframe.label width.ms ∈ names (written places) ↔ width ∈ widths := by
  rw [names_written nonempty, told, List.mem_filterMap, List.mem_filterMap]
  refine exists_congr fun place => and_congr_right fun _ => ?_
  cases place with
  | label before other after =>
    simp [Place.name?, Place.width?, Timeframe.label_inj]
  | empty blanks => simp [Place.name?, Place.width?]

/-- However some widths are written into a list of labels, the subscription to a symbol and that list
wants an event of a configuration exactly if it is about the symbol and in one of the widths. No two
widths share a label. -/
theorem wants_written (symbol : String) {places : List Place} {widths : List Width}
    (nonempty : widths ≠ []) (told : Tells places widths) :
    (∀ {α : Type} (config : Config α),
      (ofText symbol (some (written places))).wants (some config.symbol) (some config.timeframe) =
          true ↔
        config.symbol = symbol ∧ config.width ∈ widths) ∧
      ∀ width other : Width, Timeframe.label width.ms = Timeframe.label other.ms → width = other := by
  constructor
  · intro α config
    obtain ⟨first, among⟩ := List.exists_mem_of_ne_nil widths nonempty
    have placed : places ≠ [] := by
      rintro rfl
      exact absurd ((told first).mp among) List.not_mem_nil
    have named : names (written places) ≠ [] :=
      List.ne_nil_of_mem ((mem_names_written placed told first).mpr among)
    have admitted : (ofText symbol (some (written places))).admits config.timeframe = true ↔
        config.width ∈ widths :=
      (admits_ofText named).trans (mem_names_written placed told config.width)
    rw [wants, symbol_ofText, Bool.and_eq_true, beq_iff_eq, Option.some_inj]
    exact and_congr_right fun _ => admitted
  · intro width other
    exact Timeframe.label_inj.mp

/-- Two labels, one of them twice, with blanks and blank places around them. -/
def scrawled (minutes hour : Width) : List Place :=
  let none : Padding := { letters := [], all_blank := rfl }
  let space : Padding := { letters := [' '], all_blank := rfl }
  let tab : Padding := { letters := ['\t', '\u00a0'], all_blank := rfl }
  [.label space minutes tab, .empty none, .label none hour none, .empty space,
    .label none minutes space]

theorem scrawled_wanted :
    let minutes : Width := { ms := 300000, positive := by decide, seconds := by decide }
    let hour : Width := { ms := 3600000, positive := by decide, seconds := by decide }
    let places := scrawled minutes hour
    written places = " 5m\t\u00a0,,1h, ,5m " ∧ [hour, minutes] ≠ [] ∧
      Tells places [hour, minutes] ∧
      ∀ config : Config Rat,
        (ofText "TEST" (some (written places))).wants (some config.symbol)
            (some config.timeframe) = true ↔
          config.symbol = "TEST" ∧ config.width ∈ [hour, minutes] := by
  intro minutes hour places
  have told : Tells places [hour, minutes] := by
    have held : places.filterMap Place.width? = [minutes, hour, minutes] := rfl
    intro width
    rw [held]
    simp only [List.mem_cons, List.not_mem_nil, or_false]
    tauto
  have nonempty : [hour, minutes] ≠ [] := List.cons_ne_nil hour [minutes]
  refine ⟨by decide +kernel, nonempty, told, ?_⟩
  exact (wants_written "TEST" nonempty told).1

end Subscription

end SyntheticMarket
