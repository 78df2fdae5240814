import SyntheticMarket.Span
import SyntheticMarket.Text.Blank
import SyntheticMarket.Text.Uppercase

/-! Names for candle widths: the label shown with a candle, and the chart resolutions that may be
asked for. -/

namespace SyntheticMarket

namespace Timeframe

def units : List (Int × String) :=
  [(604800000, "W"), (86400000, "D"), (3600000, "h"), (60000, "m")]

/-- A width is told in the longest unit that divides it, and in whole seconds when none does. -/
def label (ms : Int) : String :=
  match units.find? (fun unit => ms.fmod unit.1 == 0) with
  | some (unit, suffix) => toString (ms.fdiv unit) ++ suffix
  | none => toString (ms.fdiv 1000) ++ "s"

end Timeframe

namespace Resolution

def widths : List (String × Span) := [
  ("1", ⟨60000, by decide⟩), ("5", ⟨300000, by decide⟩), ("15", ⟨900000, by decide⟩),
  ("30", ⟨1800000, by decide⟩), ("60", ⟨3600000, by decide⟩), ("240", ⟨14400000, by decide⟩),
  ("1D", ⟨86400000, by decide⟩), ("1W", ⟨604800000, by decide⟩)]

def supported : List String := widths.map (·.1)

/-- A day and a week may be named without their count. -/
def canonical : String → String
  | "D" => "1D"
  | "W" => "1W"
  | name => name

/-- The width of a resolution; blanks around it and the case of its letters do not matter. -/
def span? (resolution : String) : Option Span :=
  widths.lookup (canonical (Text.upper (Text.strip resolution)))

def span (resolution : String) : Except Report Span :=
  match span? resolution with
  | some span => .ok span
  | none => .error (.unknownResolution resolution)

end Resolution

end SyntheticMarket
