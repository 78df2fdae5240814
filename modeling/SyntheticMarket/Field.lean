import SyntheticMarket.Json
import SyntheticMarket.Text.Decimal

/-! Typed fields from loosely typed input: requests and environment variables. A value of another
type is taken where it stands for one of the wanted type without loss, and otherwise refused with
the kind of mismatch. -/

namespace SyntheticMarket

inductive Mismatch where
  | missing
  | notJson
  | notRecord
  | notText
  | notList
  | notWhole
  | wholeUnreadable
  | wholeTooLong
  | wholeFromFraction
  | notFinite
  | belowMinimum
  | notReal
  | realUnreadable
  | flagUnreadable
deriving DecidableEq, Repr

def Mismatch.name : Mismatch → String
  | missing => "missing"
  | notJson => "json_invalid"
  | notRecord => "model_attributes_type"
  | notText => "string_type"
  | notList => "list_type"
  | notWhole => "int_type"
  | wholeUnreadable => "int_parsing"
  | wholeTooLong => "int_parsing_size"
  | wholeFromFraction => "int_from_float"
  | notFinite => "finite_number"
  | belowMinimum => "greater_than_equal"
  | notReal => "float_type"
  | realUnreadable => "float_parsing"
  | flagUnreadable => "bool_parsing"

/-- A step on the way to a refused field: a name, or a place counted from zero. -/
inductive Place where
  | name (name : String)
  | index (index : Nat)
deriving DecidableEq, Repr

structure Problem where
  path : List Place
  mismatch : Mismatch
deriving DecidableEq, Repr

namespace Field

def wholeOfText (text : String) : Except Mismatch Int :=
  match Text.looseWhole text with
  | .ok value => .ok value
  | .error .unreadable => .error .wholeUnreadable
  | .error .tooLong => .error .wholeTooLong

def realOfText (text : String) : Except Mismatch Float :=
  match Text.looseReal? text with
  | some value => .ok value
  | none => .error .realUnreadable

def flagOfText (text : String) : Except Mismatch Bool :=
  let word := String.ofList (text.toList.map Char.toLower)
  if ["1", "t", "true", "y", "yes", "on"].contains word then .ok true
  else if ["0", "f", "false", "n", "no", "off"].contains word then .ok false
  else .error .flagUnreadable

def wholeBound : Float := 9223372036854775808.0

/-- A real stands for a whole number if it is one and within the bound. -/
def wholeOfReal (value : Float) : Except Mismatch Int :=
  if value.isNaN || value.isInf then .error .notFinite
  else if -wholeBound < value && value < wholeBound then
    if value.toInt64.toFloat == value then .ok value.toInt64.toInt else .error .wholeFromFraction
  else .error .wholeTooLong

/-- A whole number stands for the nearest real, if that is finite. -/
def realOfWhole (value : Int) : Except Mismatch Float :=
  let magnitude := Text.nearestFloat value.natAbs 0
  if magnitude.isInf then .error .notReal
  else .ok (if value < 0 then -magnitude else magnitude)

def text : Json → Except Mismatch String
  | .text value => .ok value
  | _ => .error .notText

def whole : Json → Except Mismatch Int
  | .whole value => .ok value
  | .bool value => .ok (if value then 1 else 0)
  | .real value => wholeOfReal value
  | .text value => wholeOfText value
  | _ => .error .notWhole

def real : Json → Except Mismatch Float
  | .real value => .ok value
  | .whole value => realOfWhole value
  | .bool value => .ok (if value then 1.0 else 0.0)
  | .text value => realOfText value
  | _ => .error .notReal

def optional {β : Type} (reader : Json → Except Mismatch β) :
    Option Json → Except Mismatch (Option β)
  | none => .ok none
  | some .null => .ok none
  | some value => (reader value).map some

def required {β : Type} (reader : Json → Except Mismatch β) : Option Json → Except Mismatch β
  | none => .error .missing
  | some value => reader value

end Field

/-- What reading several fields gives: a value, or the problems of all fields that were refused, in
the order of reading. -/
inductive Reading (β : Type) where
  | done (value : β)
  | refused (problems : List Problem)
deriving DecidableEq, Repr

namespace Reading

variable {β γ : Type}

def ofField (path : List Place) : Except Mismatch β → Reading β
  | .ok value => done value
  | .error mismatch => refused [{ path, mismatch }]

def map (f : β → γ) : Reading β → Reading γ
  | done value => done (f value)
  | refused problems => refused problems

/-- The second reading takes place also if the first one is refused, so no problem is missed. -/
def seq (f : Reading (β → γ)) (value : Unit → Reading β) : Reading γ :=
  match f, value () with
  | done f, done value => done (f value)
  | done _, refused problems => refused problems
  | refused problems, done _ => refused problems
  | refused problems, refused others => refused (problems ++ others)

instance applicative : Applicative Reading where
  pure := done
  map := map
  seq := seq

def orFault {ε : Type} (fault : List Problem → ε) : Reading β → Except ε β
  | done value => .ok value
  | refused problems => .error (fault problems)

end Reading

end SyntheticMarket
