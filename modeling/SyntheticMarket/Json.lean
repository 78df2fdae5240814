/-! JSON values as they travel over the wire. Whole numbers and reals are told apart, as their texts
are. -/

namespace SyntheticMarket

inductive Json where
  | null
  | bool (value : Bool)
  | whole (value : Int)
  | real (value : Float)
  | text (value : String)
  | list (items : List Json)
  | record (members : List (String × Json))
deriving Inhabited

namespace Json

/-- A name that occurs more than once in a record stands for its last value. -/
def member? (members : List (String × Json)) (name : String) : Option Json :=
  members.reverse.lookup name

/-- The value of a member of a record, `null` where there is none. -/
def memberOrNull (members : List (String × Json)) (name : String) : Json :=
  (member? members name).getD null

def text? : Json → Option String
  | text value => some value
  | _ => none

def texts (items : List String) : Json := list (items.map text)

def ofTextOption : Option String → Json
  | none => null
  | some value => text value

def ofRealOption : Option Float → Json
  | none => null
  | some value => real value

end Json

end SyntheticMarket
