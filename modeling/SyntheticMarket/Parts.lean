import SyntheticMarket.Settings

/-! The parts that a server is put together from. A part is made when it is first asked for and then
kept; parts are told apart by number. -/

namespace SyntheticMarket

inductive Part where
  | clock
  | bus
  | simulations
  | charts
  | hub
deriving DecidableEq, Repr

def Part.ofName? : String → Option Part
  | "clock" => some clock
  | "event_bus" => some bus
  | "simulations" => some simulations
  | "udf_history" => some charts
  | "ws_manager" => some hub
  | _ => none

/-- The parts kept so far, by number, and how many were ever made. -/
structure Parts where
  settings : Settings
  kept : List (Part × Nat)
  made : Nat

namespace Parts

def ofSettings (settings : Settings) : Parts := { settings, kept := [], made := 0 }

def make (parts : Parts) : Nat × Parts := (parts.made, { parts with made := parts.made + 1 })

/-- The part that is kept, made now if there was none. -/
def get (parts : Parts) (part : Part) : Nat × Parts :=
  match parts.kept.lookup part with
  | some number => (number, parts)
  | none =>
    let (number, parts) := parts.make
    (number, { parts with kept := (part, number) :: parts.kept })

def replace (parts : Parts) (part : Part) : Parts :=
  let (number, parts) := parts.make
  { parts with kept := (part, number) :: parts.kept }

def reset (parts : Parts) : Parts := { parts with kept := [] }

end Parts

structure SharedParts where
  current : Option Nat
  made : Nat
deriving DecidableEq, Repr

namespace SharedParts

def empty : SharedParts := { current := none, made := 0 }

def renew (shared : SharedParts) : Nat × SharedParts :=
  (shared.made, { current := some shared.made, made := shared.made + 1 })

/-- The shared parts, new ones if there are none. -/
def get (shared : SharedParts) : Nat × SharedParts :=
  match shared.current with
  | some number => (number, shared)
  | none => shared.renew

def reset (shared : SharedParts) : SharedParts := { shared with current := none }

end SharedParts

end SyntheticMarket
