/-! What the market refuses, by cause, and how each refusal is reported. -/

namespace SyntheticMarket

inductive Misfit (α : Type) where
  | durationNotPositive (ms : Int)
  | durationNotWholeSeconds (ms : Int)
  | intervalNotPositive (ms : Int)
  | lengthNotPositive (length : Int)
  | lengthAboveLimit (limit length : Int)
  | volatilityNegative (volatility : α)
  | startPriceNotPositive (price : α)
  | countNegative (count : Int)
  | bucketNotPositive (ms : Int)
deriving Repr

inductive Misfit.Value (α : Type) where
  | whole (number : Int)
  | real (number : α)
deriving Repr

namespace Misfit

variable {α : Type}

def field : Misfit α → String
  | durationNotPositive _ => "candle_duration_ms"
  | durationNotWholeSeconds _ => "candle_duration_ms"
  | intervalNotPositive _ => "tick_interval_ms"
  | lengthNotPositive _ => "history_length"
  | lengthAboveLimit _ _ => "history_length"
  | volatilityNegative _ => "volatility"
  | startPriceNotPositive _ => "start_price"
  | countNegative _ => "count"
  | bucketNotPositive _ => "duration_ms"

def value : Misfit α → Value α
  | durationNotPositive ms => .whole ms
  | durationNotWholeSeconds ms => .whole ms
  | intervalNotPositive ms => .whole ms
  | lengthNotPositive length => .whole length
  | lengthAboveLimit _ length => .whole length
  | volatilityNegative volatility => .real volatility
  | startPriceNotPositive price => .real price
  | countNegative count => .whole count
  | bucketNotPositive ms => .whole ms

def message : Misfit α → String
  | durationNotPositive _ => "candle_duration_ms debe ser positivo"
  | durationNotWholeSeconds _ => "candle_duration_ms debe ser un número entero de segundos"
  | intervalNotPositive _ => "tick_interval_ms debe ser positivo"
  | lengthNotPositive _ => "history_length debe ser positivo"
  | lengthAboveLimit limit _ => "history_length no puede superar " ++ toString limit
  | volatilityNegative _ => "volatility no puede ser negativa"
  | startPriceNotPositive _ => "start_price debe ser positivo"
  | countNegative _ => "count no puede ser negativo"
  | bucketNotPositive _ => "duration_ms debe ser positivo"

end Misfit

/-- A refusal as it is told to the outside: a code for programs and a message for people. -/
inductive Report where
  | general (message : String) (code : String)
  | parameter (message : String) (field : Option String)
  | notStarted (message : String)
  | unknownResolution (resolution : String)
deriving DecidableEq, Repr

namespace Report

/-- The code of a refusal that has none of its own. -/
def generalCode : String := "DOMAIN_ERROR"

def notStartedMessage : String := "La simulación no ha sido inicializada"

def code : Report → String
  | general _ code => code
  | parameter _ _ => "INVALID_CONFIGURATION"
  | notStarted _ => "SIMULATION_NOT_STARTED"
  | unknownResolution _ => "UNKNOWN_RESOLUTION"

def message : Report → String
  | general message _ => message
  | parameter message _ => message
  | notStarted message => message
  | unknownResolution resolution => "Resolución '" ++ resolution ++ "' no soportada"

end Report

def Misfit.report {α : Type} (misfit : Misfit α) : Report :=
  .parameter misfit.message (some misfit.field)

end SyntheticMarket
