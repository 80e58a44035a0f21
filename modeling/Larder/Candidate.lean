import Larder.Text.Blank
import Larder.Uuid

namespace Larder

structure Candidate where
  rawText : String
  name : String
  quantity : Float
  unit : String
  confidence : Float
deriving Inhabited

structure Ingredient where
  id : Uuid
  name : String
deriving DecidableEq, Inhabited

/-- The dictionary's answer for one name; `created` when it made a new ingredient for it. -/
structure Resolution where
  ingredient : Ingredient
  confidence : Float
  created : Bool
deriving Inhabited

namespace Candidate

def defaultQuantity : Float := 1.0

def defaultThreshold : Float := 0.7

def fallbackUnit : String := "piece"

structure Repaired where
  quantity : Float
  unit : String
  confidence : Float
  replaced : Bool

def isStorable (quantity : Float) : Bool :=
  quantity.isFinite && 0.0 ≤ quantity

/-- Moves a finite confidence into the range from 0 to 1; any other counts as 0. -/
def clampConfidence (confidence : Float) : Float :=
  if confidence.isFinite then
    if confidence < 0.0 then 0.0 else if 1.0 < confidence then 1.0 else confidence
  else 0.0

def repair (quantity : Float) (unit : String) (confidence : Float) : Repaired :=
  let trimmed := Text.trim unit
  { quantity := if isStorable quantity then quantity else 0.0
    unit := if trimmed == "" then fallbackUnit else trimmed
    confidence := clampConfidence confidence
    replaced := !isStorable quantity }

def needsReview (confidence threshold : Float) (ingredient : Option Uuid) : Bool :=
  ingredient.isNone || confidence < threshold

end Candidate

end Larder
