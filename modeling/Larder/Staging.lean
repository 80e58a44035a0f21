import Larder.Candidate
import Larder.Time.Timestamp

/-!
Staged items and what a person may change about them before they go into the pantry.

An edit gives new values for some of ingredient, quantity and unit; what it does not give stays. An
override is an edit of one staged item that is sent along with a confirmation.
-/

namespace Larder

structure StagedItem where
  id : Uuid
  jobId : Uuid
  ingredientId : Option Uuid
  rawText : String
  quantity : Float
  unit : String
  confidence : Float
  needsReview : Bool
  createdAt : Timestamp
  updatedAt : Timestamp
deriving Inhabited

inductive InvalidField
  | stagedQuantity
  | stockQuantity
  | blankUnit
deriving DecidableEq, Repr

namespace InvalidField

def field : InvalidField → String
  | .stagedQuantity | .stockQuantity => "quantity"
  | .blankUnit => "unit"

def detail : InvalidField → String
  | .stagedQuantity => "must be a finite number zero or greater."
  | .stockQuantity => "must be positive."
  | .blankUnit => "is required."

def message (fault : InvalidField) : String :=
  fault.field ++ " " ++ fault.detail

end InvalidField

/-- A staged quantity may be zero: the household has run out of the item. -/
def validateStagedQuantity (quantity : Float) : Except InvalidField Unit :=
  if !quantity.isFinite || quantity < 0.0 then .error .stagedQuantity else .ok ()

/-- A quantity written directly must add something. -/
def validateStockQuantity (quantity : Float) : Except InvalidField Unit :=
  if !quantity.isFinite || quantity ≤ 0.0 then .error .stockQuantity else .ok ()

def validateUnit (unit : String) : Except InvalidField Unit :=
  if Text.isBlankText unit then .error .blankUnit else .ok ()

structure Edit where
  ingredientId : Option Uuid
  quantity : Option Float
  unit : Option String
deriving Inhabited

def Edit.none : Edit := ⟨.none, .none, .none⟩

def Edit.validate (edit : Edit) : Except InvalidField Unit := do
  if let some quantity := edit.quantity then validateStagedQuantity quantity
  if let some unit := edit.unit then validateUnit unit

structure Override where
  stagedItemId : Uuid
  edit : Edit
deriving Inhabited

structure Commitment where
  ingredientId : Option Uuid
  quantity : Float
  unit : String

namespace Commitment

def ofItem (item : StagedItem) : Commitment :=
  ⟨item.ingredientId, item.quantity, item.unit⟩

/-- The values an edit leaves or puts. A unit it puts is trimmed. -/
def edited (values : Commitment) (edit : Edit) : Commitment :=
  { ingredientId := edit.ingredientId.or values.ingredientId
    quantity := edit.quantity.getD values.quantity
    unit := (edit.unit.map Text.trim).getD values.unit }

def apply (values : Commitment) : Option Edit → Commitment
  | .none => values
  | some edit => values.edited edit

end Commitment

end Larder
