import Larder.Job
import Larder.Pantry
import Larder.Staging

namespace Larder

inductive BackendFault
  | injected (operation : String)
  | scripted (text : String)
  | database (message : String)
  | noRows
  | unexpectedNull (column : String)
  | wrongType (column : String)
  | configuration (detail : String)
  | connectionLost
deriving DecidableEq, Repr

def BackendFault.message : BackendFault → String
  | .injected operation =>
      "encountered unexpected or invalid data: Injected " ++ operation ++ " failure."
  | .scripted text => "encountered unexpected or invalid data: " ++ text
  | .database message => "error returned from database: " ++ message
  | .noRows => "no rows returned by a query that expected to return at least one row"
  | .unexpectedNull column =>
      decodingFailed column "unexpected null; try decoding as an \x60Option\x60"
  | .wrongType column => decodingFailed column "mismatched types"
  | .configuration detail => "error with configuration: " ++ detail
  | .connectionLost => "error communicating with database: connection closed"
where
  decodingFailed (column reason : String) : String :=
    "error occurred while decoding column " ++ Text.quoted column ++ ": " ++ reason

inductive StoreError
  | backend (fault : BackendFault)
  | invalidArgument (detail : String)
  | notFound (detail : String)
  | conflict (detail : String)
deriving DecidableEq, Repr

def StoreError.message : StoreError → String
  | .backend fault => fault.message
  | .invalidArgument detail => "Invalid argument: " ++ detail
  | .notFound detail => "Not found: " ++ detail
  | .conflict detail => "Conflict: " ++ detail

namespace StoreError

def noPantryItem (id : Uuid) : StoreError :=
  .notFound ("Pantry item " ++ toString id ++ ".")

def noStagedItem (id : Uuid) : StoreError :=
  .notFound ("Staged item " ++ toString id ++ ".")

def jobExists (id : Uuid) : StoreError :=
  .conflict ("Job " ++ toString id ++ " already exists.")

def noSuchJob (id : Uuid) : StoreError :=
  .invalidArgument ("Job " ++ toString id ++ " does not exist.")

end StoreError

inductive StoreCall
  | upsertItem (write : PantryWrite)
  | deleteItem (id : Uuid)
  | deleteAllItems
  | listItems
  | insertJob (job : Job)
  | getJob (id : Uuid)
  | transition (change : Transition)
  | insertStaged (item : StagedItem)
  | listStaged (jobId : Uuid)
  | updateStaged (item : StagedItem)

abbrev StoreCall.Value : StoreCall → Type
  | .upsertItem _ => PantryItem
  | .deleteItem _ => Unit
  | .deleteAllItems => Nat
  | .listItems => List PantryItem
  | .insertJob _ => Unit
  | .getJob _ => Option Job
  | .transition _ => Option Job
  | .insertStaged _ => Unit
  | .listStaged _ => List StagedItem
  | .updateStaged _ => StagedItem

abbrev StoreCall.Answer (call : StoreCall) : Type :=
  Except StoreError call.Value

end Larder
