import Larder.Net.Address
import Larder.Store.Call
import Larder.Url.Basic

/-!
Addresses of databases, which are URLs.

User, password and database stand where a URL has them; the query may name each of them once more and
then counts. Of the query's other settings those that have a form are checked, and the rest is skipped.
-/

namespace Larder.Store

structure Address where
  host : Option String
  port : Nat
  user : String
  database : Option String
deriving DecidableEq, Repr

namespace Address

def encryptionModes : List String :=
  ["disable", "allow", "prefer", "require", "verify-ca", "verify-full"]

def readDigits (bound value : Nat) : List Char → Except BackendFault Nat
  | [] => .ok value
  | c :: rest =>
      if !c.isDigit then .error (.configuration "invalid digit found in string")
      else
        let longer := value * 10 + (c.toNat - '0'.toNat)
        if longer < bound then readDigits bound longer rest
        else .error (.configuration "number too large to fit in target type")

def readNumber (bound : Nat) (text : String) : Except BackendFault Nat :=
  match text.toList with
  | [] => .error (.configuration "cannot parse integer from empty string")
  | ['+'] => .error (.configuration "invalid digit found in string")
  | '+' :: digits | digits => readDigits bound 0 digits

def isNumeric (text : String) : Bool :=
  (Net.octets? text.toList).isSome || (Net.allGroups? text.toList).isSome

def set (address : Address) (setting : String × String) : Except BackendFault Address :=
  let value := setting.2
  match setting.1 with
  | "sslmode" | "ssl-mode" =>
      if encryptionModes.contains (String.ofList (value.toList.map Char.toLower)) then .ok address
      else
        .error (.configuration
          ("error with configuration: unknown value " ++ Text.quoted value ++ " for \x60ssl_mode\x60"))
  | "statement-cache-capacity" => (readNumber (Nat.pow 2 64) value).map fun _ => address
  | "host" => .ok { address with host := some value }
  | "hostaddr" =>
      if isNumeric value then .ok { address with host := some value }
      else .error (.configuration "invalid IP address syntax")
  | "port" => (readNumber 65536 value).map fun port => { address with port }
  | "dbname" => .ok { address with database := some value }
  | "user" => .ok { address with user := value }
  | _ => .ok address

def decoded (part : String) : Except BackendFault String :=
  let bytes := Url.percentDecode (Text.Utf8.encode part)
  match Text.Utf8.fault? bytes with
  | some fault => .error (.configuration fault.message)
  | none => .ok (Text.Utf8.decodeLossy bytes)

/-- The host of an address: a folder, when it begins with an encoded slash. -/
def decodedHost (host : String) : Except BackendFault String :=
  if (Url.percentDecode (Text.Utf8.encode host)).head? == some 0x2F then decoded host else .ok host

def ofUrl (url : Url) : Except BackendFault Address := do
  let host ← url.host.mapM decodedHost
  let user ← decoded url.username
  let _ ← url.password.mapM decoded
  let database ← decoded (String.ofList (url.path.toList.dropWhile (· == '/')))
  let address : Address :=
    { host, user
      port := url.port.getD 5432
      database := if database.isEmpty then none else some database }
  (Url.queryPairs (url.query.getD "")).foldlM set address

def parse (text : String) : Except BackendFault Address :=
  match Url.parse text with
  | .ok url => ofUrl url
  | .error fault => .error (.configuration fault.message)

/-- The name of the database that is asked for, which is empty where the server has to choose. -/
def databaseName (address : Address) : String :=
  address.database.getD ""

end Address

end Larder.Store
