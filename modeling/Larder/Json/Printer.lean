import Larder.Json.Basic
import Larder.Decimal.Shortest

/-!
The text of a JSON value, without blanks.

Only the quote, the backslash and the control characters are escaped. A double is written as the
shortest decimal that reads back to it.
-/

namespace Larder.Json

def escapeDigit (digit : Nat) : Char :=
  Char.ofNat (if digit < 10 then '0'.toNat + digit else 'a'.toNat + digit - 10)

def writeChar (written : String) (c : Char) : String :=
  if c == '"' then written ++ "\\\""
  else if c == '\\' then written ++ "\\\\"
  else if c == '\n' then written ++ "\\n"
  else if c == '\r' then written ++ "\\r"
  else if c == '\t' then written ++ "\\t"
  else if c.toNat = 8 then written ++ "\\b"
  else if c.toNat = 12 then written ++ "\\f"
  else if c.toNat < 32 then
    ((written ++ "\\u00").push (escapeDigit (c.toNat / 16))).push (escapeDigit (c.toNat % 16))
  else written.push c

def writeText (written : String) (value : String) : String :=
  (value.foldl writeChar (written.push '"')).push '"'

def writeNumber (written : String) : Number → String
  | .whole value => written ++ toString value
  | .real value => written ++ Decimal.text value

mutual

def write (written : String) : Json → String
  | .null => written ++ "null"
  | .bool value => written ++ (if value then "true" else "false")
  | .number value => writeNumber written value
  | .text value => writeText written value
  | .list [] => written ++ "[]"
  | .list (item :: items) => (writeItems (write (written.push '[') item) items).push ']'
  | .object [] => written ++ "\x7b\x7d"
  | .object ((name, value) :: members) =>
      (writeMembers (write ((writeText (written.push '\x7b') name).push ':') value) members).push
        '\x7d'

def writeItems (written : String) : List Json → String
  | [] => written
  | item :: items => writeItems (write (written.push ',') item) items

def writeMembers (written : String) : List (String × Json) → String
  | [] => written
  | (name, value) :: members =>
      writeMembers (write ((writeText (written.push ',') name).push ':') value) members

end

def render (value : Json) : String :=
  write "" value

end Larder.Json
