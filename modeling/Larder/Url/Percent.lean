import Larder.Json.Token
import Larder.Text.Utf8

namespace Larder.Url

/-- Replaces each percent sign with two hexadecimal digits by the byte they stand for; a percent sign
without them stays. -/
def percentDecode : List UInt8 → List UInt8
  | [] => []
  | 0x25 :: high :: low :: rest =>
      match Json.hexByte? high, Json.hexByte? low with
      | some upper, some lower => UInt8.ofNat (upper * 16 + lower) :: percentDecode rest
      | _, _ => 0x25 :: percentDecode (high :: low :: rest)
  | byte :: rest => byte :: percentDecode rest

def decodeSegment? (segment : String) : Option String :=
  Text.Utf8.decode? (percentDecode (Text.Utf8.encode segment))

def decodeQueryPart (bytes : List UInt8) : String :=
  Text.Utf8.decodeLossy
    (percentDecode (bytes.map fun byte => if byte == 0x2B then 0x20 else byte))

def splitBytes (separator : UInt8) (bytes : List UInt8) : List (List UInt8) :=
  bytes.splitBy (fun a b => a != separator && b != separator)
    |>.filter (· != [separator])

def queryPair (part : List UInt8) : String × String :=
  (decodeQueryPart (part.takeWhile (· != 0x3D)),
    decodeQueryPart ((part.dropWhile (· != 0x3D)).drop 1))

/-- The names and values of a query. Empty parts count for nothing. -/
def queryPairs (query : String) : List (String × String) :=
  (splitBytes 0x26 (Text.Utf8.encode query)).map queryPair

def upperDigit (value : Nat) : Char :=
  (Nat.digitChar value).toUpper

def percentByte (byte : UInt8) : List Char :=
  ['%', upperDigit (byte.toNat / 16), upperDigit (byte.toNat % 16)]

/-- Writes the characters that `special` holds of, and all that are not ASCII or are controls, by their
bytes. -/
def percentEncode (special : Char → Bool) (chars : List Char) : List Char :=
  chars.flatMap fun c =>
    if c.toNat < 0x20 || 0x7F ≤ c.toNat || special c then
      (Text.Utf8.encode c.toString).flatMap percentByte
    else [c]

end Larder.Url
