import Larder.Toml.Moment
import Larder.Toml.Number
import Larder.Toml.Table
import Larder.Toml.Text

/-!
TOML documents, version 1.1.

`parse?` reads a document line by line into its table. Inside an inline table lines may break
everywhere but within a key. Lists and inline tables may lie in each other up to 80 levels deep.
-/

namespace Larder.Toml

/-- The value of a number with a sign. A whole number must fit a 128-bit word, signed or not. -/
def Number.Size.toValue (negative : Bool) : Number.Size → Value
  | .whole size =>
      let value : Int := if negative then -size else size
      if -(Nat.pow 2 127 : Int) ≤ value ∧ value < Nat.pow 2 128 then .integer value else .float none
  | .real size => .float (some (if negative then -size else size))
  | .outOfRange => .float none

def basedValue? (base : Nat) (digits : List Char) : Option Value :=
  (Number.based? base digits).map fun size => Number.Size.toValue false (.whole size)

def plainValue? (chars : List Char) : Option Value :=
  match chars with
  | ['t', 'r', 'u', 'e'] => some (.bool true)
  | ['f', 'a', 'l', 's', 'e'] => some (.bool false)
  | '0' :: 'x' :: digits => basedValue? 16 digits
  | '0' :: 'o' :: digits => basedValue? 8 digits
  | '0' :: 'b' :: digits => basedValue? 2 digits
  | '-' :: digits => (Number.size? digits).map (Number.Size.toValue true)
  | '+' :: digits => (Number.size? digits).map (Number.Size.toValue false)
  | _ =>
      match Moment.ofChars? chars with
      | some moment => some (.moment moment)
      | none => (Number.size? chars).map (Number.Size.toValue false)

def isPlainValueChar (c : Char) : Bool :=
  isNameChar c || c == '+' || c == '.' || c == ':'

/-- Reads a value without quotes or brackets. A date may be followed by a blank and a time. -/
def readPlainValue (chars : List Char) : Option (Value × List Char) := do
  let first := chars.takeWhile isPlainValueChar
  let rest := chars.drop first.length
  let more :=
    match rest with
    | ' ' :: d :: _ => d.isDigit && (Moment.date? first).isSome
    | _ => false
  if more then
    let second := (rest.drop 1).takeWhile isPlainValueChar
    let value ← plainValue? (first ++ ' ' :: second)
    return (value, rest.drop (second.length + 1))
  else return (← plainValue? first, rest)

mutual

/-- Reads a value; `levels` lists and inline tables may still be entered. -/
def readValue : Nat → Nat → List Char → Option (Value × List Char)
  | 0, _, _ => none
  | fuel + 1, levels, chars =>
      match chars, levels with
      | '[' :: rest, levels + 1 => readItems fuel levels [] rest
      | '{' :: rest, levels + 1 => readMembers fuel levels [] rest
      | '"' :: _, _ | '\'' :: _, _ => (readText chars).map fun (text, rest) => (.text text, rest)
      | _, _ => readPlainValue chars

def readItems : Nat → Nat → List Value → List Char → Option (Value × List Char)
  | 0, _, _, _ => none
  | fuel + 1, levels, done, chars => do
      match ← skipLines false chars with
      | ']' :: rest => return (.list done.reverse, rest)
      | chars =>
          let (item, rest) ← readValue fuel levels chars
          match ← skipLines false rest with
          | ',' :: rest => readItems fuel levels (item :: done) rest
          | ']' :: rest => return (.list (item :: done).reverse, rest)
          | _ => none

def readMembers : Nat → Nat → Members → List Char → Option (Value × List Char)
  | 0, _, _, _ => none
  | fuel + 1, levels, members, chars => do
      match ← skipLines false chars with
      | '\x7d' :: rest => return (.table .braces members, rest)
      | chars =>
          let (key, rest) ← readKey fuel chars
          match ← skipLines false rest with
          | '=' :: rest =>
              let (value, rest) ← readValue fuel levels (← skipLines false rest)
              let members ← assign key value .braces members
              match ← skipLines false rest with
              | ',' :: rest => readMembers fuel levels members rest
              | '\x7d' :: rest => return (.table .braces members, rest)
              | _ => none
          | _ => none

end

def readHeader (repeated : Bool) (chars : List Char) : Option (List String × List Char) := do
  let (key, rest) ← readKey (chars.length + 1) chars
  match repeated, rest with
  | false, ']' :: rest => return (key, rest)
  | true, ']' :: ']' :: rest => return (key, rest)
  | _, _ => none

def readLines : Nat → List String → Members → List Char → Option Members
  | _, _, members, [] => some members
  | 0, _, _, _ => none
  | fuel + 1, current, members, chars =>
      match lineEnd? chars with
      | some rest => readLines fuel current members rest
      | none =>
          match skipBlanks chars with
          | '[' :: rest => do
              let repeated := rest.head? == some '['
              let (key, rest) ← readHeader repeated (if repeated then rest.drop 1 else rest)
              let members ← openHeader repeated key .header members
              readLines fuel key members (← lineEnd? rest)
          | chars => do
              let (key, rest) ← readKey fuel chars
              match rest with
              | '=' :: rest =>
                  let (value, rest) ← readValue fuel levelLimit (skipBlanks rest)
                  let members ← within .passed (assign key value) current .header members
                  readLines fuel current members (← lineEnd? rest)
              | _ => none

/-- The table that a text is. A byte order mark at the front is skipped. -/
def parse? (text : String) : Option Members :=
  let chars := text.toList
  let chars := if chars.head? == some '\uFEFF' then chars.drop 1 else chars
  readLines (2 * chars.length + 2) [] [] chars

end Larder.Toml
