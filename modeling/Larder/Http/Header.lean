import Larder.Named

/-!
Header fields.

Names do not depend on case and are kept in lower case; of two values for one name the later counts.
A name is a token of at most 65535 characters. A value has no control characters but the tabulator.
-/

namespace Larder.Http

abbrev Headers := Named String

def isTokenChar (c : Char) : Bool :=
  c.isAlphanum || "!#$%&'*+-.^_\x60|~".toList.contains c

def headerName? (text : String) : Option String :=
  let chars := text.toList
  if chars.isEmpty || 65535 < chars.length || !chars.all isTokenChar then none
  else some (String.ofList (chars.map Char.toLower))

def isHeaderValue (text : String) : Bool :=
  text.toList.all fun c => c == '\t' || (0x20 ≤ c.toNat && c.toNat != 0x7F)

def Headers.putDefault (name value : String) (headers : Headers) : Headers :=
  match headers.get? name with
  | some _ => headers
  | none => headers.put name value

end Larder.Http
