import Larder.Config.Decoder
import Larder.Config.Validity
import Larder.Text.Quoted
import Larder.Text.Utf8
import Larder.Toml.Tree

/-!
Configuration files.

A file is read as UTF-8 text, as a TOML document, as a configuration; it is then normalized, once, and
checked. A configuration that `ofText` answers is valid.
-/

namespace Larder

inductive ConfigError
  | unreadable
  | undecodable (fault : DecodeError)
  | invalid (violation : Violation)
deriving DecidableEq, Repr

def ConfigError.message (path : String) : ConfigError → String
  | .unreadable => "Failed to read config file at " ++ Text.quoted path ++ "."
  | .undecodable _ => "Failed to parse config file at " ++ Text.quoted path ++ "."
  | .invalid violation => violation.message

namespace Config

/-- Reads a text. Nothing in a document lies deeper than it is long, so depth is no fault here; a list
in place of a record may be too long. -/
def parse (text : String) : Except DecodeError Config :=
  match Toml.parse? text with
  | none => .error .malformed
  | some members => decode ⟨text.length + 1, none⟩ (Toml.Value.table .header members).toTree

def ofText (text : String) : Except ConfigError Config :=
  match parse text with
  | .error fault => .error (.undecodable fault)
  | .ok given =>
      let config := given.normalize
      match config.validate with
      | .error violation => .error (.invalid violation)
      | .ok () => .ok config

def ofBytes (bytes : List UInt8) : Except ConfigError Config :=
  match Text.Utf8.decode? bytes with
  | none => .error .unreadable
  | some text => ofText text

end Config

end Larder
