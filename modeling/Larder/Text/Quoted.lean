import Larder.Text.Unprintable

/-!
Quoted texts, as messages show a value they complain about.

A text stands between double quotes. The quote, the backslash and the usual controls have a short
escape; every other character that would not show is written by its code in hexadecimal.
-/

namespace Larder.Text

def hexadecimal (value : Nat) : String :=
  String.ofList (Nat.toDigits 16 value)

def quotedChar (c : Char) : String :=
  if c == '\u0000' then "\\0"
  else if c == '\t' then "\\t"
  else if c == '\r' then "\\r"
  else if c == '\n' then "\\n"
  else if c == '"' then "\\\""
  else if c == '\\' then "\\\\"
  else if isUnprintable c then "\\u\x7b" ++ hexadecimal c.toNat ++ "\x7d"
  else c.toString

def quoted (text : String) : String :=
  text.foldl (fun written c => written ++ quotedChar c) "\"" ++ "\""

end Larder.Text
