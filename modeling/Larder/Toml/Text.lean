import Larder.Uuid

/-!
The lexical parts of a TOML document: blanks, comments, quoted texts and keys.

Every reader takes the characters from where it stands and answers what it read with the characters
left over, or nothing if there is a fault. The readers of quoted texts are called behind the opening
quotes. Their `fuel` is the number of characters at hand, and each step takes at least one.
-/

namespace Larder.Toml

def isBlank (c : Char) : Bool :=
  c == ' ' || c == '\t'

def skipBlanks (chars : List Char) : List Char :=
  chars.dropWhile isBlank

/-- Whether a character may stand for itself in comments and quoted texts: no control character but
the tabulator. -/
def isPlain (c : Char) : Bool :=
  c == '\t' || (0x20 ≤ c.toNat && c.toNat != 0x7F)

def newline? : List Char → Option (List Char)
  | '\n' :: rest => some rest
  | '\r' :: '\n' :: rest => some rest
  | _ => none

def lineEnd? (chars : List Char) : Option (List Char) :=
  let chars := skipBlanks chars
  let chars := if chars.head? == some '#' then chars.dropWhile isPlain else chars
  if chars.isEmpty then some [] else newline? chars

def skipLines (inComment : Bool) : List Char → Option (List Char)
  | [] => some []
  | '\n' :: rest => skipLines false rest
  | '\r' :: '\n' :: rest => skipLines false rest
  | c :: rest =>
      if inComment then if isPlain c then skipLines true rest else none
      else if isBlank c then skipLines false rest
      else if c == '#' then skipLines true rest
      else some (c :: rest)

def scalarOf? (digits : List Char) : Option Char := do
  let values ← digits.mapM Uuid.hexDigit?
  let code := values.foldl (fun value digit => value * 16 + digit) 0
  if 0x10FFFF < code ∨ (0xD800 ≤ code ∧ code ≤ 0xDFFF) then none else some (Char.ofNat code)

def escape? : List Char → Option (Char × List Char)
  | 'b' :: rest => some ('\x08', rest)
  | 't' :: rest => some ('\t', rest)
  | 'n' :: rest => some ('\n', rest)
  | 'f' :: rest => some ('\x0c', rest)
  | 'r' :: rest => some ('\r', rest)
  | 'e' :: rest => some ('\x1b', rest)
  | '"' :: rest => some ('"', rest)
  | '\\' :: rest => some ('\\', rest)
  | 'x' :: rest => digits 2 rest
  | 'u' :: rest => digits 4 rest
  | 'U' :: rest => digits 8 rest
  | _ => none
where
  digits (count : Nat) (rest : List Char) : Option (Char × List Char) :=
    if rest.length < count then none
    else (scalarOf? (rest.take count)).map fun c => (c, rest.drop count)

def readQuoted : Nat → List Char → List Char → Option (String × List Char)
  | 0, _, _ | _, _, [] => none
  | _, done, '"' :: rest => some (String.ofList done.reverse, rest)
  | fuel + 1, done, '\\' :: rest => do
      let (c, rest) ← escape? rest
      readQuoted fuel (c :: done) rest
  | fuel + 1, done, c :: rest => if isPlain c then readQuoted fuel (c :: done) rest else none

def readVerbatim (chars : List Char) : Option (String × List Char) :=
  let content := chars.takeWhile fun c => c != '\'' && isPlain c
  match chars.drop content.length with
  | '\'' :: rest => some (String.ofList content, rest)
  | _ => none

/-- Ends a text over several lines behind three closing quotes; up to two more quotes before them
belong to the text. -/
def endLines (quote : Char) (done rest : List Char) : String × List Char :=
  let extra := (rest.take 2).takeWhile (· == quote)
  (String.ofList (done.reverse ++ extra), rest.drop extra.length)

def skipSpace : List Char → List Char
  | '\n' :: rest => skipSpace rest
  | '\r' :: '\n' :: rest => skipSpace rest
  | c :: rest => if isBlank c then skipSpace rest else c :: rest
  | [] => []

/-- The characters behind an escaped line break, which swallows all blanks and line breaks after it. -/
def joinLines? (chars : List Char) : Option (List Char) :=
  (newline? (skipBlanks chars)).map skipSpace

def readQuotedLines : Nat → List Char → List Char → Option (String × List Char)
  | 0, _, _ | _, _, [] => none
  | _, done, '"' :: '"' :: '"' :: rest => some (endLines '"' done rest)
  | fuel + 1, done, '\\' :: rest =>
      match joinLines? rest with
      | some rest => readQuotedLines fuel done rest
      | none => do
          let (c, rest) ← escape? rest
          readQuotedLines fuel (c :: done) rest
  | fuel + 1, done, '\r' :: '\n' :: rest => readQuotedLines fuel ('\n' :: '\r' :: done) rest
  | fuel + 1, done, c :: rest =>
      if isPlain c || c == '\n' then readQuotedLines fuel (c :: done) rest else none

def readVerbatimLines : Nat → List Char → List Char → Option (String × List Char)
  | 0, _, _ | _, _, [] => none
  | _, done, '\'' :: '\'' :: '\'' :: rest => some (endLines '\'' done rest)
  | fuel + 1, done, '\r' :: '\n' :: rest => readVerbatimLines fuel ('\n' :: '\r' :: done) rest
  | fuel + 1, done, c :: rest =>
      if isPlain c || c == '\n' then readVerbatimLines fuel (c :: done) rest else none

/-- Reads a text in any of the four kinds of quotes; a line break right behind triple quotes is
dropped. -/
def readText (chars : List Char) : Option (String × List Char) :=
  match chars with
  | '"' :: '"' :: '"' :: rest =>
      let rest := (newline? rest).getD rest
      readQuotedLines (rest.length + 1) [] rest
  | '\'' :: '\'' :: '\'' :: rest =>
      let rest := (newline? rest).getD rest
      readVerbatimLines (rest.length + 1) [] rest
  | '"' :: rest => readQuoted (rest.length + 1) [] rest
  | '\'' :: rest => readVerbatim rest
  | _ => none

def isNameChar (c : Char) : Bool :=
  c.isAlphanum || c == '_' || c == '-'

def readName (chars : List Char) : Option (String × List Char) :=
  match chars with
  | '"' :: rest => readQuoted (rest.length + 1) [] rest
  | '\'' :: rest => readVerbatim rest
  | _ =>
      let name := chars.takeWhile isNameChar
      if name.isEmpty then none else some (String.ofList name, chars.drop name.length)

def readNames : Nat → List Char → Option (List String × List Char)
  | 0, _ => none
  | fuel + 1, chars => do
      let (name, rest) ← readName (skipBlanks chars)
      match skipBlanks rest with
      | '.' :: rest => do
          let (names, rest) ← readNames fuel rest
          return (name :: names, rest)
      | rest => return ([name], rest)

/-- How many names a key may have, and how deep lists and inline tables may lie in each other. -/
def levelLimit : Nat := 80

def readKey (fuel : Nat) (chars : List Char) : Option (List String × List Char) :=
  (readNames fuel chars).filter fun (key, _) => key.length ≤ levelLimit

end Larder.Toml
