/-!
Texts without the control sequences that terminals take for styles and commands.

Where no terminal reads along, complaints are written without them: a sequence runs from its escape
character to its final character, and of the other control characters only blanks are kept. A blank
control inside a sequence ends it and is kept too.
-/

namespace Larder.Text

/-- Where a text stands: outside of sequences, behind an escape character, in a short sequence, in one
with parameters, or in a string for the terminal, which a bell ends if it is a command. -/
inductive Sequencing
  | outside
  | escaped
  | short
  | parameters
  | command
  | string
deriving DecidableEq, Repr

def isBlankControl (c : Char) : Bool :=
  c == '\t' || c == '\n' || c == '\x0c' || c == '\r'

def Sequencing.next (state : Sequencing) (c : Char) : Sequencing :=
  let code := c.toNat
  let isFinal := 0x30 ≤ code && code ≤ 0x7E
  match state with
  | .outside => .outside
  | .escaped =>
      if c == '[' then .parameters
      else if c == ']' then .command
      else if "PX^_".toList.contains c then .string
      else if isFinal then .outside
      else if 0x20 ≤ code && code < 0x30 then .short
      else .escaped
  | .short => if isFinal then .outside else .short
  | .parameters => if 0x40 ≤ code && code ≤ 0x7E then .outside else .parameters
  | .command => if code = 7 then .outside else .command
  | .string => .string

def shownChars (state : Sequencing) : List Char → List Char
  | [] => []
  | c :: rest =>
      if c == '\x1b' then shownChars .escaped rest
      else if c == '\x18' || c == '\x1a' then shownChars .outside rest
      else
        match state with
        | .outside =>
            if (0x20 ≤ c.toNat && c.toNat != 0x7F) || isBlankControl c then
              c :: shownChars .outside rest
            else shownChars .outside rest
        | .command | .string => shownChars (state.next c) rest
        | _ =>
            if isBlankControl c then c :: shownChars .outside rest
            else shownChars (state.next c) rest

def unstyled (text : String) : String :=
  String.ofList (shownChars .outside text.toList)

def firstLine (text : String) : String :=
  let line := text.toList.takeWhile (· != '\n')
  String.ofList (if line.length < text.length && line.getLast? == some '\r' then line.dropLast
    else line)

end Larder.Text
