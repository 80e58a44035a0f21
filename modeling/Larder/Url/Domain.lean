import Larder.Text.Parts
import Larder.Url.Folding
import Larder.Url.Punycode

namespace Larder.Url

def isForbidden (c : Char) : Bool :=
  c.toNat == 0 || " #/:<>?@[\\]^|\t\n\r".toList.contains c

def isForbiddenInDomain (c : Char) : Bool :=
  isForbidden c || c.toNat < 0x20 || c == '%' || c.toNat == 0x7F

def beginsAttached (label : List Char) : Bool :=
  label.head?.any fun (c : Char) => Text.inRanges Text.extendingRanges c.toNat

def isAscii (label : List Char) : Bool :=
  label.all fun (c : Char) => decide (c.toNat < 0x80)

def isLabel : List Char → Bool
  | 'x' :: 'n' :: '-' :: '-' :: written =>
      isAscii written &&
        match Punycode.decode? written with
        | some label => !isAscii label && label.all isKept && !beginsAttached label
        | none => false
  | label => !beginsAttached label

def readDomain? (chars : List Char) : Option (List Char) := do
  let domain := (← chars.mapM fold?).flatten
  if domain.any isForbiddenInDomain || !(Text.parts '.' domain).all isLabel then none else domain

end Larder.Url
