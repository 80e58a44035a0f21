/-!
Blank characters and trimming.

A character is blank when Unicode gives it the property `White_Space`. Trimming drops the blanks at
both ends of a text and nothing else; a trimmed text is left unchanged by trimming again.
-/

namespace Larder.Text

/-- The characters with Unicode's property `White_Space`. -/
def isBlank (c : Char) : Bool :=
  let code := c.toNat
  (0x09 ≤ code && code ≤ 0x0D) || code == 0x20 || code == 0x85 || code == 0xA0 ||
    code == 0x1680 || (0x2000 ≤ code && code ≤ 0x200A) || code == 0x2028 || code == 0x2029 ||
    code == 0x202F || code == 0x205F || code == 0x3000

def trimChars (chars : List Char) : List Char :=
  ((chars.dropWhile isBlank).reverse.dropWhile isBlank).reverse

def trim (text : String) : String :=
  String.ofList (trimChars text.toList)

def isBlankText (text : String) : Bool :=
  trim text == ""

def dropTrailing (c : Char) (text : String) : String :=
  String.ofList (text.toList.reverse.dropWhile (· == c)).reverse

@[simp] theorem trim_toList (text : String) : (trim text).toList = trimChars text.toList := by
  simp [trim]

end Larder.Text
