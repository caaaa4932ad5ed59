/-
# White space

The characters with the property White_Space, and the text that remains when they are cut from
both ends of another. These are more than the ASCII blanks: a no-break space or an ideographic
space is blank too, while a zero-width space is not.
-/

namespace SingleRoot.Text

/-- The characters with the property White_Space. -/
def isBlank (c : Char) : Bool :=
  let point := c.toNat
  (0x09 ≤ point && point ≤ 0x0D) || point == 0x20 || point == 0x85 || point == 0xA0 ||
  point == 0x1680 || (0x2000 ≤ point && point ≤ 0x200A) || point == 0x2028 || point == 0x2029 ||
  point == 0x202F || point == 0x205F || point == 0x3000

/-- Cut the blanks from both ends. -/
def trim (characters : List Char) : List Char :=
  (characters.dropWhile isBlank).reverse.dropWhile isBlank |>.reverse

/-- A text that holds nothing but blanks. -/
def isBlankText (text : String) : Bool :=
  text.toList.all isBlank

end SingleRoot.Text
