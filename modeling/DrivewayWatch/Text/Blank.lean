/-!
# Blank space

The characters that count as blank when text is trimmed, and trimming itself.  Texts are handled as
lists of characters; the functions on `String` only unpack and pack them.
-/

namespace DrivewayWatch.Text

/-- Whether a character is white space in the sense of Unicode. -/
def isBlank (c : Char) : Bool :=
  let code := c.toNat
  (0x09 ≤ code && code ≤ 0x0D) || code == 0x20 || code == 0x85 || code == 0xA0 ||
    code == 0x1680 || (0x2000 ≤ code && code ≤ 0x200A) || code == 0x2028 || code == 0x2029 ||
    code == 0x202F || code == 0x205F || code == 0x3000

/-- What is left after the blank characters in front. -/
def trimFront (text : List Char) : List Char :=
  text.dropWhile isBlank

/-- What is left before the blank characters at the end. -/
def trimBack (text : List Char) : List Char :=
  (trimFront text.reverse).reverse

/-- What is left between the blank characters at both ends. -/
def trim (text : List Char) : List Char :=
  trimBack (trimFront text)

/-- A string without the blank characters at both ends. -/
def trimmed (text : String) : String :=
  String.ofList (trim text.toList)

/-- Whether a string holds blank characters only. -/
def isBlankText (text : String) : Bool :=
  text.toList.all isBlank

end DrivewayWatch.Text
