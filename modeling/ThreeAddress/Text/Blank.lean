set_option autoImplicit false

namespace ThreeAddress.Text

/-- Whether a character has the Unicode property White_Space. -/
def isBlank (c : Char) : Bool :=
  let n := c.toNat
  (0x09 ≤ n && n ≤ 0x0D) || n == 0x20 || n == 0x85 || n == 0xA0 || n == 0x1680
    || (0x2000 ≤ n && n ≤ 0x200A) || n == 0x2028 || n == 0x2029 || n == 0x202F
    || n == 0x205F || n == 0x3000

def trimBlank (cs : List Char) : List Char :=
  ((cs.dropWhile isBlank).reverse.dropWhile isBlank).reverse

def trim (text : String) : String :=
  String.ofList (trimBlank text.toList)

def asciiLower (text : String) : String :=
  String.ofList (text.toList.map Char.toLower)

/-- A text with its ASCII small letters in upper case. -/
def asciiUpper (text : String) : String :=
  String.ofList (text.toList.map Char.toUpper)

end ThreeAddress.Text
