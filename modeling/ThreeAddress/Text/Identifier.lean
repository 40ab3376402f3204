set_option autoImplicit false

namespace ThreeAddress.Text

def isNameStart (c : Char) : Bool :=
  c.isAlpha || c ∈ ['_', '-', '$', '&', '%', '*', '!', '?']

def isNameRest (c : Char) : Bool :=
  isNameStart c || c.isDigit

def isName : List Char → Bool
  | [] => false
  | c :: rest => isNameStart c && rest.all isNameRest

def isIdentifier (text : String) : Bool :=
  isName text.toList

end ThreeAddress.Text
