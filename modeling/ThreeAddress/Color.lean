set_option autoImplicit false

namespace ThreeAddress.Color

/-- A text between the code of a style and the code that ends it. -/
def styled (code : String) (text : String) : String :=
  "\x1b[" ++ code ++ "m" ++ text ++ "\x1b[0m"

def red (text : String) : String :=
  styled "31" text

def green (text : String) : String :=
  styled "32" text

def bold (text : String) : String :=
  styled "1" text

def gray (text : String) : String :=
  styled "90" text

end ThreeAddress.Color
