import ThreeAddress.Text.Utf8

set_option autoImplicit false

namespace ThreeAddress.Text

/-- The characters of a byte string, each as its own bytes: those that well-formed UTF-8 encodes, and
else one for each byte. -/
def characters (bytes : Bytes) : List Bytes :=
  match Utf8.decode? bytes with
  | some cs => cs.map Utf8.encodeChar
  | none => bytes.map ([·])

/-- The code point of a character: that of the first character of well-formed bytes, else the value
of the first byte, and 0 for no bytes. -/
def codePoint (bytes : Bytes) : Nat :=
  match Utf8.decode? bytes, bytes with
  | some (c :: _), _ => c.toNat
  | _, b :: _ => b.toNat
  | _, [] => 0

end ThreeAddress.Text
