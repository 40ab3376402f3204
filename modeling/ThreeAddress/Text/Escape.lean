import ThreeAddress.Text.Numeral
import ThreeAddress.Text.Utf8

set_option autoImplicit false

/- In a string literal a backslash and three decimal digits stand for the byte with that value. -/
namespace ThreeAddress.Escape

inductive Fault where
  /-- Three digits behind a backslash, with a value above that of a byte. -/
  | outOfRange (digits : String)
  /-- A backslash that three digits do not follow, at this offset in bytes. -/
  | strayBackslash (offset : Nat)
  deriving DecidableEq, Repr

def Fault.message : Fault → String
  | .outOfRange digits => "escape sequence '\\" ++ digits ++ "' is out of byte range"
  | .strayBackslash offset => "stray backslash at byte " ++ offset.repr

def backslash : UInt8 := 92

def IsDigit (b : UInt8) : Prop :=
  48 ≤ b.toNat ∧ b.toNat ≤ 57

instance decidableIsDigit (b : UInt8) : Decidable (IsDigit b) :=
  inferInstanceAs (Decidable (_ ∧ _))

/-- A backslash with three digits behind it, and the offset at which it stands. -/
structure Match where
  start : Nat
  hundreds : UInt8
  tens : UInt8
  ones : UInt8
  deriving DecidableEq, Repr

namespace Match

def stop (found : Match) : Nat :=
  found.start + 4

def digits (found : Match) : List Char :=
  [found.hundreds, found.tens, found.ones].map fun b => Char.ofNat b.toNat

def byte? (found : Match) : Option UInt8 :=
  ((Numeral.digits? 10 found.digits).filter (· < UInt8.size)).map UInt8.ofNat

end Match

/-- The matches in bytes of which the first stands at `offset`, from the left, none inside another. -/
def matchesFrom (offset : Nat) : Bytes → List Match
  | b :: x :: y :: z :: rest =>
    if b = backslash ∧ IsDigit x ∧ IsDigit y ∧ IsDigit z then
      ⟨offset, x, y, z⟩ :: matchesFrom (offset + 4) rest
    else matchesFrom (offset + 1) (x :: y :: z :: rest)
  | _ => []

/-- The bytes from one offset up to another. -/
def slice (raw : Bytes) (start stop : Nat) : Bytes :=
  (raw.drop start).take (stop - start)

/-- Between two matches every backslash is stray. -/
def checkPlain (raw : Bytes) (start stop : Nat) : Except Fault Unit :=
  match (slice raw start stop).findIdx? (· == backslash) with
  | some offset => .error (.strayBackslash (start + offset))
  | none => .ok ()

/-- Goes over the matches behind the offset `last`, up to which `raw` was read. -/
def walk (raw : Bytes) (last : Nat) : List Match → Except Fault Bytes
  | [] =>
    match checkPlain raw last raw.length with
    | .error fault => .error fault
    | .ok () => .ok (slice raw last raw.length)
  | found :: rest =>
    match checkPlain raw last found.start with
    | .error fault => .error fault
    | .ok () =>
      match found.byte? with
      | none => .error (.outOfRange (String.ofList found.digits))
      | some byte =>
        (walk raw found.stop rest).map fun bytes => slice raw last found.start ++ byte :: bytes

/-- The bytes of a literal, or its leftmost fault. -/
def decode (text : String) : Except Fault Bytes :=
  let raw := Utf8.ofString text
  walk raw 0 (matchesFrom 0 raw)

def isPlain (b : UInt8) : Bool :=
  32 < b && b < 127 && b != 35 && b != backslash

def encodeByte (b : UInt8) : List Char :=
  if isPlain b then [Char.ofNat b.toNat]
  else
    let n := b.toNat
    ['\\', (n / 100).digitChar, (n / 10 % 10).digitChar, (n % 10).digitChar]

def encode (bytes : Bytes) : String :=
  String.ofList (bytes.flatMap encodeByte)

end ThreeAddress.Escape
