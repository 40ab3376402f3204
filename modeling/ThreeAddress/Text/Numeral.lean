set_option autoImplicit false

namespace ThreeAddress.Numeral

/-- The value of an ASCII digit in a base up to sixteen. -/
def digit? (base : Nat) (c : Char) : Option Nat :=
  let value :=
    if '0' ≤ c ∧ c ≤ '9' then some (c.toNat - '0'.toNat)
    else if 'a' ≤ c ∧ c ≤ 'f' then some (c.toNat - 'a'.toNat + 10)
    else if 'A' ≤ c ∧ c ≤ 'F' then some (c.toNat - 'A'.toNat + 10)
    else none
  value.filter (· < base)

/-- The largest number that fits 128 bits with a sign. -/
def widest : Nat := 170141183460469231731687303715884105727

/-- Goes on reading digits behind a number, which is kept in 128 bits with a sign. -/
def digitsFrom? (base : Nat) : Nat → List Char → Option Nat
  | value, [] => some value
  | value, c :: rest =>
    match digit? base c with
    | some d =>
      if value * base + d ≤ widest then digitsFrom? base (value * base + d) rest else none
    | none => none

def digits? (base : Nat) : List Char → Option Nat
  | [] => none
  | cs => digitsFrom? base 0 cs

/-- Decimal digits, or `0x` and hexadecimal digits, or `0o` and octal digits. -/
def magnitude? : List Char → Option Nat
  | '0' :: 'x' :: cs | '0' :: 'X' :: cs => digits? 16 cs
  | '0' :: 'o' :: cs | '0' :: 'O' :: cs => digits? 8 cs
  | cs => digits? 10 cs

def integer? : List Char → Option Int
  | '-' :: cs => (magnitude? cs).map fun n => -(n : Int)
  | '+' :: cs => (magnitude? cs).map Int.ofNat
  | cs => (magnitude? cs).map Int.ofNat

def fits (n : Int) : Bool :=
  Int64.minValue.toInt ≤ n && n ≤ Int64.maxValue.toInt

/-- The value of an integer literal that fits 64 bits with a sign. -/
def parse? (text : String) : Option Int64 :=
  ((integer? text.toList).filter fits).map Int64.ofInt

def decimal (n : Int64) : String :=
  n.toInt.repr

end ThreeAddress.Numeral
