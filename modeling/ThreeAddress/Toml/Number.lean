import ThreeAddress.Toml.Text

set_option autoImplicit false

namespace ThreeAddress.Toml

/-- A value that starts with a digit or a sign. -/
inductive Quantity where
  | integer (n : Int)
  | float
  | dateTime
  deriving DecidableEq, Repr

/-- Digits, with single underscores between them. -/
def digitRun (isDigit : Char → Bool) : List Char → List Char × List Char
  | [] => ([], [])
  | c :: rest =>
    if isDigit c then
      let (digits, rest) := digitRun isDigit rest
      (c :: digits, rest)
    else if c == '_' && (rest.head?.map isDigit).getD false then digitRun isDigit rest
    else ([], c :: rest)

/-- One or more digits, with single underscores between them. -/
def digits? (isDigit : Char → Bool) (cs : List Char) : Option (List Char × List Char) :=
  if (cs.head?.map isDigit).getD false then some (digitRun isDigit cs) else none

def ofDigits (base : Nat) (digits : List Char) : Nat :=
  digits.foldl (fun value c => value * base + (hexValue? c).getD 0) 0

def isDigitOf (base : Nat) (c : Char) : Bool :=
  ((hexValue? c).map (decide <| · < base)).getD false

/-- An integer, if it fits 64 bits with a sign. -/
def integer? (n : Int) : Option Quantity :=
  if Int64.minValue.toInt ≤ n ∧ n ≤ Int64.maxValue.toInt then some (.integer n) else none

/-- An integer in another base, behind the mark of the base. -/
def based? (base : Nat) (cs : List Char) : Option (Quantity × List Char) := do
  let (digits, rest) ← digits? (isDigitOf base) cs
  return (← integer? (ofDigits base digits), rest)

/-- The digits before a point: a zero alone, or digits that start with another one. -/
def whole? : Reader (List Char)
  | '0' :: rest => some (['0'], rest)
  | cs => digits? Char.isDigit cs

def exponent? : Reader Int
  | e :: rest =>
    if e == 'e' || e == 'E' then
      match rest with
      | '-' :: rest => (digits? Char.isDigit rest).map fun (ds, rest) => (-(ofDigits 10 ds : Int), rest)
      | '+' :: rest => (digits? Char.isDigit rest).map fun (ds, rest) => ((ofDigits 10 ds : Int), rest)
      | _ => (digits? Char.isDigit rest).map fun (ds, rest) => ((ofDigits 10 ds : Int), rest)
    else none
  | [] => none

/-- The least number that is too large for a double: half a unit above the largest double. -/
def tooLarge : Nat :=
  Nat.pow 2 1024 - Nat.pow 2 970

/-- Whether `significand * 10 ^ exponent` is too large for a double. -/
def overflows (significand : Nat) (exponent : Int) : Bool :=
  if significand = 0 then false
  else
    let digits : Int := (Nat.toDigits 10 significand).length
    if 400 < digits + exponent then true
    else if digits + exponent < 300 then false
    else if 0 ≤ exponent then tooLarge ≤ significand * Nat.pow 10 exponent.toNat
    else tooLarge * Nat.pow 10 (-exponent).toNat ≤ significand

/-- A float that was read; a positive one must not be too large. -/
def float? (negative : Bool) (significand : Nat) (exponent : Int) : Option Quantity :=
  if !negative && overflows significand exponent then none else some .float

def decimal? (negative : Bool) (cs : List Char) : Option (Quantity × List Char) := do
  let (whole, rest) ← whole? cs
  match rest with
  | '.' :: rest =>
    let (fraction, rest) ← digits? Char.isDigit rest
    let (exponent, rest) := (exponent? rest).getD (0, rest)
    return (← float? negative (ofDigits 10 (whole ++ fraction)) (exponent - fraction.length), rest)
  | _ =>
    match exponent? rest with
    | some (exponent, rest) => return (← float? negative (ofDigits 10 whole) exponent, rest)
    | none =>
      let magnitude : Int := ofDigits 10 whole
      return (← integer? (if negative then -magnitude else magnitude), rest)

/-- A number without its sign; `signed` says whether there was one. -/
def unsigned? (signed negative : Bool) (cs : List Char) : Option (Quantity × List Char) :=
  match cs with
  | 'i' :: 'n' :: 'f' :: rest => some (.float, rest)
  | 'n' :: 'a' :: 'n' :: rest => some (.float, rest)
  | '0' :: 'x' :: rest => if signed then decimal? negative cs else based? 16 rest
  | '0' :: 'o' :: rest => if signed then decimal? negative cs else based? 8 rest
  | '0' :: 'b' :: rest => if signed then decimal? negative cs else based? 2 rest
  | _ => decimal? negative cs

def number? : Reader Quantity
  | '-' :: rest => unsigned? true true rest
  | '+' :: rest => unsigned? true false rest
  | cs => unsigned? false false cs

/-- A number in so many digits, between two bounds. -/
def fixed? (count low high : Nat) (cs : List Char) : Option (Nat × List Char) :=
  let digits := cs.take count
  let value := ofDigits 10 digits
  if digits.length = count ∧ digits.all Char.isDigit ∧ low ≤ value ∧ value ≤ high then
    some (value, cs.drop count)
  else none

/-- The text behind a character that must stand at the front. -/
def expect? (c : Char) : List Char → Option (List Char)
  | d :: rest => if c = d then some rest else none
  | [] => none

def daysIn (year month : Nat) : Nat :=
  let leap := year % 4 == 0 && (year % 100 != 0 || year % 400 == 0)
  if month = 2 then if leap then 29 else 28
  else if month ∈ [4, 6, 9, 11] then 30
  else 31

def time? (cs : List Char) : Option (List Char) := do
  let (_, cs) ← fixed? 2 0 23 cs
  let (_, cs) ← fixed? 2 0 59 (← expect? ':' cs)
  let (_, cs) ← fixed? 2 0 60 (← expect? ':' cs)
  match cs with
  | '.' :: rest =>
    if (rest.head?.map Char.isDigit).getD false then some (rest.dropWhile Char.isDigit) else none
  | _ => some cs

/-- The offset behind a time, if there is one. -/
def offset? : List Char → Option (List Char)
  | c :: rest =>
    if c == 'Z' || c == 'z' then some rest
    else if c == '+' || c == '-' then do
      let (_, rest) ← fixed? 2 0 23 rest
      let (_, rest) ← fixed? 2 0 59 (← expect? ':' rest)
      some rest
    else some (c :: rest)
  | [] => some []

def date? (cs : List Char) : Option (List Char) := do
  let (year, cs) ← fixed? 4 0 9999 cs
  let (month, cs) ← fixed? 2 1 12 (← expect? '-' cs)
  let (_, cs) ← fixed? 2 1 (daysIn year month) (← expect? '-' cs)
  some cs

/-- A date with or without a time, or a time alone. -/
def dateTime? (cs : List Char) : Option (List Char) :=
  match date? cs with
  | some rest =>
    match rest with
    | c :: behind =>
      if c == 'T' || c == 't' || c == ' ' then
        match time? behind with
        | some behind => offset? behind
        | none => some rest
      else some rest
    | [] => some []
  | none => time? cs

def quantity? (cs : List Char) : Option (Quantity × List Char) :=
  match dateTime? cs with
  | some rest => some (.dateTime, rest)
  | none => number? cs

end ThreeAddress.Toml
