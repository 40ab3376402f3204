set_option autoImplicit false

/- A text of the machine is a byte string. `Utf8.encode` writes characters as bytes, `Utf8.decode?`
reads them back and accepts well-formed UTF-8 only, and `Utf8.lossy` shows any byte string, with one
replacement character for every maximal ill-formed part.

Reading is a machine that takes one byte at a time, so that all three readers recurse on the bytes. -/
namespace ThreeAddress

/-- A byte string: what a string value holds, what is read and what is written. -/
abbrev Bytes := List UInt8

namespace Utf8

def encodeChar (c : Char) : Bytes :=
  String.utf8EncodeChar c

def encode (cs : List Char) : Bytes :=
  cs.flatMap encodeChar

/-- Where a reader stands: between characters, or inside one whose bits so far are `bits`, whose next
byte lies in `low ..= high` and which has `more` bytes after that one. -/
inductive State where
  | start
  | inside (bits : Nat) (low high : UInt8) (more : Nat)
  deriving DecidableEq, Repr

/-- What one byte brings: a whole character, or a new place inside one. -/
inductive Progress where
  | char (c : Char)
  | more (s : State)
  deriving DecidableEq, Repr

/-- The first byte of a character. The ranges for the byte after it leave out overlong forms,
surrogates and everything above U+10FFFF. -/
def first (b : UInt8) : Option Progress :=
  if b ≤ 0x7F then some (.char (Char.ofNat b.toNat))
  else if b < 0xC2 then none
  else if b ≤ 0xDF then some (.more (.inside (b.toNat - 0xC0) 0x80 0xBF 0))
  else if b = 0xE0 then some (.more (.inside 0 0xA0 0xBF 1))
  else if b = 0xED then some (.more (.inside 13 0x80 0x9F 1))
  else if b ≤ 0xEF then some (.more (.inside (b.toNat - 0xE0) 0x80 0xBF 1))
  else if b = 0xF0 then some (.more (.inside 0 0x90 0xBF 2))
  else if b ≤ 0xF3 then some (.more (.inside (b.toNat - 0xF0) 0x80 0xBF 2))
  else if b = 0xF4 then some (.more (.inside 4 0x80 0x8F 2))
  else none

/-- One byte, or `none` where UTF-8 cannot hold it. -/
def step : State → UInt8 → Option Progress
  | .start, b => first b
  | .inside bits low high more, b =>
    if low ≤ b ∧ b ≤ high then
      match more with
      | 0 => some (.char (Char.ofNat (bits * 64 + (b.toNat - 0x80))))
      | rest + 1 => some (.more (.inside (bits * 64 + (b.toNat - 0x80)) 0x80 0xBF rest))
    else none

/-- The characters of the bytes read from a state on, `none` unless they are well-formed. -/
def decodeFrom : State → Bytes → Option (List Char)
  | .start, [] => some []
  | .inside _ _ _ _, [] => none
  | s, b :: rest =>
    match step s b with
    | none => none
    | some (.char c) => (decodeFrom .start rest).map (c :: ·)
    | some (.more s) => decodeFrom s rest

/-- The characters of a byte string that is well-formed UTF-8. -/
def decode? (bytes : Bytes) : Option (List Char) :=
  decodeFrom .start bytes

def valid (bytes : Bytes) : Bool :=
  (decode? bytes).isSome

/-- Stands for every maximal ill-formed part. -/
def replacement : Char := '�'

/-- The characters of the bytes read from a state on, with ill-formed parts replaced. A byte that
breaks a character off is read again as a first byte. -/
def lossyFrom : State → Bytes → List Char
  | .start, [] => []
  | .inside _ _ _ _, [] => [replacement]
  | s, b :: rest =>
    match step s b with
    | some (.char c) => c :: lossyFrom .start rest
    | some (.more s) => lossyFrom s rest
    | none =>
      match s with
      | .start => replacement :: lossyFrom .start rest
      | .inside _ _ _ _ =>
        match first b with
        | some (.char c) => replacement :: c :: lossyFrom .start rest
        | some (.more s) => replacement :: lossyFrom s rest
        | none => replacement :: replacement :: lossyFrom .start rest

def lossy (bytes : Bytes) : String :=
  String.ofList (lossyFrom .start bytes)

def ofString (text : String) : Bytes :=
  encode text.toList

/-- The text of a byte string that is well-formed UTF-8. -/
def toString? (bytes : Bytes) : Option String :=
  (decode? bytes).map String.ofList

end Utf8

end ThreeAddress
