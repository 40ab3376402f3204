import ThreeAddress.Text.Blank
import ThreeAddress.Text.Letter
import ThreeAddress.Text.Numeral

set_option autoImplicit false

namespace ThreeAddress.Log.Pattern

structure Modes where
  verbose : Bool := false
  unicode : Bool := true
  deriving DecidableEq, Repr

/-- A text without the blanks and comments at its front. -/
def dropLayout (inComment : Bool) : List Char → List Char
  | [] => []
  | c :: rest =>
    if inComment then dropLayout (c != '\n') rest
    else if Text.isBlank c then dropLayout false rest
    else if c == '#' then dropLayout true rest
    else c :: rest

def skip (modes : Modes) (cs : List Char) : List Char :=
  if modes.verbose then dropLayout false cs else cs

/-- What a backslash and the characters behind it stand for. -/
inductive Escaped where
  | char (c : Char)
  | charClass
  | anchor
  | wordBoundary
  deriving DecidableEq, Repr

/-- Reads so many hexadecimal digits behind those that make up a value. -/
def hexDigits? (modes : Modes) : Nat → Nat → List Char → Option (Nat × List Char)
  | 0, value, cs => some (value, cs)
  | count + 1, value, cs =>
    match skip modes cs with
    | [] => none
    | c :: rest =>
      match Numeral.digit? 16 c with
      | some digit => hexDigits? modes count (value * 16 + digit) rest
      | none => none

/-- Reads a character that is given by so many hexadecimal digits. -/
def hexChar? (modes : Modes) (count : Nat) (cs : List Char) : Option (Escaped × List Char) :=
  match hexDigits? modes count 0 cs with
  | some (code, rest) => if code.isValidChar then some (.char (Char.ofNat code), rest) else none
  | none => none

/-- Reads a byte that is given by two hexadecimal digits; outside of the Unicode mode it is ASCII. -/
def hexByte? (modes : Modes) (cs : List Char) : Option (Escaped × List Char) :=
  match hexChar? modes 2 cs with
  | some (.char c, rest) =>
    if modes.unicode ∨ c.toNat < 0x80 then some (.char c, rest) else none
  | _ => none

/-- Reads the category of which a class is made; the groups of general categories have one letter. -/
def category? (modes : Modes) (cs : List Char) : Option (Escaped × List Char) :=
  match skip modes cs with
  | c :: rest =>
    if modes.unicode ∧ c.toLower ∈ "clmnpsz".toList then some (.charClass, rest) else none
  | [] => none

def controls : List (Char × Char) :=
  [('a', '\x07'), ('f', '\x0c'), ('t', '\t'), ('n', '\n'), ('r', '\r'), ('v', '\x0b')]

def escapedChar? (modes : Modes) (c : Char) : Option Escaped :=
  match controls.lookup c with
  | some control => some (.char control)
  | none =>
    if c ∈ "dsw".toList then some .charClass
    else if c ∈ "DSW".toList then if modes.unicode then some .charClass else none
    else if c ∈ "Az".toList then some .anchor
    else if c ∈ "bB<>".toList then some (if modes.unicode then .wordBoundary else .anchor)
    else if c.toNat < 0x80 ∧ ¬ c.isAlphanum then some (.char c)
    else none

def escaped? (modes : Modes) : List Char → Option (Escaped × List Char)
  | [] => none
  | 'x' :: rest => hexByte? modes rest
  | 'u' :: rest => hexChar? modes 4 rest
  | 'U' :: rest => hexChar? modes 8 rest
  | 'p' :: rest | 'P' :: rest => category? modes rest
  | c :: rest => (escapedChar? modes c).map fun escaped => (escaped, rest)

end ThreeAddress.Log.Pattern
