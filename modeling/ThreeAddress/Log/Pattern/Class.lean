import ThreeAddress.Log.Pattern.Escape

set_option autoImplicit false

namespace ThreeAddress.Log.Pattern

/-- The members of a class as far as they were read: how many, and how deep they nest. -/
structure Members where
  count : Nat := 0
  deepest : Nat := 0
  deriving DecidableEq, Repr

namespace Members

def add (members : Members) (depth : Nat) : Members :=
  ⟨members.count + 1, max members.deepest depth⟩

/-- How deep members nest; several of them are a level by themselves. -/
def depth (members : Members) : Nat :=
  if members.count ≤ 1 then members.deepest else members.deepest + 1

end Members

/-- A class that is open: how deep the left side of an operation nests, and the members behind it. -/
structure OpenClass where
  left : Option Nat := none
  members : Members := {}
  deriving DecidableEq, Repr

namespace OpenClass

def add (cls : OpenClass) (depth : Nat) : OpenClass :=
  { cls with members := cls.members.add depth }

def depth (cls : OpenClass) : Nat :=
  match cls.left with
  | none => cls.members.depth
  | some left => max left cls.members.depth + 1

def operated (cls : OpenClass) : OpenClass :=
  { left := some cls.depth }

end OpenClass

/-- Reads one member of a class; `none` as a member is a class by itself. -/
def member? (modes : Modes) : List Char → Option (Option Char × List Char)
  | [] => none
  | '\\' :: rest =>
    match escaped? modes rest with
    | some (.char c, rest) =>
      if modes.unicode ∨ c.toNat < 0x80 then some (some c, rest) else none
    | some (.charClass, rest) => some (none, rest)
    | _ => none
  | c :: rest => if modes.unicode ∨ c.toNat < 0x80 then some (some c, rest) else none

def behindRange? (modes : Modes) (cs : List Char) : Option (List Char) :=
  match member? modes cs with
  | none => none
  | some (first, rest) =>
    match skip modes rest with
    | '-' :: more =>
      match skip modes more with
      | [] => none
      | next :: others =>
        if next = ']' ∨ next = '-' then some ('-' :: more)
        else
          match first, member? modes (next :: others) with
          | some low, some (some high, rest) => if low ≤ high then some rest else none
          | _, _ => none
    | rest => some rest

def asciiClasses : List String :=
  ["alnum", "alpha", "ascii", "blank", "cntrl", "digit", "graph", "lower", "print", "punct", "space",
    "upper", "word", "xdigit"]

/-- Reads a named class behind its bracket: whether it is negated, and the text behind it. -/
def namedClass? : List Char → Option (Bool × List Char)
  | ':' :: cs =>
    let (negated, cs) :=
      match cs with
      | '^' :: rest => (true, rest)
      | _ => (false, cs)
    match cs.span (· != ':') with
    | (name, ':' :: ']' :: rest) =>
      if String.ofList name ∈ asciiClasses then some (negated, rest) else none
    | _ => none
  | _ => none

/-- Counts the dashes at the front of a class and gives the text behind them. -/
def dashes (modes : Modes) (count : Nat) (inComment : Bool) : List Char → Nat × List Char
  | [] => (count, [])
  | c :: rest =>
    if inComment then dashes modes count (c != '\n') rest
    else if c == '-' then dashes modes (count + 1) false rest
    else if modes.verbose && Text.isBlank c then dashes modes count false rest
    else if modes.verbose && c == '#' then dashes modes count true rest
    else (count, c :: rest)

/-- Reads the beginning of a class behind its bracket: dashes there, or else a closing bracket, are
members. Outside of the Unicode mode a class cannot be negated, for it would match more than ASCII. -/
def openClass? (modes : Modes) (cs : List Char) : Option (OpenClass × List Char) :=
  let (negated, cs) :=
    match skip modes cs with
    | '^' :: rest => (true, rest)
    | cs => (false, cs)
  if negated ∧ ¬ modes.unicode then none
  else
    match dashes modes 0 false cs with
    | (0, ']' :: rest) => some ({ members := ⟨1, 0⟩ }, rest)
    | (count, rest) => some ({ members := ⟨count, 0⟩ }, rest)

/-- What follows in classes: the classes that are open, innermost first, and the text behind, or how deep
the outermost class nests once it is closed. -/
inductive ClassStep where
  | inside (cls : OpenClass) (outer : List OpenClass) (rest : List Char)
  | closed (depth : Nat) (rest : List Char)
  deriving DecidableEq, Repr

def closeClass (cls : OpenClass) (outer : List OpenClass) (rest : List Char) : ClassStep :=
  match outer with
  | [] => .closed (cls.depth + 1) rest
  | next :: others => .inside (next.add (cls.depth + 1)) others rest

def classPiece? (modes : Modes) (cls : OpenClass) (outer : List OpenClass) :
    List Char → Option ClassStep
  | [] => none
  | '[' :: rest =>
    match namedClass? rest with
    | some (negated, rest) =>
      if negated ∧ ¬ modes.unicode then none else some (.inside (cls.add 0) outer rest)
    | none => (openClass? modes rest).map fun (inner, rest) => .inside inner (cls :: outer) rest
  | ']' :: rest => some (closeClass cls outer rest)
  | '&' :: '&' :: rest | '-' :: '-' :: rest | '~' :: '~' :: rest =>
    some (.inside cls.operated outer rest)
  | cs => (behindRange? modes cs).map fun rest => .inside (cls.add 0) outer rest

def readClass? (modes : Modes) : Nat → OpenClass → List OpenClass → List Char →
    Option (Nat × List Char)
  | 0, _, _, _ => none
  | fuel + 1, cls, outer, cs =>
    match classPiece? modes cls outer (skip modes cs) with
    | none => none
    | some (.closed depth rest) => some (depth, rest)
    | some (.inside cls outer rest) => readClass? modes fuel cls outer rest

/-- Reads a class behind its bracket: how deep it nests, and the text behind it. -/
def class? (modes : Modes) (cs : List Char) : Option (Nat × List Char) :=
  match openClass? modes cs with
  | some (cls, rest) => readClass? modes (rest.length + 1) cls [] rest
  | none => none

end ThreeAddress.Log.Pattern
