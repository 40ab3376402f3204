import ThreeAddress.Log.Pattern.Class

set_option autoImplicit false

namespace ThreeAddress.Log.Pattern

inductive Flaw where
  /-- It breaks a rule of patterns. -/
  | malformed
  /-- It asks for the boundary of a word, which is not looked for. -/
  | wordBoundary
  deriving DecidableEq, Repr

def Flaw.message : Flaw → String
  | .malformed => "error building NFA"
  | .wordBoundary => "unsupported regex feature for DFAs"

/-- How deep a pattern may nest. -/
def nestingLimit : Nat := 250

/-- Pieces that follow each other: how many, how deep the last one nests, and those before it. -/
structure Sequence where
  count : Nat := 0
  earlier : Nat := 0
  last : Nat := 0
  /-- Whether there is a last piece that can be repeated. -/
  repeatable : Bool := false
  deriving DecidableEq, Repr

namespace Sequence

def add (pieces : Sequence) (depth : Nat) (repeatable : Bool) : Sequence :=
  ⟨pieces.count + 1, max pieces.earlier pieces.last, depth, repeatable⟩

def repeated (pieces : Sequence) : Sequence :=
  { pieces with last := pieces.last + 1 }

/-- How deep a sequence nests; several pieces are a level by themselves. -/
def depth (pieces : Sequence) : Nat :=
  if pieces.count ≤ 1 then pieces.last else max pieces.earlier pieces.last + 1

end Sequence

/-- The inside of a group: whether there are alternatives before the one that is read and how deep they
nest, and the pieces of the one that is read. -/
structure Inside where
  alternatives : Option Nat := none
  pieces : Sequence := {}
  deriving DecidableEq, Repr

namespace Inside

def alternated (inside : Inside) : Inside :=
  { alternatives := some (max (inside.alternatives.getD 0) inside.pieces.depth) }

/-- How deep the inside of a group nests; alternatives are a level by themselves. -/
def depth (inside : Inside) : Nat :=
  match inside.alternatives with
  | none => inside.pieces.depth
  | some earlier => max earlier inside.pieces.depth + 1

end Inside

structure State where
  inside : Inside := {}
  modes : Modes := {}
  /-- What is read around the group that is open, innermost first, and in which modes. -/
  outer : List (Inside × Modes) := []
  names : List String := []
  wordBoundary : Bool := false
  deriving DecidableEq, Repr

namespace State

def added (s : State) (depth : Nat) (repeatable : Bool) : State :=
  { s with inside := { s.inside with pieces := s.inside.pieces.add depth repeatable } }

/-- A group is opened that is read in the given modes. -/
def opened (s : State) (modes : Modes) : State :=
  { s with inside := {}, modes, outer := (s.inside, s.modes) :: s.outer }

def closed? (s : State) : Option State :=
  match s.outer with
  | [] => none
  | (inside, modes) :: outer =>
    some ({ s with inside, modes, outer }.added (s.inside.depth + 1) true)

end State

def isGroupName : List Char → Bool
  | [] => false
  | c :: rest =>
    (c == '_' || Text.isAlphabetic c) &&
      rest.all fun c => c ∈ "_.[]".toList || Text.isAlphanumeric c

/-- Whether options of a group are known, none is given twice, and a dash among them has some behind it. -/
def areOptions (cs : List Char) : Bool :=
  cs.all (· ∈ "imsUuxR-".toList) && decide cs.Nodup && cs.getLast? != some '-'

/-- What options make of a mode: those in front of a dash turn it on, those behind it off. -/
def optionValue (options : List Char) (option : Char) (mode : Bool) : Bool :=
  let (on, off) := options.span (· != '-')
  if option ∈ on then true else if option ∈ off then false else mode

def Modes.changed (modes : Modes) (options : List Char) : Modes :=
  ⟨optionValue options 'x' modes.verbose, optionValue options 'u' modes.unicode⟩

def named? (s : State) (cs : List Char) : Option (State × List Char) :=
  match cs.span (· != '>') with
  | (name, _ :: rest) =>
    let text := String.ofList name
    if isGroupName name ∧ text ∉ s.names then
      some ({ s.opened s.modes with names := text :: s.names }, rest)
    else none
  | (_, []) => none

/-- Reads the options of a group that is opened, or options alone. -/
def options? (s : State) (cs : List Char) : Option (State × List Char) :=
  match cs.span (fun c => c != ':' && c != ')') with
  | (options, mark :: rest) =>
    if ¬ areOptions options then none
    else if mark = ':' then some (s.opened (s.modes.changed options), rest)
    else if options = [] then none
    else some ({ s.added 0 false with modes := s.modes.changed options }, rest)
  | (_, []) => none

/-- Reads what stands behind the parenthesis that opens a group. There is no looking around. -/
def group? (s : State) (cs : List Char) : Option (State × List Char) :=
  match skip s.modes cs with
  | '?' :: '=' :: _ | '?' :: '!' :: _ | '?' :: '<' :: '=' :: _ | '?' :: '<' :: '!' :: _ => none
  | '?' :: 'P' :: '<' :: rest | '?' :: '<' :: rest => named? s rest
  | '?' :: rest => options? s rest
  | rest => some (s.opened s.modes, rest)

/-- Repeats the last piece; a question mark right behind the repetition belongs to it. -/
def repeated? (s : State) (cs : List Char) : Option (State × List Char) :=
  if s.inside.pieces.repeatable then
    let rest :=
      match cs with
      | '?' :: rest => rest
      | _ => cs
    some ({ s with inside := { s.inside with pieces := s.inside.pieces.repeated } }, rest)
  else none

def piece? (s : State) : List Char → Option (State × List Char)
  | [] => none
  | '(' :: rest => group? s rest
  | ')' :: rest => s.closed?.map fun s => (s, rest)
  | '|' :: rest => some ({ s with inside := s.inside.alternated }, rest)
  | '[' :: rest => (class? s.modes rest).map fun (depth, rest) => (s.added depth true, rest)
  | '?' :: rest | '*' :: rest | '+' :: rest => repeated? s rest
  | '\x7b' :: _ => none
  | '.' :: rest => if s.modes.unicode then some (s.added 0 true, rest) else none
  | '\\' :: rest =>
    (escaped? s.modes rest).map fun (escaped, rest) =>
      ({ s.added 0 true with wordBoundary := s.wordBoundary || escaped == .wordBoundary }, rest)
  | _ :: rest => some (s.added 0 true, rest)

def read? : Nat → State → List Char → Option State
  | 0, _, _ => none
  | fuel + 1, s, cs =>
    match skip s.modes cs with
    | [] => some s
    | c :: rest =>
      match piece? s (c :: rest) with
      | some (s, rest) => read? fuel s rest
      | none => none

def flaw? (cs : List Char) : Option Flaw :=
  match read? (cs.length + 1) {} cs with
  | none => some .malformed
  | some s =>
    if s.outer ≠ [] ∨ nestingLimit < s.inside.depth then some .malformed
    else if s.wordBoundary then some .wordBoundary
    else none

def isExponent : List Char → Bool
  | [] => true
  | e :: '+' :: digits | e :: '-' :: digits =>
    (e == 'e' || e == 'E') && !digits.isEmpty && digits.all Char.isDigit
  | e :: digits => (e == 'e' || e == 'E') && !digits.isEmpty && digits.all Char.isDigit

/-- Whether a text without a sign is a number in decimal, with or without fraction and exponent. -/
def isDecimal (cs : List Char) : Bool :=
  let (whole, rest) := cs.span Char.isDigit
  let (fraction, rest) :=
    match rest with
    | '.' :: rest => rest.span Char.isDigit
    | _ => ([], rest)
  !(whole ++ fraction).isEmpty && isExponent rest

/-- Whether a text is a number: it asks for that number and is no pattern. -/
def isNumber (cs : List Char) : Bool :=
  let unsigned :=
    match cs with
    | '+' :: rest | '-' :: rest => rest
    | _ => cs
  isDecimal unsigned
    || Text.asciiLower (String.ofList unsigned) ∈ ["inf", "infinity", "nan"]

/-- What is wrong with a text that asks for a value: a number is fine as it is. -/
def valueFlaw? (text : String) : Option Flaw :=
  if isNumber text.toList then none else flaw? text.toList

end ThreeAddress.Log.Pattern
