import ThreeAddress.Error

set_option autoImplicit false

namespace ThreeAddress

/-- Where lines come from: bytes still to be read, or something that cannot be read at all. -/
inductive Input where
  | bytes (rest : Bytes)
  | unreadable (reason : String)
  deriving DecidableEq, Repr

namespace Input

def splitLine : Bytes → Bytes × Bytes
  | [] => ([], [])
  | b :: rest =>
    if b = 10 then ([b], rest)
    else
      let (line, rest) := splitLine rest
      (b :: line, rest)

/-- A line without its line feed, and without a carriage return in front of that. -/
def stripEnd (line : Bytes) : Bytes :=
  match line.reverse with
  | 10 :: 13 :: rest => rest.reverse
  | 10 :: rest => rest.reverse
  | _ => line

def notText : Fault :=
  .input "stream did not contain valid UTF-8"

/-- Reads one line; none at the end of the input. A line that is no text is used up all the same. -/
def readLine : Input → Except Fault (Option String) × Input
  | .unreadable reason => (.error (.input reason), .unreadable reason)
  | .bytes [] => (.ok none, .bytes [])
  | .bytes rest =>
    let (line, rest) := splitLine rest
    match Utf8.toString? (stripEnd line) with
    | some text => (.ok (some text), .bytes rest)
    | none => (.error notText, .bytes rest)

/-- Reads lines until the input ends; at most `count` of them. -/
def readLines : Nat → Input → List (Except Fault String)
  | 0, _ => []
  | count + 1, input =>
    match input.readLine with
    | (.ok none, _) => []
    | (.ok (some text), input) => .ok text :: readLines count input
    | (.error fault, input) => .error fault :: readLines count input

/-- All lines of a byte string: there are no more lines than bytes. -/
def linesOf (bytes : Bytes) : List (Except Fault String) :=
  readLines bytes.length (.bytes bytes)

end Input

end ThreeAddress
