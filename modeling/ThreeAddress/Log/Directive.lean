import ThreeAddress.Event
import ThreeAddress.Log.Pattern

set_option autoImplicit false

/- A directive says up to which level events pass, and which events it is about: those from an origin that
starts with its target, and with a field that it names. It reads

    target[span{field=value}]=level

where every part may be left out. A directive with a span or a value is about events inside of spans, of
which there are none. -/
namespace ThreeAddress.Log

/-- A field that an event must have, and the value that is asked for. -/
structure FieldQuery where
  name : String
  value : Option String := none
  deriving DecidableEq, Repr

/-- A directive. Without a level it lets everything pass. -/
structure Directive where
  target : Option String := none
  span : Option String := none
  field : Option FieldQuery := none
  rank : Nat := Level.trace.rank
  deriving DecidableEq, Repr

inductive DirectiveError where
  | malformed
  | level
  | value (flaw : Pattern.Flaw)
  deriving DecidableEq, Repr

def DirectiveError.message : DirectiveError → String
  | .malformed => "invalid filter directive"
  | .level =>
    "error parsing level filter: expected one of \"off\", \"error\", \"warn\", \"info\", \"debug\", "
      ++ "\"trace\", or a number 0-5"
  | .value flaw => "invalid field filter: " ++ flaw.message

def numberRank? (text : String) : Option Nat :=
  let digits :=
    match text.toList with
    | '+' :: digits => digits
    | digits => digits
  (Numeral.digits? 10 digits).filter (· ≤ Level.trace.rank)

/-- The rank of a level that is written as a number or as a name in any case. -/
def rank? (text : String) : Option Nat :=
  match numberRank? text with
  | some rank => some rank
  | none =>
    [("off", 0), ("error", 1), ("warn", 2), ("info", 3), ("debug", 4), ("trace", 5)].lookup
      (Text.asciiLower text)

namespace Directive

/-- What is being read: nothing yet, a level or a target, the name of a span, a field, what follows the
fields or the closing bracket, or a level. Spans, fields and levels begin at a place. -/
inductive Stage where
  | start
  | word
  | span (first : Nat)
  | field (first : Nat)
  | fields
  | closed
  | level (first : Nat)
  deriving DecidableEq, Repr

/-- Whether a character may begin a directive, apart from the bracket. -/
def begins (c : Char) : Bool :=
  c == '-' || c == ':' || c == '_' || Text.isAlphanumeric c

/-- The part of a text between two places, which count bytes. -/
def cut (text : Bytes) (first last : Nat) : Except DirectiveError String :=
  match Utf8.toString? ((text.take last).drop first) with
  | some part => .ok part
  | none => .error .malformed

/-- Reads a field: its name, and a value up to the next equals sign if there is one. -/
def readField (text : String) : Except DirectiveError FieldQuery :=
  match text.splitOn "=" with
  | name :: value :: _ =>
    match Pattern.valueFlaw? value with
    | some flaw => .error (.value flaw)
    | none => .ok { name, value := some value }
  | _ => .ok { name := text }

def readChar (text : Bytes) (directive : Directive) (place : Nat) :
    Stage → Char → Except DirectiveError (Stage × Directive)
  | .start, '[' => .ok (.span (place + 1), directive)
  | .start, c => if begins c then .ok (.word, directive) else .error .malformed
  | .word, '=' => do
    let target ← cut text 0 place
    return (.level (place + 1), { directive with target := some target })
  | .word, '[' => do
    let target ← cut text 0 place
    return (.span (place + 1), { directive with target := some target })
  | .word, _ => .ok (.word, directive)
  | .span first, ']' => do
    let name ← cut text first place
    return (.closed, { directive with span := some name })
  | .span first, '\x7b' => do
    let name ← cut text first place
    return (.field (place + 1), { directive with span := if first = place then none else some name })
  | .span first, _ => .ok (.span first, directive)
  | .field first, '\x7d' =>
    if first = place then .error .malformed
    else do
      let field ← readField (← cut text first place)
      return (.fields, { directive with field := some field })
  | .field first, _ => .ok (.field first, directive)
  | .fields, ']' => .ok (.closed, directive)
  | .closed, '=' => .ok (.level (place + 1), directive)
  | .level first, _ => .ok (.level first, directive)
  | _, _ => .error .malformed

def readChars (text : Bytes) : Nat → Stage → Directive → List Char →
    Except DirectiveError (Stage × Directive)
  | _, stage, directive, [] => .ok (stage, directive)
  | place, stage, directive, c :: rest =>
    match readChar text directive place stage c with
    | .error error => .error error
    | .ok (stage, directive) => readChars text (place + c.utf8Size) stage directive rest

/-- Reads a directive. The places of its parts are found without the blanks around it and then taken in
the text with them, so that a word keeps its blanks and is a target where it would be a level. -/
def parse (text : String) : Except DirectiveError Directive :=
  let bytes := Utf8.ofString text
  match readChars bytes 0 .start {} (Text.trimBlank text.toList) with
  | .error error => .error error
  | .ok (.word, directive) =>
    match rank? text with
    | some rank => .ok { directive with rank }
    | none => .ok { directive with target := some text }
  | .ok (.level first, directive) =>
    match cut bytes first bytes.length with
    | .error error => .error error
    | .ok "" => .ok directive
    | .ok level =>
      match rank? level with
      | some rank => .ok { directive with rank }
      | none => .error .level
  | .ok (.closed, directive) => .ok directive
  | .ok _ => .error .malformed

/-- Whether a directive is about events outside of spans. -/
def isForEvents (directive : Directive) : Bool :=
  directive.span.isNone && directive.field.all fun field => field.value.isNone

/-- Whether an event has a field; its words count as one. -/
def hasField (event : Event) (name : String) : Bool :=
  name == "message" || event.fields.any fun field => field.1 == name

def isAbout (directive : Directive) (event : Event) : Bool :=
  directive.isForEvents
    && (directive.target.all fun target => event.origin.startsWith target)
    && (directive.field.all fun field => hasField event field.name)

/-- The length of the target. -/
def reach (directive : Directive) : Nat :=
  (directive.target.getD "").utf8ByteSize

def fieldName (directive : Directive) : String :=
  (directive.field.map FieldQuery.name).getD ""

/-- Whether the second of two directives goes before the first, which stands before it: the one with
the longer target does, then the one with the field, then the one whose field is later by name. -/
def givesWay (one other : Directive) : Bool :=
  one.reach < other.reach || (one.reach == other.reach && one.fieldName ≤ other.fieldName)

end Directive

end ThreeAddress.Log
