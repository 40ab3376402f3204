import ThreeAddress.Json.Token

set_option autoImplicit false

/- `Json.parse` reads strict JSON text and `Json.render` writes it without blanks. The parser keeps the
arrays and objects that are still open on a stack of its own, so values may nest to any depth.

An object keeps all its fields in the order of the text, repeated ones included: what a repeated
field means is for the reader of the object to say. -/
namespace ThreeAddress

/-- A JSON value. -/
inductive Json where
  | scalar (s : Json.Scalar)
  | arr (items : List Json)
  | obj (fields : List (Option String × Json))

namespace Json

/-- An array or object that waits for a value: the items or fields before it, last first. -/
inductive Opened where
  | array (done : List Json)
  | object (done : List (Option String × Json)) (key : Option String)

/-- What comes next, inside the arrays and objects that are open. -/
inductive Parsing where
  /-- A value. -/
  | value (stack : List Opened)
  /-- The first item of an array, or its end. -/
  | firstItem (stack : List Opened)
  /-- The first key of an object, or its end. -/
  | firstKey (stack : List Opened)
  /-- A key. -/
  | key (done : List (Option String × Json)) (stack : List Opened)
  /-- The colon behind a key. -/
  | colon (done : List (Option String × Json)) (key : Option String) (stack : List Opened)
  /-- A comma or the end of an array. -/
  | afterItem (done : List Json) (stack : List Opened)
  /-- A comma or the end of an object. -/
  | afterField (done : List (Option String × Json)) (stack : List Opened)
  /-- Nothing: the value is complete. -/
  | finished (json : Json)

/-- A complete value goes into the innermost open array or object. -/
def put (json : Json) : List Opened → Parsing
  | [] => .finished json
  | .array done :: stack => .afterItem (json :: done) stack
  | .object done key :: stack => .afterField ((key, json) :: done) stack

def parseValue (stack : List Opened) : Token → Option Parsing
  | .scalar s => some (put (.scalar s) stack)
  | .beginArray => some (.firstItem stack)
  | .beginObject => some (.firstKey stack)
  | _ => none

def parseStep : Parsing → Token → Option Parsing
  | .value stack, token => parseValue stack token
  | .firstItem stack, .endArray => some (put (.arr []) stack)
  | .firstItem stack, token => parseValue (.array [] :: stack) token
  | .firstKey stack, .endObject => some (put (.obj []) stack)
  | .firstKey stack, .scalar (.str key) => some (.colon [] key stack)
  | .key done stack, .scalar (.str key) => some (.colon done key stack)
  | .colon done key stack, .colon => some (.value (.object done key :: stack))
  | .afterItem done stack, .comma => some (.value (.array done :: stack))
  | .afterItem done stack, .endArray => some (put (.arr done.reverse) stack)
  | .afterField done stack, .comma => some (.key done stack)
  | .afterField done stack, .endObject => some (put (.obj done.reverse) stack)
  | _, _ => none

def parseFrom : Parsing → List Token → Option Parsing
  | state, [] => some state
  | state, token :: rest =>
    match parseStep state token with
    | some state => parseFrom state rest
    | none => none

def ofTokens? (tokens : List Token) : Option Json :=
  match parseFrom (.value []) tokens with
  | some (.finished json) => some json
  | _ => none

def parse? (text : String) : Option Json :=
  (lex text.toList).bind ofTokens?

mutual

/-- The tokens of a value, in front of others. -/
def write : Json → List Token → List Token
  | .scalar s, rest => .scalar s :: rest
  | .arr items, rest => .beginArray :: writeItems items (.endArray :: rest)
  | .obj fields, rest => .beginObject :: writeFields fields (.endObject :: rest)

/-- The tokens of items with commas between them, in front of others. -/
def writeItems : List Json → List Token → List Token
  | [], rest => rest
  | [json], rest => write json rest
  | json :: next :: items, rest => write json (.comma :: writeItems (next :: items) rest)

/-- The tokens of fields with commas between them, in front of others. -/
def writeFields : List (Option String × Json) → List Token → List Token
  | [], rest => rest
  | [(key, json)], rest => .scalar (.str key) :: .colon :: write json rest
  | (key, json) :: next :: fields, rest =>
    .scalar (.str key) :: .colon :: write json (.comma :: writeFields (next :: fields) rest)

end

def tokens (json : Json) : List Token :=
  write json []

/-- The text of a value, without blanks. -/
def render (json : Json) : String :=
  String.ofList (json.tokens.flatMap Token.text)

def null : Json := .scalar .null

def bool (b : Bool) : Json := .scalar (.bool b)

def int (n : Int) : Json := .scalar (.int n)

def str (text : String) : Json := .scalar (.str (some text))

def record (fields : List (String × Json)) : Json :=
  .obj (fields.map fun field => (some field.1, field.2))

def text? : Json → Option String
  | .scalar (.str text) => text
  | _ => none

def bool? : Json → Option Bool
  | .scalar (.bool b) => some b
  | _ => none

/-- The integer, if it lies between two bounds. -/
def intWithin? (low high : Int) : Json → Option Int
  | .scalar (.int n) => if low ≤ n ∧ n ≤ high then some n else none
  | _ => none

def int64? (json : Json) : Option Int64 :=
  (json.intWithin? Int64.minValue.toInt Int64.maxValue.toInt).map Int64.ofInt

def uint64? (json : Json) : Option UInt64 :=
  (json.intWithin? 0 (UInt64.size - 1)).map fun n => UInt64.ofNat n.toNat

def uint8? (json : Json) : Option UInt8 :=
  (json.intWithin? 0 255).map fun n => UInt8.ofNat n.toNat

/-- The items of an array, each read in one way. -/
def list? {α : Type} (item : Json → Option α) : Json → Option (List α)
  | .arr items => items.mapM item
  | _ => none

inductive Field where
  | absent
  | present (json : Json)
  | repeated

def field (fields : List (Option String × Json)) (name : String) : Field :=
  match fields.filter (fun entry => entry.1 == some name) with
  | [] => .absent
  | [(_, json)] => .present json
  | _ => .repeated

def Field.required {α : Type} (read : Json → Option α) : Field → Option α
  | .present json => read json
  | _ => none

/-- A field that stands for `default` when it is left out. -/
def Field.orElse {α : Type} (default : α) (read : Json → Option α) : Field → Option α
  | .present json => read json
  | .absent => some default
  | .repeated => none

def hasTextKeys (fields : List (Option String × Json)) : Bool :=
  fields.all fun entry => entry.1.isSome

end Json

end ThreeAddress
