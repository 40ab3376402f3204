set_option autoImplicit false

namespace ThreeAddress.Json

/-- A value without parts. A number with a fraction or an exponent, and minus zero, is kept as it was
written. A string is `none` when its escapes leave half of a surrogate pair, which no text can hold. -/
inductive Scalar where
  | null
  | bool (b : Bool)
  | int (n : Int)
  | real (literal : String)
  | str (text : Option String)
  deriving DecidableEq, Repr

/-- The tokens of a JSON text. -/
inductive Token where
  | beginArray
  | endArray
  | beginObject
  | endObject
  | comma
  | colon
  | scalar (s : Scalar)
  deriving DecidableEq, Repr

/-- The characters that literals and numbers are made of. -/
def isWordChar (c : Char) : Bool :=
  c.isAlphanum || c == '+' || c == '-' || c == '.'

def isDigits (cs : List Char) : Bool :=
  !cs.isEmpty && cs.all Char.isDigit

/-- The digits before the point: no needless zero in front. -/
def isWhole : List Char → Bool
  | ['0'] => true
  | '0' :: _ => false
  | cs => isDigits cs

/-- Nothing, or an exponent. -/
def isExponent : List Char → Bool
  | [] => true
  | e :: cs =>
    (e == 'e' || e == 'E') &&
      match cs with
      | '+' :: ds => isDigits ds
      | '-' :: ds => isDigits ds
      | ds => isDigits ds

def isFraction : List Char → Bool
  | '.' :: cs => isDigits (cs.takeWhile Char.isDigit) && isExponent (cs.dropWhile Char.isDigit)
  | cs => isExponent cs

def number? (word : List Char) : Option Scalar :=
  let negative := word.head? == some '-'
  let body := if negative then word.drop 1 else word
  let whole := body.takeWhile Char.isDigit
  let rest := body.dropWhile Char.isDigit
  if isWhole whole && isFraction rest then
    let magnitude : Int := Nat.ofDigitChars 10 whole 0
    if rest.isEmpty && !(negative && magnitude == 0) then
      some (.int (if negative then -magnitude else magnitude))
    else some (.real (String.ofList word))
  else none

def word? (word : List Char) : Option Scalar :=
  if word = ['n', 'u', 'l', 'l'] then some .null
  else if word = ['t', 'r', 'u', 'e'] then some (.bool true)
  else if word = ['f', 'a', 'l', 's', 'e'] then some (.bool false)
  else number? word

/-- A piece of a string: a character, or the 16-bit unit of a numeric escape. -/
inductive Piece where
  | char (c : Char)
  | unit (n : Nat)
  deriving DecidableEq, Repr

/-- Whether a unit is the first half of a surrogate pair. -/
def isHigh (n : Nat) : Bool :=
  0xD800 ≤ n && n < 0xDC00

/-- Whether a unit is the second half of a surrogate pair. -/
def isLow (n : Nat) : Bool :=
  0xDC00 ≤ n && n < 0xE000

/-- The characters of the pieces of a string, with surrogate pairs joined. -/
def joinPieces : List Piece → Option (List Char)
  | [] => some []
  | .char c :: rest => (joinPieces rest).map (c :: ·)
  | .unit n :: rest =>
    if isHigh n then
      match rest with
      | .unit m :: rest =>
        if isLow m then
          (joinPieces rest).map (Char.ofNat (0x10000 + (n - 0xD800) * 0x400 + (m - 0xDC00)) :: ·)
        else none
      | _ => none
    else if isLow n then none
    else (joinPieces rest).map (Char.ofNat n :: ·)

/-- The character that a backslash and one letter stand for. -/
def escaped? : Char → Option Char
  | '"' => some '"'
  | '\\' => some '\\'
  | '/' => some '/'
  | 'b' => some '\x08'
  | 'f' => some '\x0c'
  | 'n' => some '\n'
  | 'r' => some '\r'
  | 't' => some '\t'
  | _ => none

def hexValue? (c : Char) : Option Nat :=
  if '0' ≤ c ∧ c ≤ '9' then some (c.toNat - '0'.toNat)
  else if 'a' ≤ c ∧ c ≤ 'f' then some (c.toNat - 'a'.toNat + 10)
  else if 'A' ≤ c ∧ c ≤ 'F' then some (c.toNat - 'A'.toNat + 10)
  else none

/-- Where the lexer stands. Characters and pieces of an unfinished token are kept last first; of a
numeric escape, `left + 1` digits are still to come. -/
inductive Lexing where
  | between
  | word (seen : List Char)
  | string (seen : List Piece)
  | escape (seen : List Piece)
  | unit (left : Nat) (value : Nat) (seen : List Piece)
  deriving DecidableEq, Repr

/-- A character between tokens: the next state and the token that the character is, if any. -/
def lexBetween (c : Char) : Option (Lexing × List Token) :=
  if c = ' ' ∨ c = '\t' ∨ c = '\n' ∨ c = '\r' then some (.between, [])
  else if c = '[' then some (.between, [.beginArray])
  else if c = ']' then some (.between, [.endArray])
  else if c = '\x7b' then some (.between, [.beginObject])
  else if c = '\x7d' then some (.between, [.endObject])
  else if c = ',' then some (.between, [.comma])
  else if c = ':' then some (.between, [.colon])
  else if c = '"' then some (.string [], [])
  else if isWordChar c then some (.word [c], [])
  else none

/-- One character: the next state and the tokens that it completes. -/
def lexStep : Lexing → Char → Option (Lexing × List Token)
  | .between, c => lexBetween c
  | .word seen, c =>
    if isWordChar c then some (.word (c :: seen), [])
    else
      match word? seen.reverse, lexBetween c with
      | some s, some (state, tokens) => some (state, .scalar s :: tokens)
      | _, _ => none
  | .string seen, c =>
    if c = '"' then some (.between, [.scalar (.str ((joinPieces seen.reverse).map String.ofList))])
    else if c = '\\' then some (.escape seen, [])
    else if c.toNat < 0x20 then none
    else some (.string (.char c :: seen), [])
  | .escape seen, c =>
    if c = 'u' then some (.unit 3 0 seen, [])
    else (escaped? c).map fun d => (.string (.char d :: seen), [])
  | .unit left value seen, c =>
    (hexValue? c).map fun d =>
      match left with
      | 0 => (.string (.unit (value * 16 + d) :: seen), [])
      | left + 1 => (.unit left (value * 16 + d) seen, [])

def lexFrom : Lexing → List Char → Option (List Token)
  | .between, [] => some []
  | .word seen, [] => (word? seen.reverse).map fun s => [.scalar s]
  | _, [] => none
  | state, c :: rest =>
    match lexStep state c with
    | some (state, tokens) => (lexFrom state rest).map (tokens ++ ·)
    | none => none

/-- The tokens of a text, `none` if it is not a sequence of tokens. -/
def lex (text : List Char) : Option (List Token) :=
  lexFrom .between text

def hexChar (n : Nat) : Char :=
  Char.ofNat (if n < 10 then '0'.toNat + n else 'a'.toNat + (n - 10))

def quoteChar (c : Char) : List Char :=
  if c = '"' then ['\\', '"']
  else if c = '\\' then ['\\', '\\']
  else if c = '\x08' then ['\\', 'b']
  else if c = '\x0c' then ['\\', 'f']
  else if c = '\n' then ['\\', 'n']
  else if c = '\r' then ['\\', 'r']
  else if c = '\t' then ['\\', 't']
  else if c.toNat < 0x20 then
    ['\\', 'u', '0', '0', hexChar (c.toNat / 16), hexChar (c.toNat % 16)]
  else [c]

/-- A string with its quotes. A string that holds no text is written as half a surrogate pair. -/
def quote : Option String → List Char
  | some text => '"' :: (text.toList.flatMap quoteChar ++ ['"'])
  | none => ['"', '\\', 'u', 'd', '8', '0', '0', '"']

def Scalar.text : Scalar → List Char
  | .null => ['n', 'u', 'l', 'l']
  | .bool true => ['t', 'r', 'u', 'e']
  | .bool false => ['f', 'a', 'l', 's', 'e']
  | .int n => n.repr.toList
  | .real literal => literal.toList
  | .str text => quote text

def Token.text : Token → List Char
  | .beginArray => ['[']
  | .endArray => [']']
  | .beginObject => ['\x7b']
  | .endObject => ['\x7d']
  | .comma => [',']
  | .colon => [':']
  | .scalar s => s.text

end ThreeAddress.Json
