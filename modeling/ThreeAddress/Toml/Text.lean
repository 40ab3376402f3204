set_option autoImplicit false

namespace ThreeAddress.Toml

abbrev Reader (α : Type) := List Char → Option (α × List Char)

def isSpace (c : Char) : Bool :=
  c == ' ' || c == '\t'

/-- The characters that may stand in a comment: no control character but the tab. -/
def isVisible (c : Char) : Bool :=
  c == '\t' || (0x20 ≤ c.toNat && c.toNat != 0x7F)

def skipSpaces (cs : List Char) : List Char :=
  cs.dropWhile isSpace

def lineBreak? : List Char → Option (List Char)
  | '\n' :: rest => some rest
  | '\r' :: '\n' :: rest => some rest
  | _ => none

/-- The text behind blanks, a comment if there is one, and the end of the line or of the text. -/
def lineEnd? (cs : List Char) : Option (List Char) :=
  let cs := skipSpaces cs
  let cs :=
    match cs with
    | '#' :: rest => rest.dropWhile isVisible
    | _ => cs
  match cs with
  | [] => some []
  | _ => lineBreak? cs

/-- The text behind blanks, line breaks and comments; every comment ends with its line. -/
def skipLayout (inComment : Bool) : List Char → Option (List Char)
  | [] => if inComment then none else some []
  | c :: rest =>
    if c = '\n' then skipLayout false rest
    else if c = '\r' then if rest.head? = some '\n' then skipLayout false rest else none
    else if inComment then if isVisible c then skipLayout true rest else none
    else if isSpace c then skipLayout false rest
    else if c = '#' then skipLayout true rest
    else some (c :: rest)

def hexValue? (c : Char) : Option Nat :=
  if '0' ≤ c ∧ c ≤ '9' then some (c.toNat - '0'.toNat)
  else if 'a' ≤ c ∧ c ≤ 'f' then some (c.toNat - 'a'.toNat + 10)
  else if 'A' ≤ c ∧ c ≤ 'F' then some (c.toNat - 'A'.toNat + 10)
  else none

/-- The character of a code point in so many hexadecimal digits. -/
def codePoint? (value : Nat) : Nat → Reader Char
  | 0, cs => if value.isValidChar then some (Char.ofNat value, cs) else none
  | count + 1, c :: cs => (hexValue? c).bind fun d => codePoint? (value * 16 + d) count cs
  | _ + 1, [] => none

/-- The character that an escape stands for, behind its backslash. -/
def escape? : Reader Char
  | 'b' :: cs => some ('\x08', cs)
  | 't' :: cs => some ('\t', cs)
  | 'n' :: cs => some ('\n', cs)
  | 'f' :: cs => some ('\x0c', cs)
  | 'r' :: cs => some ('\r', cs)
  | '\x22' :: cs => some ('\x22', cs)
  | '\\' :: cs => some ('\\', cs)
  | 'u' :: cs => codePoint? 0 4 cs
  | 'U' :: cs => codePoint? 0 8 cs
  | _ => none

def onto (c : Char) : Option (List Char × List Char) → Option (List Char × List Char) :=
  Option.map fun (text, rest) => (c :: text, rest)

def basic : Nat → Reader (List Char)
  | 0, _ => none
  | _ + 1, '\x22' :: rest => some ([], rest)
  | fuel + 1, '\\' :: rest => (escape? rest).bind fun (c, rest) => onto c (basic fuel rest)
  | fuel + 1, c :: rest => if isVisible c then onto c (basic fuel rest) else none
  | _ + 1, [] => none

def literal : Reader (List Char)
  | '\x27' :: rest => some ([], rest)
  | c :: rest => if isVisible c then onto c (literal rest) else none
  | [] => none

/-- Drops a line break that follows the opening quotes of a string of several lines. -/
def skipFirstBreak (cs : List Char) : List Char :=
  (lineBreak? cs).getD cs

def skipWhite : List Char → List Char
  | '\r' :: '\n' :: rest => skipWhite rest
  | c :: rest => if isSpace c || c == '\n' then skipWhite rest else c :: rest
  | [] => []

/-- A string of several lines behind its opening quotes. Two quotes before the closing ones belong to
the text. Escapes are read if there are any in this sort of string. -/
def multiline (quote : Char) (escapes : Bool) : Nat → Reader (List Char)
  | 0, _ => none
  | fuel + 1, cs =>
    match lineBreak? cs with
    | some rest => onto '\n' (multiline quote escapes fuel rest)
    | none =>
      match cs with
      | [] => none
      | c :: rest =>
        if c = quote then
          let run := (cs.takeWhile (· == quote)).length
          if run < 3 then onto c (multiline quote escapes fuel rest)
          else
            let extra := min (run - 3) 2
            some (List.replicate extra quote, cs.drop (3 + extra))
        else if escapes && c == '\\' then
          match lineBreak? (skipSpaces rest) with
          | some rest => multiline quote escapes fuel (skipWhite rest)
          | none => (escape? rest).bind fun (c, rest) => onto c (multiline quote escapes fuel rest)
        else if isVisible c then onto c (multiline quote escapes fuel rest)
        else none

def string? (cs : List Char) : Option (List Char × List Char) :=
  match cs with
  | '\x22' :: '\x22' :: '\x22' :: rest =>
    multiline '\x22' true (rest.length + 1) (skipFirstBreak rest)
  | '\x22' :: rest => basic (rest.length + 1) rest
  | '\x27' :: '\x27' :: '\x27' :: rest =>
    multiline '\x27' false (rest.length + 1) (skipFirstBreak rest)
  | '\x27' :: rest => literal rest
  | _ => none

def isBareKey (c : Char) : Bool :=
  c.isAlphanum || c == '-' || c == '_'

def keyPart? : Reader String
  | '\x22' :: rest => (basic (rest.length + 1) rest).map fun (text, rest) => (String.ofList text, rest)
  | '\x27' :: rest => (literal rest).map fun (text, rest) => (String.ofList text, rest)
  | cs =>
    let text := cs.takeWhile isBareKey
    if text.isEmpty then none else some (String.ofList text, cs.dropWhile isBareKey)

/-- A key of at most `parts` parts: those before the last one, and the last one. -/
def key? : Nat → Reader (List String × String)
  | 0, _ => none
  | parts + 1, cs => do
    let (part, rest) ← keyPart? (skipSpaces cs)
    match skipSpaces rest with
    | '.' :: rest =>
      let ((path, last), rest) ← key? parts rest
      some ((part :: path, last), rest)
    | rest => some (([], part), rest)

end ThreeAddress.Toml
