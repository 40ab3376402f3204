import ThreeAddress.Toml.Item
import ThreeAddress.Toml.Number

set_option autoImplicit false

namespace ThreeAddress.Toml

/-- How deep values nest and how many parts a key has, plus one. -/
def nesting : Nat := 80

def Quantity.item : Quantity → Item
  | .integer n => .integer n
  | .float => .float
  | .dateTime => .dateTime

def assignment? (cs : List Char) : Option ((List String × String) × List Char) := do
  let (key, rest) ← key? (nesting - 1) cs
  match rest with
  | '=' :: rest => some (key, skipSpaces rest)
  | _ => none

mutual

def value? : Nat → Nat → Reader Item
  | 0, _, _ => none
  | fuel + 1, depth, cs =>
    match cs with
    | '\x22' :: _ | '\x27' :: _ =>
      (string? cs).map fun (text, rest) => (.string (String.ofList text), rest)
    | '[' :: rest =>
      if depth + 1 < nesting then
        (items? fuel (depth + 1) rest).map fun (items, rest) => (.array items, rest)
      else none
    | '\x7b' :: rest =>
      if depth + 1 < nesting then
        match skipSpaces rest with
        | '\x7d' :: rest => some (.table .braces [], rest)
        | rest =>
          (fields? fuel (depth + 1) [] rest).map fun (entries, rest) => (.table .braces entries, rest)
      else none
    | 't' :: 'r' :: 'u' :: 'e' :: rest => some (.boolean true, rest)
    | 'f' :: 'a' :: 'l' :: 's' :: 'e' :: rest => some (.boolean false, rest)
    | _ => (quantity? cs).map fun (quantity, rest) => (quantity.item, rest)

/-- The items of an array behind its bracket or a comma, with the closing bracket. -/
def items? : Nat → Nat → Reader (List Item)
  | 0, _, _ => none
  | fuel + 1, depth, cs =>
    match skipLayout false cs with
    | none => none
    | some (']' :: rest) => some ([], rest)
    | some cs =>
      match value? fuel depth cs with
      | none => none
      | some (item, rest) =>
        match skipLayout false rest with
        | some (',' :: rest) => (items? fuel depth rest).map fun (items, rest) => (item :: items, rest)
        | some (']' :: rest) => some ([item], rest)
        | _ => none

/-- The fields of a table in braces behind those that were read, with the closing brace. -/
def fields? : Nat → Nat → Entries → Reader Entries
  | 0, _, _, _ => none
  | fuel + 1, depth, entries, cs =>
    match assignment? cs with
    | none => none
    | some ((path, key), rest) =>
      match value? fuel depth rest with
      | none => none
      | some (item, rest) =>
        match Entries.assign path key item entries with
        | none => none
        | some entries =>
          match skipSpaces rest with
          | ',' :: rest => fields? fuel depth entries rest
          | '\x7d' :: rest => some (entries, rest)
          | _ => none

end

/-- The header of a table or, with `double`, of an element of an array of tables. -/
def header? (double : Bool) (cs : List Char) : Option ((List String × String) × List Char) := do
  let (key, rest) ← key? (nesting - 1) cs
  let rest ← expect? ']' rest
  let rest ← if double then expect? ']' rest else some rest
  return (key, ← lineEnd? rest)

/-- The lines of a document from a place on: the table that is open and the root so far. -/
def lines? : Nat → List String → Entries → List Char → Option Entries
  | 0, _, _, _ => none
  | fuel + 1, here, root, cs =>
    match skipSpaces cs with
    | [] => some root
    | '[' :: '[' :: rest =>
      match header? true rest with
      | none => none
      | some ((path, key), rest) =>
        match Entries.descend (Entries.openElement key) path root with
        | none => none
        | some root => lines? fuel (path ++ [key]) root rest
    | '[' :: rest =>
      match header? false rest with
      | none => none
      | some ((path, key), rest) =>
        match Entries.descend (Entries.openTable key) path root with
        | none => none
        | some root => lines? fuel (path ++ [key]) root rest
    | c :: rest =>
      if c = '#' ∨ c = '\n' ∨ c = '\r' then
        match lineEnd? (c :: rest) with
        | none => none
        | some rest => lines? fuel here root rest
      else
        match assignment? (c :: rest) with
        | none => none
        | some ((path, key), rest) =>
          match value? (2 * rest.length + 2) 0 rest with
          | none => none
          | some (item, rest) =>
            match lineEnd? rest with
            | none => none
            | some rest =>
              match Entries.descend (Entries.assign path key item) here root with
              | none => none
              | some root => lines? fuel here root rest

/-- The root table of a document. A byte order mark in front is dropped. -/
def parse? (text : String) : Option Entries :=
  let cs :=
    match text.toList with
    | '\ufeff' :: rest => rest
    | cs => cs
  lines? (cs.length + 1) [] [] cs

end ThreeAddress.Toml
