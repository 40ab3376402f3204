set_option autoImplicit false

/- The tree that a document builds up line by line. How a table came about decides what may still be
added to it: a table with a header of its own or in braces is closed to keys from elsewhere, a table
that a longer header implied may still get its header, and a table that a dotted key made takes
dotted keys only. -/
namespace ThreeAddress.Toml

inductive Origin where
  | header
  | implied
  | dotted
  | braces
  deriving DecidableEq, Repr

/-- A value of a document. The tables of an array of tables come newest first. -/
inductive Item where
  | string (text : String)
  | integer (n : Int)
  | float
  | boolean (b : Bool)
  | dateTime
  | array (items : List Item)
  | table (origin : Origin) (entries : List (String × Item))
  | tables (elements : List Item)

abbrev Entries := List (String × Item)

namespace Entries

/-- Puts an item in the place of the one under a key, or at the end. -/
def put (entries : Entries) (key : String) (item : Item) : Entries :=
  if (entries.lookup key).isSome then
    entries.map fun entry => if entry.1 == key then (key, item) else entry
  else entries ++ [(key, item)]

def assign : List String → String → Item → Entries → Option Entries
  | [], key, item, entries =>
    match entries.lookup key with
    | some _ => none
    | none => some (entries.put key item)
  | part :: path, key, item, entries =>
    match entries.lookup part with
    | none => (assign path key item []).map fun inner => entries.put part (.table .dotted inner)
    | some (.table .dotted inner) =>
      (assign path key item inner).map fun inner => entries.put part (.table .dotted inner)
    | some (.table .implied inner) =>
      if path.isEmpty then none
      else (assign path key item inner).map fun inner => entries.put part (.table .implied inner)
    | some (.tables (.table origin inner :: older)) =>
      if path.isEmpty then none
      else
        (assign path key item inner).map fun inner =>
          entries.put part (.tables (.table origin inner :: older))
    | _ => none

/-- Works on the table that the parts of a header lead to, with tables made on the way. -/
def descend (work : Entries → Option Entries) : List String → Entries → Option Entries
  | [], entries => work entries
  | part :: path, entries =>
    match entries.lookup part with
    | none => (descend work path []).map fun inner => entries.put part (.table .implied inner)
    | some (.table origin inner) =>
      if origin = .braces then none
      else (descend work path inner).map fun inner => entries.put part (.table origin inner)
    | some (.tables (.table origin inner :: older)) =>
      (descend work path inner).map fun inner =>
        entries.put part (.tables (.table origin inner :: older))
    | _ => none

def openTable (key : String) (entries : Entries) : Option Entries :=
  match entries.lookup key with
  | none => some (entries.put key (.table .header []))
  | some (.table .implied inner) => some (entries.put key (.table .header inner))
  | _ => none

def openElement (key : String) (entries : Entries) : Option Entries :=
  match entries.lookup key with
  | none => some (entries.put key (.tables [.table .header []]))
  | some (.tables elements) => some (entries.put key (.tables (.table .header [] :: elements)))
  | _ => none

end Entries

end ThreeAddress.Toml
