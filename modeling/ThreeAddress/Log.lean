import ThreeAddress.Log.Directive

set_option autoImplicit false

namespace ThreeAddress.Log

abbrev Filter := List Directive

/-- The directives of a text, each still as text. -/
def directives (text : String) : List String :=
  (text.splitOn ",").filter (· != "")

/-- Reads a filter and leaves out what is no directive. Without any, only errors pass. -/
def Filter.parse (text : String) : Filter :=
  match (directives text).filterMap fun text => (Directive.parse text).toOption with
  | [] => [{ rank := Level.error.rank }]
  | filter => filter

def complaint? (text : String) : Option String :=
  match Directive.parse text with
  | .ok _ => none
  | .error error => some ("ignoring `" ++ text ++ "`: " ++ error.message)

/-- What is said about the directives that are left out. -/
def Filter.complaints (text : String) : List String :=
  (directives text).filterMap complaint?

/-- The directive that decides about an event: of those that are about it, the one that all others give
way to. -/
def Filter.deciding? (filter : Filter) (event : Event) : Option Directive :=
  (filter.filter (·.isAbout event)).foldl
    (fun best directive =>
      match best with
      | some other => if other.givesWay directive then some directive else best
      | none => some directive)
    none

def Filter.passes (filter : Filter) (event : Event) : Bool :=
  match filter.deciding? event with
  | some directive => event.level.rank ≤ directive.rank
  | none => false

def Filter.isSilent (filter : Filter) : Bool :=
  filter.all fun directive => !directive.isForEvents || directive.rank < Level.info.rank

/-- The line of an event: its level, right-aligned, its origin, its words and its particulars. -/
def line (event : Event) : String :=
  Instruction.padLeft 5 event.level.name ++ " " ++ event.origin ++ ": " ++ event.message
    ++ String.join (event.fields.map fun field => " " ++ field.1 ++ "=" ++ field.2)

def lines (filter : Filter) (events : List Event) : List String :=
  (events.filter filter.passes).map line

end ThreeAddress.Log
