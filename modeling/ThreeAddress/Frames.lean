import ThreeAddress.Error

set_option autoImplicit false

namespace ThreeAddress

/-- The variables of one scope, newest first. -/
structure Frame where
  slots : List (String × Value) := []
  deriving DecidableEq, Repr

namespace Frame

def get? (frame : Frame) (name : String) : Option Value :=
  frame.slots.lookup name

def declare (frame : Frame) (name : String) : Frame :=
  ⟨(name, .unset) :: frame.slots⟩

def set (frame : Frame) (name : String) (value : Value) : Frame :=
  ⟨frame.slots.map fun slot => if slot.1 = name then (name, value) else slot⟩

def size (frame : Frame) : Nat :=
  frame.slots.length

end Frame

/-- All frames of a run; the newest local frame comes first. -/
structure Frames where
  global : Frame := {}
  temporary : Option Frame := none
  locals : List Frame := []
  deriving DecidableEq, Repr

namespace Frames

def depth (frames : Frames) : Nat :=
  frames.locals.length

def frame? (frames : Frames) : Scope → Option Frame
  | .global => some frames.global
  | .localTop => frames.locals.head?
  | .temporary => frames.temporary

/-- Puts a frame in the place of the one that a scope has. -/
def setFrame (frames : Frames) (scope : Scope) (frame : Frame) : Frames :=
  match scope with
  | .global => { frames with global := frame }
  | .localTop => { frames with locals := frame :: frames.locals.tail }
  | .temporary => { frames with temporary := some frame }

/-- A fresh temporary frame; an old one is lost. -/
def createTemporary (frames : Frames) : Frames :=
  { frames with temporary := some {} }

/-- The temporary frame becomes the newest local one. -/
def push (frames : Frames) : Except Fault Frames :=
  match frames.temporary with
  | none => .error .noTemporary
  | some frame => .ok { frames with temporary := none, locals := frame :: frames.locals }

/-- The newest local frame becomes the temporary one. -/
def pop (frames : Frames) : Except Fault Frames :=
  match frames.locals with
  | [] => .error .noLocal
  | frame :: rest => .ok { frames with temporary := some frame, locals := rest }

def frame (frames : Frames) (scope : Scope) : Except Fault Frame :=
  match frames.frame? scope with
  | none => .error (.missingFrame scope)
  | some frame => .ok frame

def declare (frames : Frames) (v : VarRef) : Except Fault Frames :=
  match frames.frame v.scope with
  | .error fault => .error fault
  | .ok frame =>
    match frame.get? v.name with
    | some _ => .error (.variableRedefinition v.display)
    | none => .ok (frames.setFrame v.scope (frame.declare v.name))

/-- The value of a variable; a scope without a frame is an error about the frame. -/
def resolve (frames : Frames) (v : VarRef) : Except Fault Value :=
  match frames.frame v.scope with
  | .error fault => .error fault
  | .ok frame =>
    match frame.get? v.name with
    | none => .error (.undefinedVariable v)
    | some value => .ok value

/-- Changes a variable and gives its old value; a scope without a frame is an error about the frame. -/
def replace (frames : Frames) (v : VarRef) (value : Value) : Except Fault (Value × Frames) :=
  match frames.frame v.scope with
  | .error fault => .error fault
  | .ok frame =>
    match frame.get? v.name with
    | none => .error (.undefinedVariable v)
    | some old => .ok (old, frames.setFrame v.scope (frame.set v.name value))

/-- The value of an operand's variable; a scope without a frame is an error about the variable. -/
def lookup (frames : Frames) (v : VarRef) : Except Fault Value :=
  match frames.frame? v.scope with
  | none => .error (.unreachableVariable v)
  | some _ => frames.resolve v

/-- Changes an operand's variable; a scope without a frame is an error about the variable. -/
def assign (frames : Frames) (v : VarRef) (value : Value) : Except Fault Frames :=
  match frames.frame? v.scope with
  | none => .error (.unreachableVariable v)
  | some _ => (frames.replace v value).map Prod.snd

end Frames

end ThreeAddress
