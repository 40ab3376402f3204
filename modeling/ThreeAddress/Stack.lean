import ThreeAddress.Error

set_option autoImplicit false

namespace ThreeAddress

/-- Values, the top first. -/
abbrev DataStack := List Value

/-- The indices of the calls that were not returned from, the newest first. -/
abbrev CallStack := List Nat

def DataStack.pop : DataStack → Except Fault (Value × DataStack)
  | [] => .error .dataStackEmpty
  | value :: rest => .ok (value, rest)

def CallStack.pop : CallStack → Except Fault (Nat × CallStack)
  | [] => .error .callStackEmpty
  | position :: rest => .ok (position, rest)

end ThreeAddress
