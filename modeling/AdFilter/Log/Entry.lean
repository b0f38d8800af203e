/-!
# Entries of the decision log

What was decided about an address, and why.
-/

namespace AdFilter

/-- What was decided. -/
inductive Action where
  | allowed
  | blocked
  /-- a navigation was dropped -/
  | suppressed
  /-- a navigation was sent to the page that asked for it -/
  | redirected
deriving Repr, DecidableEq

namespace Action

def label : Action → List Char
  | allowed => "Allowed".toList
  | blocked => "Blocked".toList
  | suppressed => "Suppressed".toList
  | redirected => "Redirected".toList

/-- Whether something was kept from loading. -/
def isBlock : Action → Bool
  | blocked | suppressed => true
  | allowed | redirected => false

end Action

/-- A decision. -/
structure LogEntry where
  /-- the address, as it was given -/
  url : List Char
  action : Action
  /-- the reason in words, if there is one -/
  reason : Option (List Char) := none
  /-- how long it took, in microseconds -/
  latency : Nat := 0
deriving Repr, DecidableEq

end AdFilter
