/-!
# Turning blocking off

Blocking is on or off, and while it is on it may pause until some moment. Times count milliseconds
of a clock that never goes back.
-/

namespace AdFilter

/-- The switch and the pause. -/
structure Toggle where
  enabled : Bool := true
  /-- when the pause ends, if one was made -/
  pausedUntil : Option Nat := none
deriving Repr, DecidableEq

namespace Toggle

/-- The first moment that the clock cannot tell: it counts seconds in 63 bits. -/
def endOfTime : Nat := Nat.pow 2 63 * 1000

/-- Why a pause cannot be made. -/
inductive PauseError where
  /-- it would end after the last moment -/
  | endsTooLate
deriving Repr, DecidableEq

def PauseError.text : PauseError → List Char
  | endsTooLate => "overflow when adding duration to instant".toList

def setEnabled (t : Toggle) (on : Bool) : Toggle := { t with enabled := on }

/-- Pauses for some time from now, in the place of the pause there is. -/
def pauseFor (t : Toggle) (now duration : Nat) : Except PauseError Toggle :=
  if now + duration < endOfTime then .ok { t with pausedUntil := some (now + duration) }
  else .error .endsTooLate

def resume (t : Toggle) : Toggle := { t with pausedUntil := none }

/-- How long the pause still lasts, unless it is over. -/
def remaining? (t : Toggle) (now : Nat) : Option Nat :=
  match t.pausedUntil with
  | some stop => if now < stop then some (stop - now) else none
  | none => none

/-- Whether requests are blocked: blocking is on and does not pause. -/
def isActive (t : Toggle) (now : Nat) : Bool := t.enabled && (t.remaining? now).isNone

end Toggle

end AdFilter
