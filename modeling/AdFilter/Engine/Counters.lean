import AdFilter.Rule.Reason
import AdFilter.Text.Rounding

/-!
# Counters

How many decisions were made, and of which kinds. A summary of them is one line of text, in which
the share of blocked requests has one decimal.
-/

namespace AdFilter

open Text

/-- What has happened so far. -/
structure Counters where
  /-- requests judged -/
  checked : Nat := 0
  /-- requests blocked -/
  blocked : Nat := 0
  /-- of those, requests blocked for a reason of each kind -/
  ofKind : Reason.Kind → Nat := fun _ => 0
  /-- navigations suppressed -/
  suppressed : Nat := 0
  /-- navigations sent to the page that asked for them -/
  redirected : Nat := 0
  /-- refresh passes completed -/
  passes : Nat := 0

namespace Counters

def countChecked (c : Counters) : Counters := { c with checked := c.checked + 1 }

/-- Counts a blocked request for a reason of a kind. -/
def countBlocked (c : Counters) (k : Reason.Kind) : Counters :=
  { c with
    blocked := c.blocked + 1
    ofKind := fun l => if l = k then c.ofKind l + 1 else c.ofKind l }

def countNavigation (c : Counters) (isSuppressed : Bool) : Counters :=
  if isSuppressed then { c with suppressed := c.suppressed + 1 }
  else { c with redirected := c.redirected + 1 }

def countPass (c : Counters) : Counters := { c with passes := c.passes + 1 }

/-- The counts by kind, in the order of reports. -/
def byKind (c : Counters) : List (Reason.Kind × Nat) := Reason.Kind.all.map fun k => (k, c.ofKind k)

/-! ## The summary -/

/-- A number to the base 10. -/
def digits (n : Nat) : List Char := Nat.toDigits 10 n

/-- The text of a number of tenths. -/
def tenthsText (n : Nat) : List Char := digits (n / 10) ++ '.' :: digits (n % 10)

/-- The blocked requests for each hundred judged, in tenths. The quotient and the hundredfold of it
are machine numbers. -/
def tenthsBlocked (c : Counters) : Nat :=
  if c.checked = 0 then 0
  else
    let share := (Fraction.mk c.blocked c.checked).rounded
    let percent := (Fraction.mk (share.num * 100) share.den).rounded
    roundQuotient (percent.num * 10) percent.den

/-- The counts in one line. -/
def summary (c : Counters) : List Char :=
  "STATS DUMP: Checked: ".toList ++ digits c.checked ++ ", Blocked: ".toList ++ digits c.blocked ++
    " (".toList ++ tenthsText c.tenthsBlocked ++
    "%), Navigations suppressed/redirected: ".toList ++ digits c.suppressed ++ '/' ::
    digits c.redirected ++ ", Refreshes: ".toList ++ digits c.passes ++ [' '] ++
    (c.byKind.filter fun k => 0 < k.2).flatMap fun (k, n) =>
      '[' :: k.label ++ ": ".toList ++ digits n ++ "] ".toList

end Counters

end AdFilter
