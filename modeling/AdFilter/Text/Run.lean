/-!
# Runs of code points

The standard gives a property of characters as a long list of code points. Here such a list is
kept as a list of *runs*: every `step`-th code point from a first one to a last one. A step other
than one occurs where an alphabet alternates between capital and small letters.

* `Run` and `inRuns` decide membership;
* `Shift` and `shift?` are runs that also say where each code point is sent, all of one run by the
  same distance.

A table writes a run as one hexadecimal number whose digit groups are set apart: the first code
point, six digits for the last, one for the step, and for a shift six more for the image of the
first code point. A group of code points of any length is written in the same way, six digits
for each.
-/

namespace AdFilter.Text

/-- Every `step`-th code point from `first` to `last`. -/
structure Run where
  first : Nat
  last : Nat
  step : Nat
deriving Repr, DecidableEq

namespace Run

/-- The run that a table writes as `first_last_step`. -/
def ofCode (n : Nat) : Run := ⟨n >>> 28, (n >>> 4) % 0x1000000, n % 16⟩

/-- The runs that a table writes as a list of numbers. -/
def ofCodes (codes : List Nat) : List Run := codes.map ofCode

/-- Whether a code point lies on the run. -/
def contains (r : Run) (n : Nat) : Bool :=
  Nat.ble r.first n && Nat.ble n r.last && Nat.beq ((n - r.first) % r.step) 0

end Run

/-- Whether a character lies on one of the runs. -/
def inRuns (runs : List Run) (c : Char) : Bool := runs.any (·.contains c.toNat)

/-- A run whose members all move by the same distance: `first` goes to `target`. -/
structure Shift where
  run : Run
  target : Nat
deriving Repr, DecidableEq

namespace Shift

/-- The shift that a table writes as `first_last_step_target`. -/
def ofCode (n : Nat) : Shift := ⟨Run.ofCode (n >>> 24), n % 0x1000000⟩

/-- The shifts that a table writes as a list of numbers. -/
def ofCodes (codes : List Nat) : List Shift := codes.map ofCode

/-- Where a member of the run goes. -/
def image? (s : Shift) (n : Nat) : Option Nat :=
  if s.run.contains n then some (n - s.run.first + s.target) else none

/-- The member of the run that goes to a given code point. -/
def source? (s : Shift) (t : Nat) : Option Nat :=
  if Nat.ble s.target t && s.run.contains (t - s.target + s.run.first) then
    some (t - s.target + s.run.first)
  else none

/-- `source?` finds only code points that the shift sends to the target. -/
theorem image?_of_source? {s : Shift} {t n : Nat} (h : s.source? t = some n) :
    s.image? n = some t := by
  unfold source? at h
  split at h
  · rename_i hc
    simp only [Bool.and_eq_true, Nat.ble_eq] at hc
    cases h
    simp only [image?, hc.2, if_true]
    congr 1
    omega
  · cases h

/-- `source?` finds the code point that the shift sends to the target. -/
theorem source?_of_image? {s : Shift} {t n : Nat} (h : s.image? n = some t) :
    s.source? t = some n := by
  unfold image? at h
  split at h
  · rename_i hc
    have hle : s.run.first ≤ n := by
      simp only [Run.contains, Bool.and_eq_true, Nat.ble_eq] at hc
      exact hc.1.1
    cases h
    have e : n - s.run.first + s.target - s.target + s.run.first = n := by omega
    have hb : Nat.ble s.target (n - s.run.first + s.target) = true := by
      rw [Nat.ble_eq]; omega
    simp only [source?, e, hc, hb, Bool.and_self, if_true]
  · cases h

end Shift

/-- Where a code point goes by the first shift that moves it. -/
def shift? (shifts : List Shift) (n : Nat) : Option Nat := shifts.findSome? (·.image? n)

/-- The last `fuel` groups of six hexadecimal digits of a number, put in front of `tail`; groups of
zeros in front are left out. -/
def groupsInto : Nat → Nat → List Nat → List Nat
  | 0, _, tail => tail
  | fuel + 1, n, tail => if n = 0 then tail else groupsInto fuel (n >>> 24) (n % 0x1000000 :: tail)

/-- The code points that a table writes as one number, six digits for each but the first. -/
def groupsOfCode (n : Nat) : List Nat := groupsInto 32 n []

/-- The groups that a table writes as a list of numbers. -/
def groupsOfCodes (codes : List Nat) : List (List Nat) := codes.map groupsOfCode

end AdFilter.Text
