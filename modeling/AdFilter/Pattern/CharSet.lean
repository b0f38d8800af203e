import AdFilter.Text.Case

/-!
# Sets of characters

The sets that bracket expressions describe, as a syntax with a membership test. The only operations
with a rule of their own are `caseless` and `caselessAscii`, which close a set under change of
letter case, in the whole repertoire or among the ASCII letters.
-/

namespace AdFilter

/-- A set of characters. -/
inductive CharSet where
  | list (xs : List Char)
  /-- the characters from `lo` to `hi`, both included -/
  | range (lo hi : Char)
  /-- the characters with a property -/
  | having (p : Char → Bool)
  | union (s t : CharSet)
  | inter (s t : CharSet)
  | diff (s t : CharSet)
  /-- the characters in exactly one of two sets -/
  | symmDiff (s t : CharSet)
  | compl (s : CharSet)
  /-- the characters with a case variant in a set -/
  | caseless (s : CharSet)
  /-- the characters in a set, and the ASCII letters whose other case is in it -/
  | caselessAscii (s : CharSet)

namespace CharSet

open Text

/-- Whether a character is in the set. -/
def contains : CharSet → Char → Bool
  | list xs, c => xs.contains c
  | range lo hi, c => lo ≤ c && c ≤ hi
  | having p, c => p c
  | union s t, c => s.contains c || t.contains c
  | inter s t, c => s.contains c && t.contains c
  | diff s t, c => s.contains c && !t.contains c
  | symmDiff s t, c => s.contains c != t.contains c
  | compl s, c => !s.contains c
  | caseless s, c => s.contains c || (caseVariants c).any s.contains
  | caselessAscii s, c => s.contains c || s.contains c.toLower || s.contains c.toUpper

/-- The set without members. -/
def none : CharSet := list []

/-- The characters that differ from `x` in case only. -/
def like (x : Char) : CharSet := list (x :: caseVariants x)

/-- The characters that are `x` or, as ASCII letters, its other case. -/
def likeAscii (x : Char) : CharSet := list [x, x.toLower, x.toUpper]

/-- The characters in one of several sets. -/
def unions (ss : List CharSet) : CharSet := ss.foldr union none

end CharSet

/-- The ASCII characters that make up words. -/
def isAsciiWord (c : Char) : Bool := c.isAlphanum || c == '_'

end AdFilter
