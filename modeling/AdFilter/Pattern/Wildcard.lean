import AdFilter.Pattern.Reader

/-!
# Wildcard rules

A wildcard rule is a text to be found at the start of an address, in which `*` stands for any
stretch without a line feed, `^` for one separating character and `|` for the edge of a word.

* `Wildcard.source` writes the rule as a pattern: every character with a meaning in patterns is
  escaped, and the three escaped wildcards are then replaced;
* `Wildcard.Matches` says what a rule means, character by character and without patterns.
-/

namespace AdFilter.Wildcard

open Text

/-- A text in which every character that has a meaning in patterns is escaped. -/
def escape : List Char → List Char
  | [] => []
  | c :: cs =>
    if Pattern.metaCharacters.contains c then '\\' :: c :: escape cs else c :: escape cs

/-- A wildcard rule written as a pattern. -/
def source (rule : List Char) : List Char :=
  '^' :: replace "\\|".toList "\\b".toList
    (replace "\\^".toList "[^\\w\\-.%]".toList
      (replace "\\*".toList ".*".toList (escape rule)))

/-- A separating character is part of no word and none of `-`, `.` and `%`. -/
def isSeparator (c : Char) : Bool := !(isWord c || c == '-' || c == '.' || c == '%')

/-- A rule describes the stretch of a text from one cursor to another. -/
inductive Matches : List Char → Cursor → Cursor → Prop where
  | done (c : Cursor) : Matches [] c c
  | anyStop {rule : List Char} {c d : Cursor} (h : Matches rule c d) : Matches ('*' :: rule) c d
  | anyMore {rule : List Char} {x : Char} {i : Nat} {b : Option Char} {r : List Char} {d : Cursor}
      (hx : x ≠ '\n') (h : Matches ('*' :: rule) ⟨i + 1, some x, r⟩ d) :
      Matches ('*' :: rule) ⟨i, b, x :: r⟩ d
  | separator {rule : List Char} {x : Char} {i : Nat} {b : Option Char} {r : List Char}
      {d : Cursor} (hx : isSeparator x = true) (h : Matches rule ⟨i + 1, some x, r⟩ d) :
      Matches ('^' :: rule) ⟨i, b, x :: r⟩ d
  | edge {rule : List Char} {c d : Cursor}
      (hw : WordKind.unicode.isWord c.before ≠ WordKind.unicode.isWord c.rest.head?)
      (h : Matches rule c d) : Matches ('|' :: rule) c d
  | char {y x : Char} {rule : List Char} {i : Nat} {b : Option Char} {r : List Char} {d : Cursor}
      (hy : y ≠ '*' ∧ y ≠ '^' ∧ y ≠ '|') (hx : fold x = fold y)
      (h : Matches rule ⟨i + 1, some x, r⟩ d) : Matches (y :: rule) ⟨i, b, x :: r⟩ d

end AdFilter.Wildcard
