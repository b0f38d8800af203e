import AdFilter.Text.Property

/-!
# Lines, words and ends of a text

A text is handled as the list of its characters, so that every rule here is a recursion on it.

* `trim` takes white space off both ends;
* `lines` ends a line at a line feed and drops one carriage return in front of it;
* `words` are the longest stretches without white space;
* `splitOn` cuts at a character, and `joinWith` is its inverse;
* `replace` and `occursIn` look for one text inside another, from the left.
-/

namespace AdFilter.Text

def trimStart (cs : List Char) : List Char := cs.dropWhile isBlank

/-- A text without the characters at its end that satisfy `p`. -/
def dropEndWhile (p : Char → Bool) (cs : List Char) : List Char := (cs.reverse.dropWhile p).reverse

def trimEnd (cs : List Char) : List Char := dropEndWhile isBlank cs

def trim (cs : List Char) : List Char := trimEnd (trimStart cs)

/-- Puts a character in front of the first line, or makes it a line of its own. -/
def pushFront (c : Char) : List (List Char) → List (List Char)
  | [] => [[c]]
  | l :: ls => (c :: l) :: ls

/-- The lines of a text. A last line need not be ended, and keeps a carriage return. -/
def lines : List Char → List (List Char)
  | [] => []
  | '\n' :: cs => [] :: lines cs
  | '\r' :: '\n' :: cs => [] :: lines cs
  | c :: cs => pushFront c (lines cs)

/-- The longest stretches without white space. -/
def words : List Char → List (List Char)
  | [] => []
  | c :: cs =>
    if isBlank c then words cs
    else match cs with
      | [] => [[c]]
      | d :: _ => if isBlank d then [c] :: words cs else pushFront c (words cs)

/-- The parts of a text between the occurrences of a character, of which there is always one more
than occurrences. -/
def splitOn (sep : Char) : List Char → List (List Char)
  | [] => [[]]
  | c :: cs => if c = sep then [] :: splitOn sep cs else pushFront c (splitOn sep cs)

/-- Texts one after the other, with `sep` between each two. -/
def joinWith (sep : List Char) (parts : List (List Char)) : List Char := sep.intercalate parts

/-- Whether one text occurs in another. -/
def occursIn (s : List Char) : List Char → Bool
  | [] => s.isEmpty
  | c :: cs => s.isPrefixOf (c :: cs) || occursIn s cs

theorem occursIn_iff {s t : List Char} : occursIn s t = true ↔ s <:+: t := by
  induction t with
  | nil => simp [occursIn, List.isEmpty_iff]
  | cons c cs ih => simp [occursIn, ih, List.infix_cons_iff]

/-- What follows `s` at the start of a text. -/
def dropFront? (s t : List Char) : Option (List Char) :=
  if s.isPrefixOf t then some (t.drop s.length) else none

/-- Puts `new` for every occurrence of `old`, from the left and without overlap; `skip` characters
still belong to an occurrence already replaced. -/
def replaceSkipping (old new : List Char) : Nat → List Char → List Char
  | _, [] => []
  | skip + 1, _ :: cs => replaceSkipping old new skip cs
  | 0, c :: cs =>
    if old.isPrefixOf (c :: cs) then new ++ replaceSkipping old new (old.length - 1) cs
    else c :: replaceSkipping old new 0 cs

/-- A text with `new` for every occurrence of a text `old` that is not empty. -/
def replace (old new cs : List Char) : List Char := replaceSkipping old new 0 cs

/-- The number of bytes of a character in UTF-8. -/
def utf8Length : List Char → Nat
  | [] => 0
  | c :: cs => c.utf8Size + utf8Length cs

end AdFilter.Text
