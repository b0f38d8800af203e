import AdFilter.Text.NormalTable

/-!
# The composed normal form

Several sequences of code points can write one text. `normalise` chooses the shortest: it takes
every composed character apart (`decomposeNat`), puts the marks on each letter in the order of their
combining classes (`reorder`), and composes again what composes (`recompose`).

Syllables of Hangul are composed by arithmetic, all else by the tables.
-/

namespace AdFilter.Text

open NormalTable

/-! ## Syllables of Hangul -/

namespace Hangul

def firstLead : Nat := 0x1100
def firstVowel : Nat := 0x1161
/-- The code point before the first trailing consonant. -/
def beforeTrail : Nat := 0x11A7
def firstSyllable : Nat := 0xAC00
def leads : Nat := 19
def vowels : Nat := 21
/-- The number of trailing consonants, no consonant being one of them. -/
def trails : Nat := 28

/-- The parts of a syllable. -/
def parts? (n : Nat) : Option (List Nat) :=
  if firstSyllable ≤ n && n < firstSyllable + leads * vowels * trails then
    let i := n - firstSyllable
    let pair := [firstLead + i / (vowels * trails), firstVowel + i / trails % vowels]
    some (if i % trails = 0 then pair else pair ++ [beforeTrail + i % trails])
  else none

/-- The syllable of a leading consonant and a vowel, or of an open syllable and a consonant. -/
def compose? (a b : Nat) : Option Nat :=
  if firstLead ≤ a && a < firstLead + leads && firstVowel ≤ b && b < firstVowel + vowels then
    some (firstSyllable + ((a - firstLead) * vowels + (b - firstVowel)) * trails)
  else if (parts? a).any (·.length == 2) && beforeTrail < b && b < beforeTrail + trails then
    some (a + (b - beforeTrail))
  else none

end Hangul

/-! ## Taking apart -/

/-- The combining class of a code point: zero for what other characters combine with. -/
def combiningClass (n : Nat) : Nat :=
  if n < 0x300 then 0 else ((classes.find? fun k => k.2.any (·.contains n)).map (·.1)).getD 0

/-- The code points after `n` on the line of a table that begins with it. -/
def lineOf? (table : List (List Nat)) (n : Nat) : Option (List Nat) :=
  table.findSome? fun
    | m :: line => if m = n then some line else none
    | [] => none

/-- What a code point is made of, `fuel` layers deep. -/
def decomposeNat : Nat → Nat → List Nat
  | 0, n => [n]
  | fuel + 1, n =>
    if n < 0xC0 then [n]
    else match Hangul.parts? n with
      | some parts => parts
      | none => match lineOf? decomposed n with
        | some parts => parts
        | none => match lineOf? composites n with
          | some parts => parts.flatMap (decomposeNat fuel)
          | none => [n]

/-- No character of the standard is composed in more layers. -/
def deepest : Nat := 5

/-- Puts a code point in front of a list, behind the marks there that come before it. -/
def insertMark (n : Nat) : List Nat → List Nat
  | [] => [n]
  | m :: rest =>
    if 0 < combiningClass m && combiningClass m < combiningClass n then m :: insertMark n rest
    else n :: m :: rest

/-- Puts marks that follow each other in the order of their classes. -/
def reorder (ns : List Nat) : List Nat := ns.foldr insertMark []

/-! ## Putting together -/

/-- The composed character of two. -/
def compose? (a b : Nat) : Option Nat :=
  match Hangul.compose? a b with
  | some n => some n
  | none => composites.findSome? fun
    | [n, x, y] => if x = a && y = b then some n else none
    | _ => none

/-- Composes with `base` what follows it; `marks`, held backwards, did not compose with it. A mark
behind one of its own class or of a later one is out of reach. -/
def recomposeOnto (base : Nat) (marks : List Nat) : List Nat → List Nat
  | [] => base :: marks.reverse
  | n :: rest =>
    let composed := if marks.head?.all (combiningClass · < combiningClass n) then compose? base n
      else none
    match composed with
    | some m => recomposeOnto m marks rest
    | none =>
      if combiningClass n = 0 then base :: marks.reverse ++ recomposeOnto n [] rest
      else recomposeOnto base (n :: marks) rest

/-- Composes all that composes. -/
def recompose : List Nat → List Nat
  | [] => []
  | n :: rest => if combiningClass n = 0 then recomposeOnto n [] rest else n :: recompose rest

/-- The composed normal form of a text. ASCII is in it already. -/
def normalise (cs : List Char) : List Char :=
  if cs.all (·.toNat < 0x80) then cs
  else (recompose (reorder (cs.flatMap fun c => decomposeNat deepest c.toNat))).map Char.ofNat

end AdFilter.Text
