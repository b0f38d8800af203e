import AdFilter.Text.CaseTable
import AdFilter.Text.Property

/-!
# Letter case

* `lower` puts a text in lower case. One letter looks at its neighbours: a capital sigma at the end
  of a word becomes the final small sigma.
* `fold` sends a character to the one that stands for all its case variants, and `caseVariants`
  lists those.
-/

namespace AdFilter.Text

/-- The lower case of a character by itself. -/
def lowerChar (c : Char) : List Char :=
  if c.toNat < 0x80 then [c.toLower]
  else if c == 'İ' then ['i', '\u0307']
  else [Char.ofNat ((shift? CaseTable.lowercase c.toNat).getD c.toNat)]

/-- Whether the first character that is not case-ignorable is cased. -/
def casedAhead (cs : List Char) : Bool :=
  match cs.dropWhile isCaseIgnorable with
  | [] => false
  | c :: _ => isCased c

/-- Lower case of the characters after `before`, which is held backwards: a capital sigma with a
cased letter before it and none after it ends a word. -/
def lowerAfter (before : List Char) : List Char → List Char
  | [] => []
  | c :: rest =>
    (if c == 'Σ' then [if casedAhead before && !casedAhead rest then 'ς' else 'σ']
      else lowerChar c) ++ lowerAfter (c :: before) rest

/-- A text in lower case. -/
def lower (cs : List Char) : List Char := lowerAfter [] cs

/-- A text with its ASCII letters in lower case. -/
def lowerAscii (cs : List Char) : List Char := cs.map Char.toLower

/-- The code point that stands for all case variants of one. -/
def foldNat (n : Nat) : Nat := (shift? CaseTable.folding n).getD n

/-- The character that stands for all case variants of `c`. -/
def fold (c : Char) : Char := Char.ofNat (foldNat c.toNat)

/-- The case variants of a code point: the one that stands for all, then those it stands for. -/
def caseVariantsNat (n : Nat) : List Nat :=
  foldNat n :: CaseTable.folding.filterMap (·.source? (foldNat n))

/-- The characters that differ from `c` in case only, `c` among them. -/
def caseVariants (c : Char) : List Char := (caseVariantsNat c.toNat).map Char.ofNat

end AdFilter.Text
