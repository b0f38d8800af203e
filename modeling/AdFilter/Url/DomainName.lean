import AdFilter.Text.Direction
import AdFilter.Text.Layout
import AdFilter.Text.Normal
import AdFilter.Url.MappingTable
import AdFilter.Url.Punycode

/-!
# Domain names

A domain name is a row of labels with dots between them. A name typed in any script is brought into
ASCII: each character is mapped to what it stands for, the whole is put in the composed normal
form, and a label that still has characters beyond ASCII is written in Punycode behind `xn--`.
A label that comes in that form is read back and has to pass the same tests.

* `mapChar?` and `isForbidden` say which characters may occur at all;
* `Label.isValid` holds the rules for one label, `fitsDirection` those for mixed directions;
* `DomainName.ascii?` puts them together.
-/

namespace AdFilter.Url

open Text

/-! ## Characters -/

/-- What a character of a name stands for; nothing for one that is left out. -/
def mapChar? (c : Char) : Option (List Char) :=
  if c.toNat < 0x80 then some [c.toLower]
  else if inRuns MappingTable.kept c then some [c]
  else if inRuns MappingTable.dropped c then some []
  else match shift? MappingTable.replaced c.toNat with
    | some n => some [Char.ofNat n]
    | none => (lineOf? MappingTable.expanded c.toNat).map (·.map Char.ofNat)

/-- Characters that have a meaning in an address, and controls. -/
def isForbidden (c : Char) : Bool :=
  c.toNat ≤ 0x20 || c.toNat = 0x7F || "%#/:<>?@[\\]^|".toList.contains c

/-! ## Labels -/

namespace Label

/-- What a label written in Punycode begins with. -/
def mark : List Char := "xn--".toList

/-- The combining class of the signs that take a vowel away. -/
def viramaClass : Nat := 9

/-- Whether a virama stands at the end of a text that is held backwards. -/
def afterVirama (before : List Char) : Bool :=
  before.head?.any (combiningClass ·.toNat == viramaClass)

/-- Whether the nearest letter, looking through transparent characters, joins on a given side. -/
def joins (side : Joining) (cs : List Char) : Bool :=
  match (cs.map joining).dropWhile (· == .transparent) with
  | [] => false
  | j :: _ => j == side || j == .both

/-- Whether every joining control stands where it may: behind a virama, or, if it forbids joining,
between two letters that would join. `before` holds what stands in front, backwards. -/
def controlsFit (before : List Char) : List Char → Bool
  | [] => true
  | c :: rest =>
    (if c == '\u200c' then afterVirama before || (joins .left before && joins .right rest)
      else if c == '\u200d' then afterVirama before
      else true) && controlsFit (c :: before) rest

/-- Whether a label, read back from Punycode if it was written so, is well-formed. -/
def isValid (label : List Char) : Bool := !label.head?.any isMark && controlsFit [] label

/-- The text of a label, read back from Punycode if it begins with the mark for that. A text in
Punycode has to need it, and to be as mapping and normal form leave it. -/
def text? (label : List Char) : Option (List Char) :=
  match dropFront? mark label with
  | none => some label
  | some code => do
    let text ← Punycode.decode? code
    if code.any (0x80 ≤ ·.toNat) || text.all (·.toNat < 0x80) then none
    else if text.all (fun c => c.toNat < 0x80 || inRuns MappingTable.kept c)
        && normalise text == text then return text
    else none

/-- A label in ASCII. -/
def ascii? (label : List Char) : Option (List Char) :=
  if label.all (·.toNat < 0x80) then some label else (Punycode.encode? label).map (mark ++ ·)

end Label

/-! ## Directions -/

/-- Whether a character is written from right to left, or is a digit of a script that is. Hebrew
comes first among those. -/
def isRightward (c : Char) : Bool :=
  0x590 ≤ c.toNat && [Direction.rightToLeft, .arabicLetter, .arabicNumber].contains (direction c)

/-- Directions that are found in labels of either direction. -/
def neutralDirections : List Direction :=
  [.europeanNumber, .europeanSeparator, .commonSeparator, .europeanTerminator, .boundaryNeutral,
    .otherNeutral, .nonspacingMark]

/-- Whether a label may be part of a name in which some character is written from right to left:
its direction is that of its first character, all others go with it, and it does not end in a
neutral one. -/
def fitsDirection (label : List Char) : Bool :=
  let ds := label.map direction
  let last := (ds.reverse.dropWhile (· == .nonspacingMark)).head?
  match ds with
  | [] => true
  | .leftToRight :: _ =>
    ds.all (fun d => d == .leftToRight || neutralDirections.contains d) &&
      last.any [Direction.leftToRight, .europeanNumber].contains
  | .rightToLeft :: _ | .arabicLetter :: _ =>
    ds.all (fun d => [Direction.rightToLeft, .arabicLetter, .arabicNumber].contains d ||
        neutralDirections.contains d) &&
      last.any [Direction.rightToLeft, .arabicLetter, .europeanNumber, .arabicNumber].contains &&
      !(ds.contains .europeanNumber && ds.contains .arabicNumber)
  | _ => false

/-! ## Names -/

/-- A domain name in ASCII. -/
def DomainName.ascii? (name : List Char) : Option (List Char) := do
  let mapped := normalise (← name.mapM mapChar?).flatten
  if mapped.any isForbidden then none
  else
    let labels := splitOn '.' mapped
    let texts ← labels.mapM Label.text?
    if !texts.all Label.isValid then none
    else if texts.flatten.any isRightward && !texts.all fitsDirection then none
    else
      let name := joinWith ['.'] (← labels.mapM Label.ascii?)
      if name.isEmpty then none else return name

end AdFilter.Url
