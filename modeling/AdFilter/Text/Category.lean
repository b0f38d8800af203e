import AdFilter.Text.CategoryTable

/-!
# General categories

Every code point has one general category. `Category.contains` decides membership from the tables;
a code point on none of them is unassigned. The groups of categories that have names of their own
(letters, marks, …) are lists of categories.
-/

namespace AdFilter.Text

/-- The general categories. Surrogates are code points but no characters, so none is in theirs. -/
inductive Category where
  | uppercaseLetter | lowercaseLetter | titlecaseLetter | modifierLetter | otherLetter
  | nonspacingMark | spacingMark | enclosingMark
  | decimalNumber | letterNumber | otherNumber
  | connectorPunctuation | dashPunctuation | openPunctuation | closePunctuation
  | initialPunctuation | finalPunctuation | otherPunctuation
  | mathSymbol | currencySymbol | modifierSymbol | otherSymbol
  | spaceSeparator | lineSeparator | paragraphSeparator
  | control | format | surrogate | privateUse | unassigned
deriving Repr, DecidableEq

namespace Category

/-- The runs of an assigned category. -/
def runs : Category → List Run
  | uppercaseLetter => CategoryTable.uppercaseLetter
  | lowercaseLetter => CategoryTable.lowercaseLetter
  | titlecaseLetter => CategoryTable.titlecaseLetter
  | modifierLetter => CategoryTable.modifierLetter
  | otherLetter => CategoryTable.otherLetter
  | nonspacingMark => CategoryTable.nonspacingMark
  | spacingMark => CategoryTable.spacingMark
  | enclosingMark => CategoryTable.enclosingMark
  | decimalNumber => CategoryTable.decimalNumber
  | letterNumber => CategoryTable.letterNumber
  | otherNumber => CategoryTable.otherNumber
  | connectorPunctuation => CategoryTable.connectorPunctuation
  | dashPunctuation => CategoryTable.dashPunctuation
  | openPunctuation => CategoryTable.openPunctuation
  | closePunctuation => CategoryTable.closePunctuation
  | initialPunctuation => CategoryTable.initialPunctuation
  | finalPunctuation => CategoryTable.finalPunctuation
  | otherPunctuation => CategoryTable.otherPunctuation
  | mathSymbol => CategoryTable.mathSymbol
  | currencySymbol => CategoryTable.currencySymbol
  | modifierSymbol => CategoryTable.modifierSymbol
  | otherSymbol => CategoryTable.otherSymbol
  | spaceSeparator => CategoryTable.spaceSeparator
  | lineSeparator => CategoryTable.lineSeparator
  | paragraphSeparator => CategoryTable.paragraphSeparator
  | control => CategoryTable.control
  | format => CategoryTable.format
  | privateUse => CategoryTable.privateUse
  | surrogate | unassigned => []

/-- Letters that have a case. -/
def casedLetters : List Category := [uppercaseLetter, lowercaseLetter, titlecaseLetter]

def letters : List Category := casedLetters ++ [modifierLetter, otherLetter]

def marks : List Category := [nonspacingMark, spacingMark, enclosingMark]

def numbers : List Category := [decimalNumber, letterNumber, otherNumber]

def punctuation : List Category :=
  [connectorPunctuation, dashPunctuation, openPunctuation, closePunctuation, initialPunctuation,
    finalPunctuation, otherPunctuation]

def symbols : List Category := [mathSymbol, currencySymbol, modifierSymbol, otherSymbol]

def separators : List Category := [spaceSeparator, lineSeparator, paragraphSeparator]

/-- The assigned categories outside the other groups. -/
def assignedOthers : List Category := [control, format, surrogate, privateUse]

def assigned : List Category :=
  letters ++ marks ++ numbers ++ punctuation ++ symbols ++ separators ++ assignedOthers

/-- Whether a character is in the category. -/
def contains (k : Category) (c : Char) : Bool :=
  match k with
  | unassigned => !(assigned.any fun k => inRuns k.runs c)
  | k => inRuns k.runs c

end Category

/-- Whether a character is in one of the categories. -/
def inCategories (ks : List Category) (c : Char) : Bool := ks.any (·.contains c)

/-- A mark sits on or beside the character before it. -/
def isMark (c : Char) : Bool := inCategories Category.marks c

end AdFilter.Text
