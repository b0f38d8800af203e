import AdFilter.Text.Category
import AdFilter.Text.PropertyTable

/-!
# Properties of characters

The yes-or-no properties of the standard. Most follow from the general categories by a rule, with a
short list of exceptions; the rest are lists. `isWord` and `isBlank`, on which the rules of the
library lean most, answer for ASCII without a table.
-/

namespace AdFilter.Text

open Category PropertyTable

/-- White space: what is trimmed from the ends of a text and separates its words. -/
def isBlank (c : Char) : Bool :=
  let n := c.toNat
  (9 ≤ n && n ≤ 13) || n == 0x20 || n == 0x85 || n == 0xA0 || n == 0x1680 ||
    (0x2000 ≤ n && n ≤ 0x200A) || n == 0x2028 || n == 0x2029 || n == 0x202F || n == 0x205F ||
    n == 0x3000

def isLowercase (c : Char) : Bool := lowercaseLetter.contains c || inRuns otherLowercase c

def isUppercase (c : Char) : Bool := uppercaseLetter.contains c || inRuns otherUppercase c

/-- A cased character is in lower, upper or title case. -/
def isCased (c : Char) : Bool :=
  if c.toNat < 0x80 then c.isAlpha
  else isLowercase c || isUppercase c || titlecaseLetter.contains c

/-- A case-ignorable character does not count when the neighbours of a letter are looked at. -/
def isCaseIgnorable (c : Char) : Bool :=
  if c.toNat < 0x80 then c == '\'' || c == '.' || c == ':' || c == '^' || c == '\x60'
  else inCategories [nonspacingMark, enclosingMark, format, modifierLetter, modifierSymbol] c ||
    inRuns wordMiddle c

def isAlphabetic (c : Char) : Bool :=
  isLowercase c || isUppercase c ||
    inCategories [titlecaseLetter, modifierLetter, otherLetter, letterNumber] c ||
    inRuns otherAlphabetic c

/-- The two invisible characters that ask for or forbid joining. -/
def isJoinControl (c : Char) : Bool := c == '\u200c' || c == '\u200d'

/-- Word characters: letters, marks, decimal digits, connectors such as `_`, and the two controls
that ask letters to join or not to. -/
def isWord (c : Char) : Bool :=
  if c.toNat < 0x80 then c.isAlphanum || c == '_'
  else isAlphabetic c || inCategories (marks ++ [decimalNumber, connectorPunctuation]) c ||
    isJoinControl c

/-- Characters that extend the grapheme before them. -/
def isGraphemeExtend (c : Char) : Bool :=
  inCategories [nonspacingMark, enclosingMark] c || inRuns otherGraphemeExtend c

def isDefaultIgnorable (c : Char) : Bool :=
  (format.contains c && !inRuns visibleFormat c) || inRuns variationSelector c ||
    inRuns otherDefaultIgnorable c

/-- What identifiers keep clear of. -/
def isPattern (c : Char) : Bool := inRuns patternSyntax c || inRuns patternWhiteSpace c

def isIdStart (c : Char) : Bool :=
  (inCategories (letters ++ [letterNumber]) c || inRuns otherIdStart c) && !isPattern c

def isIdContinue (c : Char) : Bool :=
  (inCategories (letters ++ [letterNumber, nonspacingMark, spacingMark, decimalNumber,
    connectorPunctuation]) c || inRuns otherIdStart c || inRuns otherIdContinue c) && !isPattern c

/-- Whether showing the character leaves a mark or a plain space on the page. -/
def isPrintable (c : Char) : Bool :=
  if c.toNat < 0x80 then 0x20 ≤ c.toNat && c.toNat < 0x7F
  else !(inCategories ([spaceSeparator, lineSeparator, paragraphSeparator, unassigned]
    ++ assignedOthers) c)

end AdFilter.Text
