import AdFilter.Text.Category
import AdFilter.Text.DirectionTable

/-!
# Writing direction and joining

Which way a character is written, and whether its shape joins that of its neighbours. Both are
classes of the standard that the rules for domain names ask about.
-/

namespace AdFilter.Text

/-- The direction classes that rules for domain names tell apart. -/
inductive Direction where
  | leftToRight | rightToLeft | arabicLetter | arabicNumber
  | europeanNumber | europeanSeparator | commonSeparator | europeanTerminator
  | boundaryNeutral | otherNeutral | nonspacingMark
deriving Repr, DecidableEq

/-- The lists of direction classes; marks are told by their category, and what is on no list is
written from left to right. -/
def directionLists : List (Direction × List Run) := [
  (.rightToLeft, DirectionTable.rightToLeft),
  (.arabicLetter, DirectionTable.arabicLetter),
  (.arabicNumber, DirectionTable.arabicNumber),
  (.europeanNumber, DirectionTable.europeanNumber),
  (.europeanSeparator, DirectionTable.europeanSeparator),
  (.commonSeparator, DirectionTable.commonSeparator),
  (.europeanTerminator, DirectionTable.europeanTerminator),
  (.boundaryNeutral, DirectionTable.boundaryNeutral),
  (.otherNeutral, DirectionTable.otherNeutral),
  (.leftToRight, DirectionTable.leftToRightMark),
  (.nonspacingMark, Category.nonspacingMark.runs),
  (.nonspacingMark, Category.enclosingMark.runs)]

/-- The direction class of a character. -/
def direction (c : Char) : Direction :=
  ((directionLists.find? fun l => inRuns l.2 c).map (·.1)).getD .leftToRight

/-- On which sides the shape of a letter joins its neighbours. -/
inductive Joining where
  | none | left | right | both
  /-- joining looks through the character at the next one -/
  | transparent
deriving Repr, DecidableEq

/-- The joining class of a character. -/
def joining (c : Char) : Joining :=
  if inRuns DirectionTable.joinsBoth c then .both
  else if inRuns DirectionTable.joinsRight c then .right
  else if inRuns DirectionTable.joinsLeft c then .left
  else if inRuns DirectionTable.transparentExtra c then .transparent
  else if inCategories [.nonspacingMark, .enclosingMark, .format] c
      && !inRuns DirectionTable.joiningFormat c then .transparent
  else .none

end AdFilter.Text
