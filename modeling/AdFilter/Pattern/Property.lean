import AdFilter.Text.AgeTable
import AdFilter.Text.ScriptTable
import AdFilter.Pattern.CharSet

/-!
# Properties by name

A pattern may name a property of characters: `\p{Greek}`, `\p{Lu}`, `\p{script=Greek}`. Names are
compared after folding, which drops blanks, underscores, hyphens, a leading `is` and letter case.

* `named?` looks a bare name up among the yes-or-no properties, the general categories and the
  scripts, in this order;
* `valued?` looks up a value of a property that has more than two.
-/

namespace AdFilter.Pattern

open Text

/-- A name as it is compared. -/
def foldName (name : List Char) : List Char :=
  let keep (cs : List Char) : List Char :=
    (cs.filter fun c => !(c == ' ' || c == '_' || c == '-') && c.toNat < 0x80).map Char.toLower
  match name with
  | i :: s :: rest =>
    if i.toLower == 'i' && s.toLower == 's' then
      -- the one abbreviation that starts with the syllable left out elsewhere
      if keep rest == ['c'] then "isc".toList else keep rest
    else keep name
  | short => keep short

/-- The yes-or-no properties under their folded names. -/
def binaryProperties : List (List String × (Char → Bool)) :=
  let listed (runs : List Run) : Char → Bool := inRuns runs
  [(["asciihexdigit", "ahex"], listed PropertyTable.asciiHexDigit),
    (["alphabetic", "alpha"], isAlphabetic),
    (["bidicontrol", "bidic"], listed PropertyTable.bidiControl),
    (["caseignorable", "ci"], isCaseIgnorable),
    (["cased"], isCased),
    (["changeswhencasefolded", "cwcf"], listed PropertyTable.changesWhenCasefolded),
    (["changeswhencasemapped", "cwcm"], fun c =>
      inRuns PropertyTable.changesWhenLowercased c ||
        inRuns PropertyTable.changesWhenTitlecased c ||
        inRuns PropertyTable.changesWhenUppercased c),
    (["changeswhenlowercased", "cwl"], listed PropertyTable.changesWhenLowercased),
    (["changeswhentitlecased", "cwt"], listed PropertyTable.changesWhenTitlecased),
    (["changeswhenuppercased", "cwu"], listed PropertyTable.changesWhenUppercased),
    (["dash"], listed PropertyTable.dash),
    (["defaultignorablecodepoint", "di"], isDefaultIgnorable),
    (["deprecated", "dep"], listed PropertyTable.deprecated),
    (["diacritic", "dia"], listed PropertyTable.diacritic),
    (["emoji"], listed PropertyTable.emoji),
    (["emojicomponent", "ecomp"], listed PropertyTable.emojiComponent),
    (["emojimodifier", "emod"], fun c => 0x1F3FB ≤ c.toNat && c.toNat ≤ 0x1F3FF),
    (["emojimodifierbase", "ebase"], listed PropertyTable.emojiModifierBase),
    (["emojipresentation", "epres"], listed PropertyTable.emojiPresentation),
    (["extendedpictographic", "extpict"], listed PropertyTable.extendedPictographic),
    (["extender", "ext"], listed PropertyTable.extender),
    (["graphemebase", "grbase"], fun c =>
      !(inCategories (Category.assignedOthers ++ [.unassigned, .lineSeparator, .paragraphSeparator])
        c) && !isGraphemeExtend c),
    (["graphemeextend", "grext"], isGraphemeExtend),
    (["hexdigit", "hex"], listed PropertyTable.hexDigit),
    (["hyphen"], listed PropertyTable.hyphen),
    (["idcompatmathcontinue"], fun c =>
      inRuns PropertyTable.idCompatMathStart c || inRuns PropertyTable.idCompatMathContinue c),
    (["idcompatmathstart"], listed PropertyTable.idCompatMathStart),
    (["idcontinue", "idc"], isIdContinue),
    (["idsbinaryoperator", "idsb"], listed PropertyTable.idsBinaryOperator),
    (["idstrinaryoperator", "idst"], fun c => c == '⿲' || c == '⿳'),
    (["idsunaryoperator", "idsu"], fun c => c == '\u2ffe' || c == '\u2fff'),
    (["idstart", "ids"], isIdStart),
    (["ideographic", "ideo"], listed PropertyTable.ideographic),
    (["joincontrol", "joinc"], isJoinControl),
    (["logicalorderexception", "loe"], listed PropertyTable.logicalOrderException),
    (["lowercase", "lower"], isLowercase),
    (["math"], fun c => Category.mathSymbol.contains c || inRuns PropertyTable.otherMath c),
    (["modifiercombiningmark", "mcm"], listed PropertyTable.modifierCombiningMark),
    (["noncharactercodepoint", "nchar"], fun c =>
      (0xFDD0 ≤ c.toNat && c.toNat ≤ 0xFDEF) || c.toNat % 0x10000 ≥ 0xFFFE),
    (["otheralphabetic", "oalpha"], listed PropertyTable.otherAlphabetic),
    (["otherdefaultignorablecodepoint", "odi"], listed PropertyTable.otherDefaultIgnorable),
    (["othergraphemeextend", "ogrext"], listed PropertyTable.otherGraphemeExtend),
    (["otheridcontinue", "oidc"], listed PropertyTable.otherIdContinue),
    (["otheridstart", "oids"], listed PropertyTable.otherIdStart),
    (["otherlowercase", "olower"], listed PropertyTable.otherLowercase),
    (["othermath", "omath"], listed PropertyTable.otherMath),
    (["otheruppercase", "oupper"], listed PropertyTable.otherUppercase),
    (["patternsyntax", "patsyn"], listed PropertyTable.patternSyntax),
    (["patternwhitespace", "patws"], listed PropertyTable.patternWhiteSpace),
    (["prependedconcatenationmark", "pcm"], listed PropertyTable.prependedConcatenationMark),
    (["quotationmark", "qmark"], listed PropertyTable.quotationMark),
    (["radical"], listed PropertyTable.radical),
    (["regionalindicator", "ri"], fun c => 0x1F1E6 ≤ c.toNat && c.toNat ≤ 0x1F1FF),
    (["sentenceterminal", "sterm"], listed PropertyTable.sentenceTerminal),
    (["softdotted", "sd"], listed PropertyTable.softDotted),
    (["terminalpunctuation", "term"], listed PropertyTable.terminalPunctuation),
    (["unifiedideograph", "uideo"], listed PropertyTable.unifiedIdeograph),
    (["uppercase", "upper"], isUppercase),
    (["variationselector", "vs"], listed PropertyTable.variationSelector),
    (["whitespace", "wspace", "space"], isBlank),
    (["xidcontinue", "xidc"], fun c =>
      isIdContinue c && !inRuns PropertyTable.notExtendedContinue c),
    (["xidstart", "xids"], fun c => isIdStart c && !inRuns PropertyTable.notExtendedStart c)]

/-- The general categories and their groups under their folded names. -/
def categoryNames : List (List String × List Category) :=
  [(["uppercaseletter", "lu"], [.uppercaseLetter]), (["lowercaseletter", "ll"], [.lowercaseLetter]),
    (["titlecaseletter", "lt"], [.titlecaseLetter]), (["modifierletter", "lm"], [.modifierLetter]),
    (["otherletter", "lo"], [.otherLetter]), (["nonspacingmark", "mn"], [.nonspacingMark]),
    (["spacingmark", "mc"], [.spacingMark]), (["enclosingmark", "me"], [.enclosingMark]),
    (["decimalnumber", "nd", "digit"], [.decimalNumber]), (["letternumber", "nl"], [.letterNumber]),
    (["othernumber", "no"], [.otherNumber]),
    (["connectorpunctuation", "pc"], [.connectorPunctuation]),
    (["dashpunctuation", "pd"], [.dashPunctuation]),
    (["openpunctuation", "ps"], [.openPunctuation]),
    (["closepunctuation", "pe"], [.closePunctuation]),
    (["initialpunctuation", "pi"], [.initialPunctuation]),
    (["finalpunctuation", "pf"], [.finalPunctuation]),
    (["otherpunctuation", "po"], [.otherPunctuation]), (["mathsymbol", "sm"], [.mathSymbol]),
    (["currencysymbol", "sc"], [.currencySymbol]), (["modifiersymbol", "sk"], [.modifierSymbol]),
    (["othersymbol", "so"], [.otherSymbol]), (["spaceseparator", "zs"], [.spaceSeparator]),
    (["lineseparator", "zl"], [.lineSeparator]),
    (["paragraphseparator", "zp"], [.paragraphSeparator]), (["control", "cc", "cntrl"], [.control]),
    (["format", "cf"], [.format]), (["privateuse", "co"], [.privateUse]),
    (["unassigned", "cn"], [.unassigned]), (["casedletter", "lc"], Category.casedLetters),
    (["letter", "l"], Category.letters), (["mark", "m", "combiningmark"], Category.marks),
    (["number", "n"], Category.numbers), (["punctuation", "p", "punct"], Category.punctuation),
    (["symbol", "s"], Category.symbols), (["separator", "z"], Category.separators),
    (["other", "c"], .unassigned :: Category.assignedOthers)]

/-- The entry of a table that has a name. -/
def lookUp? {α : Type} (table : List (List String × α)) (name : List Char) : Option α :=
  (table.find? fun e => e.1.contains (String.ofList name)).map (·.2)

/-- The general category of a folded name, or one of the three sets that go by its rules. -/
def category? (name : List Char) : Option CharSet :=
  if name = "any".toList then some (.having fun _ => true)
  else if name = "assigned".toList then some (.having fun c => !Category.unassigned.contains c)
  else if name = "ascii".toList then some (.having fun c => c.toNat < 0x80)
  else (lookUp? categoryNames name).map fun ks => .having (inCategories ks)

/-- The script of a folded name. -/
def script? (name : List Char) : Option Script :=
  scripts.find? fun s => s.names.contains (String.ofList name)

/-- The characters of a script, and with `shared` those it has in common with others. A script that
stands for many, or for what is before it, has only the characters that no other shares. -/
def scriptSet (s : Script) (shared : Bool) : CharSet :=
  if !shared then .having (inRuns s.own)
  else if s.names.contains "common" || s.names.contains "inherited" then
    .having fun c => inRuns s.own c && !scripts.any fun t => inRuns t.shared c
  else .having fun c => inRuns s.own c || inRuns s.shared c

/-- The code points that the standard had assigned by a version. -/
def ageSet? (version : List Char) : Option CharSet :=
  if ages.any fun a => a.names.contains (String.ofList version) then
    some (.unions ((ages.takeWhile fun a => !a.names.contains (String.ofList version)).map
      (fun a => .having (inRuns a.added)) ++
      ((ages.filter fun a => a.names.contains (String.ofList version)).map
        fun a => .having (inRuns a.added))))
  else none

/-- The characters that have a property with a bare name. -/
def named? (name : List Char) : Option CharSet :=
  let n := foldName name
  -- three names that also abbreviate properties without a test, and mean the category
  let property := if n = "cf".toList || n = "sc".toList || n = "lc".toList then none
    else (lookUp? binaryProperties n).map CharSet.having
  property <|> category? n <|> (script? n).map (scriptSet · false)

/-- The characters that have a value of a property. -/
def valued? (name value : List Char) : Option CharSet :=
  let n := String.ofList (foldName name)
  let v := foldName value
  if ["generalcategory", "gc", "category"].contains n then category? v
  else if ["script", "sc"].contains n then (script? v).map (scriptSet · false)
  else if ["scriptextensions", "scx"].contains n then (script? v).map (scriptSet · true)
  else if n == "age" then ageSet? v
  else none

end AdFilter.Pattern
