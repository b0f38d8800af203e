import AdFilter.Pattern.Basic
import AdFilter.Pattern.Property
import AdFilter.Text.Layout
import AdFilter.Text.Number

/-!
# The smallest parts of a written pattern

What one character or one backslash sequence of a written pattern stands for, under the flags in
force where it is written.

* `Flags` are the switches `(?imsuxR)`;
* `Primitive` is the part as written, read by `readPrimitive?` and `readEscape?`;
* `Primitive.pattern?` and `Primitive.set?` give its meaning outside and inside brackets.
-/

namespace AdFilter.Pattern

open Text

/-- The switches a pattern may turn on and off. Matching ignores letter case unless told. -/
structure Flags where
  /-- letter case does not count -/
  caseless : Bool := true
  /-- `^` and `$` also match at the ends of lines -/
  multiLine : Bool := false
  /-- `.` also matches a line feed -/
  dotAll : Bool := false
  /-- characters are those of the whole repertoire, not ASCII alone -/
  unicode : Bool := true
  /-- blanks and comments in the pattern do not count -/
  spaced : Bool := false
  /-- carriage returns end lines as well -/
  crlf : Bool := false
deriving Repr, DecidableEq

namespace Flags

def wordKind (fl : Flags) : WordKind := if fl.unicode then .unicode else .ascii

/-- A set with the case variants of its members, if letter case does not count. -/
def folded (fl : Flags) (s : CharSet) : CharSet :=
  if fl.caseless then (if fl.unicode then .caseless s else .caselessAscii s) else s

/-- The complement of a set, if asked for. Outside the full repertoire a complement would hold
parts of characters, so there is none. -/
def complement? (fl : Flags) (negated : Bool) (s : CharSet) : Option CharSet :=
  if !negated then some s else if fl.unicode then some (.compl s) else none

end Flags

/-- A pattern without the blanks and comments at its start; `inComment` while one is open. -/
def dropSpace (inComment : Bool) : List Char → List Char
  | [] => []
  | c :: cs =>
    if inComment then dropSpace (c != '\n') cs
    else if isBlank c then dropSpace false cs
    else if c == '#' then dropSpace true cs
    else c :: cs

/-- A pattern without the blanks and comments at its start, where these do not count. -/
def Flags.skip (fl : Flags) (cs : List Char) : List Char :=
  if fl.spaced then dropSpace false cs else cs

/-- The classes written as one letter. -/
inductive LetterClass where
  | digit | space | word
deriving Repr, DecidableEq

/-- The members of a class in the full repertoire or in ASCII. -/
def LetterClass.set (fl : Flags) : LetterClass → CharSet
  | digit => if fl.unicode then .having Category.decimalNumber.contains else .range '0' '9'
  | space =>
    if fl.unicode then .having isBlank
    else .list [' ', '\t', '\n', '\r', '\x0b', '\x0c']
  | word => if fl.unicode then .having isWord else .having isAsciiWord

/-- One smallest part of a pattern, as written. -/
inductive Primitive where
  /-- a character; `asByte` if it was written as two hexadecimal digits -/
  | char (c : Char) (asByte : Bool)
  | dot
  | lineStart
  | lineEnd
  | textStart
  | textEnd
  /-- a condition that asks for word characters -/
  | word (l : WordKind → Look)
  | letterClass (k : LetterClass) (negated : Bool)
  | property (s : CharSet) (negated : Bool)

/-! ## Reading -/

/-- Reads so many hexadecimal digits. -/
def readHex (fl : Flags) : Nat → Nat → List Char → Option (Nat × List Char)
  | 0, value, cs => some (value, cs)
  | _ + 1, _, [] => none
  | n + 1, value, c :: cs => do
    let d ← digit? 16 c
    readHex fl n (value * 16 + d) (fl.skip cs)

/-- Reads up to a closing brace, which stays out; blanks that do not count are left out. -/
def readBraced (fl : Flags) : Nat → List Char → Option (List Char × List Char)
  | 0, _ => none
  | fuel + 1, cs =>
    match fl.skip cs with
    | [] => none
    | '}' :: rest => some ([], rest)
    | c :: rest => do
      let (inner, rest) ← readBraced fl fuel rest
      return (c :: inner, rest)

/-- The number written by hexadecimal digits, of which there is one at least. -/
def hexValue? (digits : List Char) : Option Nat :=
  if digits.isEmpty then none else number? 16 digits

/-- Reads a character given by its number, after the letter that says how many digits it has. -/
def readNumbered (fl : Flags) (digits : Nat) (cs : List Char) : Option (Primitive × List Char) :=
  match fl.skip cs with
  | '{' :: rest => do
    let (inner, rest) ← readBraced fl (rest.length + 1) rest
    let c ← charOfNat? (← hexValue? inner)
    return (.char c false, fl.skip rest)
  | rest => do
    let (n, rest) ← readHex fl digits 0 rest
    let c ← charOfNat? n
    return (.char c (digits == 2), rest)

/-- A text cut at the first occurrence of another, which goes. -/
def cutAt? (sep : List Char) : List Char → Option (List Char × List Char)
  | [] => none
  | c :: cs =>
    if sep.isPrefixOf (c :: cs) then some ([], (c :: cs).drop sep.length)
    else (cutAt? sep cs).map fun (front, back) => (c :: front, back)

/-- The set a property description in braces asks for. -/
def describedSet? (inner : List Char) : Option CharSet :=
  match cutAt? ['!', '='] inner <|> cutAt? [':'] inner <|> cutAt? ['='] inner with
  | some (name, value) => valued? name value
  | none => named? inner

/-- Reads the name of a property, after the letter that announces it. -/
def readProperty (fl : Flags) (negated : Bool) (cs : List Char) :
    Option (Primitive × List Char) :=
  match fl.skip cs with
  | [] => none
  | '{' :: rest => do
    let (inner, rest) ← readBraced fl (rest.length + 1) rest
    return (.property (← describedSet? inner) negated, rest)
  | '\\' :: _ => none
  | c :: rest => do return (.property (← named? [c]) negated, fl.skip rest)

/-- The characters that have a meaning of their own outside brackets. -/
def metaCharacters : List Char := "\\.+*?()|[]\x7b\x7d^$#&-~".toList

/-- The characters that a backslash leaves as they are. -/
def isEscapable (c : Char) : Bool :=
  metaCharacters.contains c || (c.toNat < 0x80 && !c.isAlphanum && c != '<' && c != '>')

/-- The characters in the name of a special word boundary. -/
def isBoundaryNameChar (c : Char) : Bool := c.isAlpha || c == '-'

/-- Reads the name of a special word boundary up to its closing brace. -/
def readBoundaryName (fl : Flags) : Nat → List Char → Option (List Char × List Char)
  | 0, _ => none
  | _ + 1, [] => none
  | fuel + 1, c :: rest =>
    if c == '}' then some ([], rest)
    else if isBoundaryNameChar c then do
      let (name, rest) ← readBoundaryName fl fuel (fl.skip rest)
      return (c :: name, rest)
    else none

/-- Reads what may follow the letter of a word boundary: a special kind in braces. -/
def readBoundary (fl : Flags) (cs : List Char) : Option (Primitive × List Char) :=
  match cs with
  | '{' :: rest =>
    match fl.skip rest with
    | [] => none
    | c :: rest =>
      if isBoundaryNameChar c then do
        let (name, rest) ← readBoundaryName fl (rest.length + 2) (c :: rest)
        if name = "start".toList then return (.word .wordStart, rest)
        if name = "end".toList then return (.word .wordEnd, rest)
        if name = "start-half".toList then return (.word .wordStartHalf, rest)
        if name = "end-half".toList then return (.word .wordEndHalf, rest)
        none
      else some (.word .wordBoundary, cs)
  | _ => some (.word .wordBoundary, cs)

/-- Reads what a backslash announces. -/
def readEscape? (fl : Flags) : List Char → Option (Primitive × List Char)
  | [] => none
  | 'x' :: cs => readNumbered fl 2 cs
  | 'u' :: cs => readNumbered fl 4 cs
  | 'U' :: cs => readNumbered fl 8 cs
  | 'p' :: cs => readProperty fl false cs
  | 'P' :: cs => readProperty fl true cs
  | 'd' :: cs => some (.letterClass .digit false, cs)
  | 'D' :: cs => some (.letterClass .digit true, cs)
  | 's' :: cs => some (.letterClass .space false, cs)
  | 'S' :: cs => some (.letterClass .space true, cs)
  | 'w' :: cs => some (.letterClass .word false, cs)
  | 'W' :: cs => some (.letterClass .word true, cs)
  | 'a' :: cs => some (.char '\x07' false, cs)
  | 'f' :: cs => some (.char '\x0c' false, cs)
  | 't' :: cs => some (.char '\t' false, cs)
  | 'n' :: cs => some (.char '\n' false, cs)
  | 'r' :: cs => some (.char '\r' false, cs)
  | 'v' :: cs => some (.char '\x0b' false, cs)
  | 'A' :: cs => some (.textStart, cs)
  | 'z' :: cs => some (.textEnd, cs)
  | 'b' :: cs => readBoundary fl cs
  | 'B' :: cs => some (.word .noWordBoundary, cs)
  | '<' :: cs => some (.word .wordStart, cs)
  | '>' :: cs => some (.word .wordEnd, cs)
  | c :: cs => if isEscapable c then some (.char c false, cs) else none

/-- Reads one smallest part of a pattern. -/
def readPrimitive? (fl : Flags) : List Char → Option (Primitive × List Char)
  | [] => none
  | '\\' :: cs => readEscape? fl cs
  | '.' :: cs => some (.dot, cs)
  | '^' :: cs => some (.lineStart, cs)
  | '$' :: cs => some (.lineEnd, cs)
  | c :: cs => some (.char c false, cs)

/-! ## Meaning -/

/-- The set that a part stands for inside brackets. -/
def Primitive.set? (fl : Flags) : Primitive → Option CharSet
  | char c _ => if fl.unicode || c.toNat < 0x80 then some (.list [c]) else none
  | letterClass k negated => fl.complement? negated (k.set fl)
  | property s negated => if fl.unicode then fl.complement? negated (fl.folded s) else none
  | _ => none

/-- A character in a pattern, with its case variants if letter case does not count. -/
def charPattern (fl : Flags) (c : Char) : Pattern :=
  if !fl.caseless then .one (.list [c])
  else if fl.unicode then .one (.like c)
  else .one (.likeAscii c)

/-- The pattern that a part stands for outside brackets. -/
def Primitive.pattern? (fl : Flags) : Primitive → Option Pattern
  | char c asByte =>
    if !fl.unicode && asByte && 0x80 ≤ c.toNat then none else some (charPattern fl c)
  | dot =>
    if !fl.unicode then none
    else if fl.dotAll then some (.one (.compl .none))
    else if fl.crlf then some (.one (.compl (.list ['\r', '\n'])))
    else some (.one (.compl (.list ['\n'])))
  | lineStart =>
    some (.look (if !fl.multiLine then .textStart else if fl.crlf then .anyLineStart
      else .lineStart))
  | lineEnd =>
    some (.look (if !fl.multiLine then .textEnd else if fl.crlf then .anyLineEnd else .lineEnd))
  | textStart => some (.look .textStart)
  | textEnd => some (.look .textEnd)
  | word l => some (.look (l fl.wordKind))
  | letterClass k negated => (fl.complement? negated (k.set fl)).map .one
  | property s negated =>
    if fl.unicode then (fl.complement? negated (fl.folded s)).map .one else none

end AdFilter.Pattern
