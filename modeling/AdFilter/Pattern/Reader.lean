import AdFilter.Pattern.Bracket

/-!
# Reading a pattern

`Pattern.ofSource?` reads the written form of a pattern: sequences, alternatives with `|`, groups,
repetitions, bracket expressions and escapes. What cannot be read is no pattern. There are no
references back into the text and no conditions on whole stretches ahead or behind, so every pattern
can be searched for in time polynomial in the text.

The reader moves from left to right with the groups that are open in a list, innermost first. It
refuses patterns nested more than `nestLimit` levels deep.
-/

namespace AdFilter

open Text

namespace Pattern

/-- A part of a pattern, the depth of its written form, and whether it can be repeated; a mere
change of flags cannot. -/
structure Piece where
  pattern : Pattern
  depth : Nat
  repeatable : Bool := true

/-- Pieces one after the other. One piece is itself; several are one level deeper. -/
def Piece.sequence (pieces : List Piece) : Piece :=
  match pieces with
  | [] => ⟨.empty, 0, true⟩
  | [p] => p
  | ps => ⟨.seqs (ps.map (·.pattern)), 1 + (ps.map (·.depth)).foldr max 0, true⟩

/-- Alternatives. One is itself; several are one level deeper. -/
def Piece.choice (pieces : List Piece) : Piece :=
  match pieces with
  | [] => ⟨.empty, 0, true⟩
  | [p] => p
  | ps => ⟨.alts (ps.map (·.pattern)), 1 + (ps.map (·.depth)).foldr max 0, true⟩

/-- What has been read of one group, or of the pattern outside groups. -/
structure Progress where
  /-- the alternatives that are complete, latest first -/
  finished : List Piece := []
  /-- the pieces of the one that is not, latest first -/
  pieces : List Piece := []

namespace Progress

def add (g : Progress) (p : Piece) : Progress := { g with pieces := p :: g.pieces }

/-- The alternative being read, as it stands. -/
def current (g : Progress) : Piece := Piece.sequence g.pieces.reverse

/-- Begins the next alternative. -/
def alternate (g : Progress) : Progress := { finished := g.current :: g.finished, pieces := [] }

/-- All that has been read. -/
def whole (g : Progress) : Piece := Piece.choice (g.current :: g.finished).reverse

/-- Repeats the last piece. -/
def repeatLast? (g : Progress) (least : Nat) (most : Option Nat) : Option Progress :=
  match g.pieces with
  | [] => none
  | p :: ps =>
    if p.repeatable then
      some { g with pieces := ⟨p.pattern.repeated least most, 1 + p.depth, true⟩ :: ps }
    else none

end Progress

/-! ## Groups and their flags -/

/-- One letter of a list of flags. -/
def Flags.set? (fl : Flags) (on : Bool) : Char → Option Flags
  | 'i' => some { fl with caseless := on }
  | 'm' => some { fl with multiLine := on }
  | 's' => some { fl with dotAll := on }
  | 'U' => some fl  -- which repetitions are long ones does not matter for a search
  | 'u' => some { fl with unicode := on }
  | 'R' => some { fl with crlf := on }
  | 'x' => some { fl with spaced := on }
  | _ => none

/-- Reads letters of flags up to `:` or `)`, which stays out and is reported, with the letters read.
Neither a letter nor a minus sign may occur twice, and a minus sign is not the last. -/
def readFlags? (fl : Flags) (seen : List Char) :
    List Char → Option (Flags × List Char × Char × List Char)
  | [] => none
  | c :: rest =>
    if c == ':' || c == ')' then
      if seen.head? == some '-' then none else some (fl, seen, c, rest)
    else if seen.contains c then none
    else if c == '-' then readFlags? fl (c :: seen) rest
    else match fl.set? (!seen.contains '-') c with
      | none => none
      | some fl => readFlags? fl (c :: seen) rest

/-- The characters a group's name may have, and may start with. -/
def isNameChar (first : Bool) (c : Char) : Bool :=
  c == '_' || isAlphabetic c ||
    (!first && (c == '.' || c == '[' || c == ']' || inCategories Category.numbers c))

/-- Reads the name of a group up to `>`. -/
def readGroupName? (cs : List Char) : Option (List Char × List Char) :=
  match cs.takeWhile (· != '>'), cs.dropWhile (· != '>') with
  | c :: name, _ :: rest =>
    if isNameChar true c && name.all (isNameChar false) then some (c :: name, rest) else none
  | _, _ => none

/-- What an opening parenthesis begins. -/
inductive Opening where
  /-- a change of flags, with no group -/
  | flags (fl : Flags)
  /-- a group under some flags -/
  | group (fl : Flags)
  /-- a group with a name -/
  | named (name : List Char)

/-- Reads what follows an opening parenthesis. -/
def readOpening? (fl : Flags) (cs : List Char) : Option (Opening × List Char) :=
  match fl.skip cs with
  | '?' :: 'P' :: '<' :: rest => (readGroupName? rest).map fun (name, rest) => (.named name, rest)
  | '?' :: '<' :: rest =>
    match rest with
    | '=' :: _ | '!' :: _ => none
    | _ => (readGroupName? rest).map fun (name, rest) => (.named name, rest)
  | '?' :: rest => do
    let (flags, seen, last, rest) ← readFlags? fl [] rest
    if last == ':' then return (.group flags, rest)
    else if seen.isEmpty then none
    else return (.flags flags, rest)
  | rest => some (.group fl, rest)

/-! ## Repetition -/

/-- Reads decimal digits, which blanks may surround and, where they do not count, separate. -/
def readDigits (fl : Flags) (digits : List Char) : Nat → List Char → List Char × List Char
  | fuel + 1, c :: rest =>
    if c.isDigit then readDigits fl (c :: digits) fuel (fl.skip rest)
    else (digits.reverse, c :: rest)
  | _, cs => (digits.reverse, cs)

/-- Reads a decimal number below 2^32. -/
def readCount? (fl : Flags) (cs : List Char) : Option (Nat × List Char) :=
  let (digits, rest) := readDigits fl [] cs.length (trimStart cs)
  let n := digits.foldl (fun n c => n * 10 + (c.toNat - '0'.toNat)) 0
  if digits.isEmpty || Nat.pow 2 32 ≤ n then none else some (n, fl.skip (trimStart rest))

/-- Reads the bounds of a repetition after the opening brace, and the closing one. -/
def readBounds? (fl : Flags) (cs : List Char) : Option ((Nat × Option Nat) × List Char) := do
  let (least, rest) ← readCount? fl (fl.skip cs)
  match rest with
  | '}' :: rest => return ((least, some least), fl.skip rest)
  | ',' :: rest =>
    match fl.skip rest with
    | '}' :: rest => return ((least, none), fl.skip rest)
    | rest =>
      let (most, rest) ← readCount? fl rest
      match rest with
      | '}' :: rest => if least ≤ most then return ((least, some most), fl.skip rest) else none
      | _ => none
  | _ => none

/-- Drops the mark of a short repetition, which does not matter for a search. -/
def dropShortMark : List Char → List Char
  | '?' :: rest => rest
  | cs => cs

/-! ## The whole -/

/-- A group that has been opened: what was read outside before, and the flags there. -/
structure OpenGroup where
  outside : Progress
  flags : Flags

/-- Reads on to the end of the pattern, under the flags in force, in the group being read and the
open groups around it; `names` are those of the groups so far. -/
def readFrom : Nat → Flags → Progress → List OpenGroup → List (List Char) → List Char →
    Option Piece
  | 0, _, _, _, _, _ => none
  | fuel + 1, fl, g, outer, names, cs =>
    match fl.skip cs with
    | [] => if outer.isEmpty then some g.whole else none
    | '(' :: rest => do
      match ← readOpening? fl rest with
      | (.flags fl, rest) => readFrom fuel fl (g.add ⟨.empty, 0, false⟩) outer names rest
      | (.group inner, rest) => readFrom fuel inner {} (⟨g, fl⟩ :: outer) names rest
      | (.named name, rest) =>
        if names.contains name then none
        else readFrom fuel fl {} (⟨g, fl⟩ :: outer) (name :: names) rest
    | ')' :: rest =>
      match outer with
      | [] => none
      | o :: outer =>
        let group : Piece := ⟨g.whole.pattern, 1 + g.whole.depth, true⟩
        readFrom fuel o.flags (o.outside.add group) outer names rest
    | '|' :: rest => readFrom fuel fl g.alternate outer names rest
    | '[' :: rest => do
      let (piece, rest) ← readBracket? fl rest
      readFrom fuel fl (g.add ⟨.one piece.set, piece.depth, true⟩) outer names rest
    | '?' :: rest => do
      readFrom fuel fl (← g.repeatLast? 0 (some 1)) outer names (dropShortMark rest)
    | '*' :: rest => do
      readFrom fuel fl (← g.repeatLast? 0 none) outer names (dropShortMark rest)
    | '+' :: rest => do
      readFrom fuel fl (← g.repeatLast? 1 none) outer names (dropShortMark rest)
    | '{' :: rest => do
      let ((least, most), rest) ← readBounds? fl rest
      readFrom fuel fl (← g.repeatLast? least most) outer names (dropShortMark rest)
    | rest => do
      let (part, rest) ← readPrimitive? fl rest
      readFrom fuel fl (g.add ⟨← part.pattern? fl, 0, true⟩) outer names rest

/-- How deeply the written form of a pattern may be nested. -/
def nestLimit : Nat := 250

/-- The pattern that a text writes. -/
def ofSource? (source : List Char) : Option Pattern := do
  let piece ← readFrom (source.length + 1) {} {} [] [] source
  if piece.depth ≤ nestLimit then return piece.pattern else none

end Pattern

end AdFilter
