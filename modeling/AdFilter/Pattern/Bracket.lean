import AdFilter.Pattern.Primitive

/-!
# Bracket expressions

A bracket expression `[…]` lists characters, ranges, classes and further bracket expressions, joined
by `&&`, `--` and `~~`. The reader keeps the brackets that are open in a list, innermost first, so
that it moves through the pattern from left to right and never back.

Beside the set it reports how deeply the expression is nested, which a pattern as a whole limits.
-/

namespace AdFilter.Pattern

open Text

/-- The operators between the parts of a bracket expression. -/
inductive SetOp where
  | inter | diff | symmDiff
deriving Repr, DecidableEq

def SetOp.apply : SetOp → CharSet → CharSet → CharSet
  | inter => .inter
  | diff => .diff
  | symmDiff => .symmDiff

/-- A set and the depth of the expression for it. -/
structure SetPiece where
  set : CharSet
  depth : Nat

/-- Some pieces side by side. One piece is itself; several are one level deeper. -/
def SetPiece.union (pieces : List SetPiece) : SetPiece :=
  match pieces with
  | [] => ⟨.none, 0⟩
  | [p] => p
  | ps => ⟨.unions (ps.map (·.set)), 1 + (ps.map (·.depth)).foldr max 0⟩

/-- A bracket that has been opened. -/
structure OpenBracket where
  negated : Bool
  /-- the operator last read, and what stands in front of it -/
  pending : Option (SetOp × SetPiece) := none
  /-- what has been read since, latest first -/
  pieces : List SetPiece := []

namespace OpenBracket

/-- Adds what has been read. -/
def add (b : OpenBracket) (p : SetPiece) : OpenBracket := { b with pieces := p :: b.pieces }

/-- All that has been read, with the pending operator applied. -/
def operand (fl : Flags) (b : OpenBracket) : SetPiece :=
  let right := SetPiece.union b.pieces.reverse
  match b.pending with
  | none => right
  | some (op, left) =>
    ⟨op.apply (fl.folded left.set) (fl.folded right.set), 1 + max left.depth right.depth⟩

/-- Puts an operator behind what has been read. -/
def operate (fl : Flags) (b : OpenBracket) (op : SetOp) : OpenBracket :=
  { b with pending := some (op, b.operand fl), pieces := [] }

/-- The set of a bracket that is closed. -/
def close? (fl : Flags) (b : OpenBracket) : Option SetPiece := do
  let inner := b.operand fl
  return ⟨← fl.complement? b.negated (fl.folded inner.set), 1 + inner.depth⟩

end OpenBracket

/-- The classes of ASCII characters that have names. -/
def asciiClasses : List (String × CharSet) :=
  let lower := CharSet.range 'a' 'z'
  let upper := CharSet.range 'A' 'Z'
  let digit := CharSet.range '0' '9'
  let alpha := CharSet.union lower upper
  [("alnum", .union alpha digit), ("alpha", alpha), ("ascii", .range '\x00' '\x7f'),
    ("blank", .list ['\t', ' ']), ("cntrl", .union (.range '\x00' '\x1f') (.list ['\x7f'])),
    ("digit", digit), ("graph", .range '!' '~'), ("lower", lower), ("print", .range ' ' '~'),
    ("punct", .diff (.range '!' '~') (.union alpha digit)),
    ("space", .list ['\t', '\n', '\x0b', '\x0c', '\r', ' ']), ("upper", upper),
    ("word", .union (.union alpha digit) (.list ['_'])),
    ("xdigit", .union digit (.union (.range 'a' 'f') (.range 'A' 'F')))]

/-- Reads the name of an ASCII class up to `:]`, after `[`. What is no such name is no failure: the
bracket then opens an expression of its own. -/
def readAsciiClass? (cs : List Char) : Option (Bool × CharSet × List Char) :=
  match cs with
  | ':' :: '^' :: rest => read true rest
  | ':' :: rest => read false rest
  | _ => none
where
  /-- Reads the name itself. -/
  read (negated : Bool) (cs : List Char) : Option (Bool × CharSet × List Char) := do
    let rest ← dropFront? [':', ']'] (cs.dropWhile (· != ':'))
    let set ← (asciiClasses.find? fun e => e.1.toList == cs.takeWhile (· != ':')).map (·.2)
    return (negated, set, rest)

/-- Reads hyphens, which are themselves at the start of an expression. -/
def readHyphens (fl : Flags) (b : OpenBracket) : Nat → List Char → OpenBracket × List Char
  | fuel + 1, '-' :: rest => readHyphens fl (b.add ⟨.list ['-'], 0⟩) fuel (fl.skip rest)
  | _, cs => (b, cs)

/-- Reads the start of a bracket expression, after `[`: the sign of a complement, then hyphens or a
closing bracket that stand for themselves. -/
def openBracket (fl : Flags) (cs : List Char) : OpenBracket × List Char :=
  let cs := fl.skip cs
  let (negated, cs) := match cs with
    | '^' :: rest => (true, fl.skip rest)
    | _ => (false, cs)
  match readHyphens fl { negated } cs.length cs with
  | (b, ']' :: rest) =>
    if b.pieces.isEmpty then (b.add ⟨.list [']'], 0⟩, fl.skip rest) else (b, ']' :: rest)
  | result => result

/-- Reads one part inside brackets, where only a backslash has a meaning. -/
def readInBrackets? (fl : Flags) : List Char → Option (Primitive × List Char)
  | [] => none
  | '\\' :: cs => readEscape? fl cs
  | c :: cs => some (.char c false, cs)

/-- The character behind the first one, blanks and a comment sign between them left out. -/
def peekSkipping? (fl : Flags) (cs : List Char) : Option Char :=
  if !fl.spaced then cs.head?
  else match cs.dropWhile isBlank with
    | '#' :: rest => (rest.dropWhile isBlank).head? <|> cs.head?
    | [] => cs.head?
    | c :: _ => some c

/-- The character of a part that is one. -/
def Primitive.char? (fl : Flags) : Primitive → Option Char
  | char c _ => if fl.unicode || c.toNat < 0x80 then some c else none
  | _ => none

/-- Reads a character, class or range inside brackets. -/
def readMember? (fl : Flags) (cs : List Char) : Option (CharSet × List Char) := do
  let (first, rest) ← readInBrackets? fl cs
  match fl.skip rest with
  | [] => none
  | '-' :: more =>
    let next := peekSkipping? fl more
    if next == some ']' || next == some '-' then return (← first.set? fl, '-' :: more)
    else
      let (last, rest) ← readInBrackets? fl (fl.skip more)
      let lo ← first.char? fl
      let hi ← last.char? fl
      if lo ≤ hi then return (.range lo hi, rest) else none
  | rest => return (← first.set? fl, rest)

/-- Reads on in the brackets that are open, up to the end of the outermost. -/
def readBrackets (fl : Flags) :
    Nat → OpenBracket → List OpenBracket → List Char → Option (SetPiece × List Char)
  | 0, _, _, _ => none
  | fuel + 1, b, outer, cs =>
    match fl.skip cs with
    | [] => none
    | '[' :: rest =>
      match readAsciiClass? rest with
      | some (negated, set, rest) => do
        let set ← fl.complement? negated (fl.folded set)
        readBrackets fl fuel (b.add ⟨set, 0⟩) outer rest
      | none =>
        let (inner, rest) := openBracket fl rest
        readBrackets fl fuel inner (b :: outer) rest
    | ']' :: rest => do
      let piece ← b.close? fl
      match outer with
      | [] => return (piece, rest)
      | b' :: outer => readBrackets fl fuel (b'.add piece) outer rest
    | '&' :: '&' :: rest => readBrackets fl fuel (b.operate fl .inter) outer rest
    | '-' :: '-' :: rest => readBrackets fl fuel (b.operate fl .diff) outer rest
    | '~' :: '~' :: rest => readBrackets fl fuel (b.operate fl .symmDiff) outer rest
    | c :: rest => do
      let (set, rest) ← readMember? fl (c :: rest)
      readBrackets fl fuel (b.add ⟨set, 0⟩) outer rest

/-- Reads a bracket expression, after its `[`. -/
def readBracket? (fl : Flags) (cs : List Char) : Option (SetPiece × List Char) :=
  let (b, rest) := openBracket fl cs
  readBrackets fl (cs.length + 1) b [] rest

end AdFilter.Pattern
