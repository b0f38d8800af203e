import AdFilter.Pattern.CharSet

/-!
# Patterns

A pattern describes stretches of a text. It is built from sets of characters and from conditions on
a place between characters, by sequence, choice and repetition.

* `Cursor` is a place in a text: how far in it is, the character before it and all that follows;
* `Matches` says which stretches a pattern describes, each from a cursor to a later one;
* `Pattern.ends` computes the ends of all stretches that begin at one of a set of cursors. Sets of
  cursors are lists in ascending order, so no place is looked at twice and a search takes time
  polynomial in the text, whatever the pattern;
* `Pattern.occursIn` asks whether some stretch of a text matches, wherever it begins.
-/

namespace AdFilter

/-- A place in a text. -/
structure Cursor where
  /-- the number of characters in front -/
  index : Nat
  /-- the character in front, unless this is the start -/
  before : Option Char
  /-- what follows -/
  rest : List Char
deriving Repr, DecidableEq

namespace Cursor

/-- The start of a text. -/
def start (text : List Char) : Cursor := ⟨0, .none, text⟩

/-- The places from a cursor on, to the end of the text. -/
def walk (index : Nat) (before : Option Char) : List Char → List Cursor
  | [] => [⟨index, before, []⟩]
  | c :: rest => ⟨index, before, c :: rest⟩ :: walk (index + 1) (some c) rest

/-- Every place of a text, in order. -/
def all (text : List Char) : List Cursor := walk 0 .none text

end Cursor

/-- Which characters count as word characters at a word boundary. -/
inductive WordKind where
  | unicode
  | ascii
deriving Repr, DecidableEq

/-- Whether a neighbour of a place is a word character. -/
def WordKind.isWord (k : WordKind) : Option Char → Bool
  | .none => false
  | some c => match k with
    | unicode => Text.isWord c
    | ascii => isAsciiWord c

/-- A condition on a place between characters. -/
inductive Look where
  | textStart
  | textEnd
  | lineStart
  | lineEnd
  /-- the start of a line, where line feed, carriage return or both end a line -/
  | anyLineStart
  | anyLineEnd
  | wordBoundary (k : WordKind)
  | noWordBoundary (k : WordKind)
  | wordStart (k : WordKind)
  | wordEnd (k : WordKind)
  /-- no word character in front -/
  | wordStartHalf (k : WordKind)
  /-- no word character behind -/
  | wordEndHalf (k : WordKind)
deriving Repr, DecidableEq

/-- Whether the condition holds between two neighbours, of which the text may lack either. -/
def Look.holds (l : Look) (before after : Option Char) : Bool :=
  match l with
  | textStart => before.isNone
  | textEnd => after.isNone
  | lineStart => before.isNone || before == some '\n'
  | lineEnd => after.isNone || after == some '\n'
  | anyLineStart =>
    before.isNone || before == some '\n' || (before == some '\r' && after != some '\n')
  | anyLineEnd =>
    after.isNone || after == some '\r' || (after == some '\n' && before != some '\r')
  | wordBoundary k => k.isWord before != k.isWord after
  | noWordBoundary k => k.isWord before == k.isWord after
  | wordStart k => !k.isWord before && k.isWord after
  | wordEnd k => k.isWord before && !k.isWord after
  | wordStartHalf k => !k.isWord before
  | wordEndHalf k => !k.isWord after

/-- A description of stretches of text. -/
inductive Pattern where
  /-- the empty stretch -/
  | empty
  /-- one character of a set -/
  | one (s : CharSet)
  /-- the empty stretch, where a condition holds -/
  | look (l : Look)
  | seq (p q : Pattern)
  | alt (p q : Pattern)
  /-- at least `least` stretches in a row, at most `most` if that is given -/
  | times (p : Pattern) (least : Nat) (most : Option Nat)

namespace Pattern

/-! ## Meaning -/

/-- The stretch from one cursor to another is described by the pattern. -/
inductive Matches : Pattern → Cursor → Cursor → Prop where
  | empty (c : Cursor) : Matches empty c c
  | one {s : CharSet} {x : Char} (i : Nat) (b : Option Char) (r : List Char)
      (h : s.contains x = true) : Matches (one s) ⟨i, b, x :: r⟩ ⟨i + 1, some x, r⟩
  | look {l : Look} {c : Cursor} (h : l.holds c.before c.rest.head? = true) :
      Matches (look l) c c
  | seq {p q : Pattern} {c d e : Cursor} (hp : Matches p c d) (hq : Matches q d e) :
      Matches (seq p q) c e
  | altLeft {p q : Pattern} {c d : Cursor} (hp : Matches p c d) : Matches (alt p q) c d
  | altRight {p q : Pattern} {c d : Cursor} (hq : Matches q c d) : Matches (alt p q) c d
  | timesStop {p : Pattern} {most : Option Nat} (c : Cursor) : Matches (times p 0 most) c c
  | timesFirst {p : Pattern} {n : Nat} {most : Option Nat} {c d e : Cursor}
      (hp : Matches p c d) (hr : Matches (times p n (most.map (· - 1))) d e)
      (hm : most ≠ some 0) : Matches (times p (n + 1) most) c e
  | timesMore {p : Pattern} {most : Option Nat} {c d e : Cursor}
      (hp : Matches p c d) (hr : Matches (times p 0 (most.map (· - 1))) d e)
      (hm : most ≠ some 0) : Matches (times p 0 most) c e

/-! ## Search -/

/-- Merges `x :: xs` with a list in ascending order, given how to merge `xs` with one. -/
def mergeOnto (x : Cursor) (xs : List Cursor) (rest : List Cursor → List Cursor) :
    List Cursor → List Cursor
  | [] => x :: xs
  | y :: ys =>
    if x.index < y.index then x :: rest (y :: ys)
    else if y.index < x.index then y :: mergeOnto x xs rest ys
    else x :: rest ys

/-- The places on either of two lists in ascending order, in ascending order. -/
def merge : List Cursor → List Cursor → List Cursor
  | [] => id
  | x :: xs => mergeOnto x xs (merge xs)

/-- The places behind one character of a set. -/
def advance (s : CharSet) : List Cursor → List Cursor
  | [] => []
  | ⟨_, _, []⟩ :: cs => advance s cs
  | ⟨i, _, x :: r⟩ :: cs =>
    if s.contains x then ⟨i + 1, some x, r⟩ :: advance s cs else advance s cs

/-- The places reached by `n` steps. -/
def exactly (step : List Cursor → List Cursor) : Nat → List Cursor → List Cursor
  | 0, cs => cs
  | n + 1, cs => exactly step n (step cs)

/-- The places reached by at most `n` steps. -/
def atMost (step : List Cursor → List Cursor) : Nat → List Cursor → List Cursor
  | 0, cs => cs
  | n + 1, cs => merge cs (atMost step n (step cs))

/-- The places reached by any number of steps, of which none leads back. The first place is final
once it is first, so each step of the loop moves on by one place at least. -/
def reach (step : List Cursor → List Cursor) : Nat → List Cursor → List Cursor
  | 0, cs => cs
  | _ + 1, [] => []
  | fuel + 1, c :: cs =>
    c :: reach step fuel (merge ((step [c]).dropWhile (·.index ≤ c.index)) cs)

/-- The places reached by any number of steps. -/
def reachable (step : List Cursor → List Cursor) (cs : List Cursor) : List Cursor :=
  match cs with
  | [] => []
  | c :: _ => reach step (c.rest.length + 1) cs

/-- Where the stretches end that begin at one of the given places. -/
def ends : Pattern → List Cursor → List Cursor
  | empty, cs => cs
  | one s, cs => advance s cs
  | look l, cs => cs.filter fun c => l.holds c.before c.rest.head?
  | seq p q, cs => ends q (ends p cs)
  | alt p q, cs => merge (ends p cs) (ends q cs)
  | times p least .none, cs => reachable (ends p) (exactly (ends p) least cs)
  | times p least (some most), cs => atMost (ends p) (most - least) (exactly (ends p) least cs)

/-- Whether the pattern describes some stretch of the text. -/
def occursIn (p : Pattern) (text : List Char) : Bool := !(p.ends (Cursor.all text)).isEmpty

/-- The patterns of a list, one after the other. -/
def seqs (ps : List Pattern) : Pattern := ps.foldr seq empty

/-- Any of the patterns of a list that is not empty. -/
def alts : List Pattern → Pattern
  | [] => empty
  | [p] => p
  | p :: ps => alt p (alts ps)

/-- Whether the pattern describes no stretch but empty ones. -/
def isZeroWidth : Pattern → Bool
  | empty | look _ => true
  | one _ => false
  | seq p q | alt p q => p.isZeroWidth && q.isZeroWidth
  | times p _ most => p.isZeroWidth || most == some 0

/-- Stretches in a row. An empty one may as well be counted once only. -/
def repeated (p : Pattern) (least : Nat) (most : Option Nat) : Pattern :=
  if p.isZeroWidth then times p (min least 1) (some (min (most.getD 1) 1))
  else times p least most

end Pattern

end AdFilter
