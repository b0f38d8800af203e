/-!
# Punycode

A text written in ASCII letters, digits and hyphens. The ASCII characters of the text come first;
then, behind a hyphen, numbers that say which other characters to insert and where. A number is
written in digits to the base 36, the least significant first. Each place has a threshold, and the
digit below its threshold is the last; the thresholds follow a `bias` that is fitted to the numbers
already seen.
-/

namespace AdFilter.Url.Punycode

/-- The largest number that may occur while reading. -/
def maxNumber : Nat := Nat.pow 2 32 - 1

/-- How many characters are read at most. -/
def maxRead : Nat := 2000

/-- How many characters are written at most. -/
def maxWritten : Nat := 1000

/-- The bias before the first number. -/
def initialBias : Nat := 72

/-- The character of a digit: letters first. -/
def digitChar (d : Nat) : Char :=
  if d < 26 then Char.ofNat (0x61 + d) else Char.ofNat (0x30 + (d - 26))

/-- The digit that a character writes. -/
def digit? (c : Char) : Option Nat :=
  if c.isDigit then some (c.toNat - 0x30 + 26)
  else if c.isLower then some (c.toNat - 0x61)
  else if c.isUpper then some (c.toNat - 0x41)
  else none

theorem digit?_digitChar {d : Nat} (h : d < 36) : digit? (digitChar d) = some d := by
  have : ∀ e ∈ List.range 36, digit? (digitChar e) = some e := by decide
  exact this d (List.mem_range.mpr h)

/-- The threshold of a place; `k` is 36 for the first, 72 for the second and so on. -/
def threshold (k bias : Nat) : Nat := min (max (k - bias) 1) 26

theorem threshold_pos (k bias : Nat) : 1 ≤ threshold k bias := by
  unfold threshold; omega

theorem threshold_le (k bias : Nat) : threshold k bias ≤ 26 := by
  unfold threshold; omega

/-- Divides by 35 until the number is small, and counts the divisions. -/
def shrink (delta count : Nat) : Nat × Nat :=
  if 455 < delta then shrink (delta / 35) (count + 1) else (delta, count)
termination_by delta
decreasing_by exact Nat.div_lt_self (by omega) (by omega)

/-- The bias after a number `delta`, when `size` characters stand in the text. -/
def adapt (delta size : Nat) (isFirst : Bool) : Nat :=
  let halved := if isFirst then delta / 700 else delta / 2
  let (small, count) := shrink (halved + halved / size) 0
  36 * count + 36 * small / (small + 38)

/-! ## Reading -/

/-- Reads a number onto `sum`; a digit at the place `k` counts `weight`. -/
def readNumber? (bias : Nat) : Nat → Nat → Nat → List Char → Option (Nat × List Char)
  | _, _, _, [] => none
  | k, weight, sum, c :: rest => do
    let d ← digit? c
    let sum := sum + d * weight
    if maxNumber < sum then none
    else if d < threshold k bias then return (sum, rest)
    else
      let weight := weight * (36 - threshold k bias)
      if maxNumber < weight then none else readNumber? bias (k + 36) weight sum rest

/-- Inserts the characters that the rest of the text names. The place `i` goes on from the one
behind the last insertion, and wherever it passes the end, the code point `n` goes up. -/
def insertFrom? : Nat → Nat → Nat → Nat → Bool → List Nat → List Char → Option (List Nat)
  | _, _, _, _, _, out, [] => some out
  | 0, _, _, _, _, _, _ => none
  | fuel + 1, n, i, bias, isFirst, out, c :: rest => do
    let (j, rest) ← readNumber? bias 36 1 i (c :: rest)
    let size := out.length + 1
    let n := n + j / size
    if n.isValidChar then
      insertFrom? fuel n (j % size + 1) (adapt (j - i) size isFirst) false
        (out.take (j % size) ++ n :: out.drop (j % size)) rest
    else none

/-- What stands before the last hyphen and what stands behind it. A hyphen at the very start is
left in place. -/
def splitBasic (cs : List Char) : List Char × List Char :=
  let tail := (cs.reverse.takeWhile (· != '-')).reverse
  let front := cs.take (cs.length - tail.length - 1)
  if front.isEmpty then ([], cs) else (front, tail)

/-- The text that a word in Punycode writes. -/
def decode? (cs : List Char) : Option (List Char) :=
  if maxRead < cs.length then none
  else
    let (basic, rest) := splitBasic cs
    (insertFrom? cs.length 0x80 0 initialBias true (basic.map Char.toNat) rest).map
      (·.map Char.ofNat)

/-! ## Writing -/

/-- The digits of a number, from the place `k` on. -/
def writeNumber (bias k q : Nat) : List Char :=
  let t := threshold k bias
  if q < t then [digitChar q]
  else digitChar (t + (q - t) % (36 - t)) :: writeNumber bias (k + 36) ((q - t) / (36 - t))
termination_by q
decreasing_by
  have := threshold_pos k bias
  have := Nat.div_le_self (q - threshold k bias) (36 - threshold k bias)
  omega

/-- How far the writing of a text has come. -/
structure Writing where
  /-- the places passed since the last character that was written -/
  delta : Nat
  bias : Nat
  /-- how many characters of the text have been written -/
  written : Nat
  out : List Char

/-- Passes one character of the text, while the code point `n` is being written. -/
def Writing.pass (basic n : Nat) (w : Writing) (c : Char) : Writing :=
  if c.toNat < n then { w with delta := w.delta + 1 }
  else if c.toNat = n then
    { delta := 0
      bias := adapt w.delta (w.written + 1) (w.written == basic)
      written := w.written + 1
      out := w.out ++ writeNumber w.bias 36 w.delta }
  else w

/-- Writes each code point above `n` on the list, the next one first. -/
def writeFrom (text : List Char) (basic : Nat) : Nat → List Nat → Writing → Writing
  | _, [], w => w
  | n, m :: ms, w =>
    let w := text.foldl (Writing.pass basic m)
      { w with delta := w.delta + (m - n) * (w.written + 1) }
    writeFrom text basic (m + 1) ms { w with delta := w.delta + 1 }

/-- Puts a number into an ascending list, unless it is there. -/
def insertSorted (n : Nat) : List Nat → List Nat
  | [] => [n]
  | m :: ms => if n < m then n :: m :: ms else if n = m then m :: ms else m :: insertSorted n ms

/-- The word in Punycode that writes a text. -/
def encode? (text : List Char) : Option (List Char) :=
  if maxWritten < text.length then none
  else
    let basic := text.filter (·.toNat < 0x80)
    let others := (text.filter (0x80 ≤ ·.toNat)).map Char.toNat
    let w := writeFrom text basic.length 0x80 (others.foldr insertSorted [])
      ⟨0, initialBias, basic.length, []⟩
    some ((if basic.isEmpty then [] else basic ++ ['-']) ++ w.out)

end AdFilter.Url.Punycode
