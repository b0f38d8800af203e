import AdFilter.Text.Number
import AdFilter.Toml.Value

/-!
# Numbers, dates and times

What a settings file writes without quotation marks. Whole numbers have 64 bits and may be written
to the bases 2, 8, 10 and 16; of other numbers only their form matters, and that they are not too
large.
-/

namespace AdFilter.Toml

open Text

/-! ## Whole numbers -/

/-- Reads digits, of which there is one at least; an underscore may stand between any two. -/
def readDigits? (isDigit : Char → Bool) : Nat → List Char → Option (List Char × List Char)
  | 0, _ | _, [] => none
  | fuel + 1, c :: rest =>
    if !isDigit c then none
    else
      let next := match rest with
        | '_' :: more => more
        | _ => rest
      match readDigits? isDigit fuel next with
      | some (digits, rest) => some (c :: digits, rest)
      | none => some ([c], rest)

/-- A sign at the start of a text, of which only a minus counts, and what follows. -/
def splitSign : List Char → Bool × List Char
  | '-' :: rest => (true, rest)
  | '+' :: rest => (false, rest)
  | cs => (false, cs)

/-- Reads digits to the base 10, in front of which no zero may stand. -/
def readWhole? (cs : List Char) : Option (List Char × List Char) :=
  match cs with
  | '0' :: rest => some (['0'], rest)
  | _ => readDigits? Char.isDigit cs.length cs

/-- Reads the digits to a base other than 10. -/
def readBased? (base : Nat) (cs : List Char) : Option (Nat × List Char) := do
  let (digits, rest) ← readDigits? (fun c => (digit? base c).isSome) cs.length cs
  return (← number? base digits, rest)

/-- Whole numbers lie below this bound, and not below its negation. -/
def integerBound : Nat := Nat.pow 2 63

/-- Reads a whole number. -/
def readInteger? (cs : List Char) : Option (Int × List Char) := do
  let (n, rest) ← match cs with
    | '0' :: 'x' :: rest => (readBased? 16 rest).map fun (n, rest) => ((n : Int), rest)
    | '0' :: 'o' :: rest => (readBased? 8 rest).map fun (n, rest) => ((n : Int), rest)
    | '0' :: 'b' :: rest => (readBased? 2 rest).map fun (n, rest) => ((n : Int), rest)
    | _ => do
      let (negative, rest) := splitSign cs
      let (digits, rest) ← readWhole? rest
      let n ← number? 10 digits
      some (if negative then -(n : Int) else n, rest)
  if -(integerBound : Int) ≤ n && n < integerBound then return (n, rest) else none

/-! ## Other numbers -/

/-- Half-way between the greatest number of 64 bits with a point and the next power of two; what is
as large or larger is no number any more. -/
def tooLarge : Nat := Nat.pow 2 1024 - Nat.pow 2 970

/-- Whether `m · 10 ^ e` is too large. The number of digits settles all but the narrow cases. -/
def isTooLarge (m : Nat) (e : Int) : Bool :=
  let size := ((Nat.toDigits 10 m).length : Int) + e
  if m = 0 || size < 300 then false
  else if 310 < size then true
  else if 0 ≤ e then tooLarge ≤ m * Nat.pow 10 e.toNat
  else tooLarge * Nat.pow 10 (-e).toNat ≤ m

/-- Reads the digits behind a point, if there is one. -/
def readFraction? : List Char → Option (List Char × List Char)
  | '.' :: rest => readDigits? Char.isDigit rest.length rest
  | cs => some ([], cs)

/-- Reads the power of ten behind an `e`, if there is one. -/
def readExponent? : List Char → Option (Int × List Char)
  | c :: rest =>
    if c = 'e' || c = 'E' then do
      let (negative, rest) := splitSign rest
      let (digits, rest) ← readDigits? Char.isDigit rest.length rest
      let n ← number? 10 digits
      some (if negative then -(n : Int) else n, rest)
    else some (0, c :: rest)
  | [] => some (0, [])

/-- What follows a number with a point or a power of ten, or one of the words for what is no number.
-/
def readFloat? (cs : List Char) : Option (List Char) := do
  let (negative, body) := splitSign cs
  match body with
  | 'i' :: 'n' :: 'f' :: rest | 'n' :: 'a' :: 'n' :: rest => some rest
  | _ =>
    let (whole, afterWhole) ← readWhole? body
    let (fraction, afterFraction) ← readFraction? afterWhole
    let (e, rest) ← readExponent? afterFraction
    let m ← number? 10 (whole ++ fraction)
    if rest.length = afterWhole.length then none
    else if !negative && isTooLarge m (e - fraction.length) then none
    else some rest

/-! ## Dates and times -/

/-- Reads so many digits that write a number between two bounds. -/
def readField? (size least most : Nat) (cs : List Char) : Option (List Char × List Char) := do
  let digits := cs.take size
  let n ← number? 10 digits
  if digits.length = size && least ≤ n && n ≤ most then return (digits, cs.drop size) else none

/-- How many days a month has. -/
def daysIn (year month : Nat) : Nat :=
  if month = 2 then
    if year % 4 = 0 && (year % 100 != 0 || year % 400 = 0) then 29 else 28
  else if [4, 6, 9, 11].contains month then 30
  else 31

/-- What follows a character at the start of a text. -/
def drop? (c : Char) : List Char → Option (List Char)
  | d :: rest => if d = c then some rest else none
  | [] => none

/-- Reads a date. -/
def readDate? (cs : List Char) : Option (List Char × List Char) := do
  let (year, rest) ← readField? 4 0 9999 cs
  let (month, rest) ← readField? 2 1 12 (← drop? '-' rest)
  let most := daysIn (← number? 10 year) (← number? 10 month)
  let (day, rest) ← readField? 2 1 most (← drop? '-' rest)
  return (year ++ '-' :: month ++ '-' :: day, rest)

/-- How many digits of a fraction of a second count. -/
def secondDigits : Nat := 9

/-- The fraction of a second at the start of a text, without zeros at its end, and what follows. -/
def splitSecondFraction (cs : List Char) : List Char × List Char :=
  match cs with
  | '.' :: rest =>
    let digits := rest.takeWhile Char.isDigit
    if digits.isEmpty then ([], cs)
    else
      let kept := ((digits.take secondDigits).reverse.dropWhile (· == '0')).reverse
      (if kept.isEmpty then [] else '.' :: kept, rest.drop digits.length)
  | _ => ([], cs)

/-- Reads a time of day. -/
def readTime? (cs : List Char) : Option (List Char × List Char) := do
  let (hour, rest) ← readField? 2 0 23 cs
  let (minute, rest) ← readField? 2 0 59 (← drop? ':' rest)
  let (second, rest) ← readField? 2 0 60 (← drop? ':' rest)
  let (fraction, rest) := splitSecondFraction rest
  return (hour ++ ':' :: minute ++ ':' :: second ++ fraction, rest)

/-- Reads how far a time of day is ahead or behind. -/
def readOffset? : List Char → Option (List Char × List Char)
  | c :: rest =>
    if c = 'Z' || c = 'z' then some (['Z'], rest)
    else if c = '+' || c = '-' then do
      let (hour, rest) ← readField? 2 0 23 rest
      let (minute, rest) ← readField? 2 0 59 (← drop? ':' rest)
      let text := hour ++ ':' :: minute
      return ((if text = "00:00".toList then '+' else c) :: text, rest)
    else none
  | [] => none

/-- Reads the time of day behind a date. -/
def readTimeOfDate? : List Char → Option (List Char × List Char)
  | c :: rest =>
    if c = 'T' || c = 't' || c = ' ' then do
      let (time, rest) ← readTime? rest
      let (offset, rest) := (readOffset? rest).getD ([], rest)
      return ('T' :: time ++ offset, rest)
    else none
  | [] => none

/-- Reads a date, a time of day or both. -/
def readMoment? (cs : List Char) : Option (List Char × List Char) :=
  match readDate? cs with
  | some (date, rest) =>
    let (time, rest) := (readTimeOfDate? rest).getD ([], rest)
    some (date ++ time, rest)
  | none => readTime? cs

/-- Reads what is written without quotation marks. -/
def readScalar? (cs : List Char) : Option (Value × List Char) :=
  match cs with
  | 't' :: 'r' :: 'u' :: 'e' :: rest => some (.boolean true, rest)
  | 'f' :: 'a' :: 'l' :: 's' :: 'e' :: rest => some (.boolean false, rest)
  | _ =>
    match readMoment? cs, readFloat? cs with
    | some (text, rest), _ => some (.moment text, rest)
    | none, some rest => some (.float, rest)
    | none, none => (readInteger? cs).map fun (n, rest) => (.integer n, rest)

end AdFilter.Toml
