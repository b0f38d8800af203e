import AdFilter.Text.Layout
import AdFilter.Text.Number

/-!
# Addresses of version 6

An address is a row of eight numbers of 16 bits, written to the base 16 with colons between them.
Once in a row a double colon may stand for zeros, and the last two numbers may be written as four
bytes with dots between them.
-/

namespace AdFilter.Url.Ipv6

open Text

/-- How many numbers make up an address. -/
def size : Nat := 8

/-- A byte written to the base 10, without zeros in front. -/
def byte? : List Char → Option Nat
  | [] => none
  | ['0'] => some 0
  | '0' :: _ => none
  | cs => do
    let n ← number? 10 cs
    if n < 256 then return n else none

/-- The numbers that one stretch between colons writes. Only the last may be in dots. -/
def group? (isLast : Bool) (cs : List Char) : Option (List Nat) :=
  if isLast && cs.contains '.' then do
    match ← (splitOn '.' cs).mapM byte? with
    | [a, b, c, d] => return [a * 256 + b, c * 256 + d]
    | _ => none
  else if cs.isEmpty || 4 < cs.length then none
  else (number? 16 cs).map ([·])

/-- The numbers that stretches between colons write. -/
def groups? : List (List Char) → Option (List Nat)
  | [] => some []
  | [g] => group? true g
  | g :: gs => return (← group? false g) ++ (← groups? gs)

/-- What stands in front of the first double colon and what stands behind it. -/
def splitDouble? : List Char → Option (List Char × List Char)
  | [] => none
  | ':' :: ':' :: rest => some ([], rest)
  | c :: rest => (splitDouble? rest).map fun (front, back) => (c :: front, back)

/-- The numbers on one side of a double colon, which may be none. -/
def side? (cs : List Char) : Option (List Nat) :=
  if cs.isEmpty then some [] else groups? (splitOn ':' cs)

/-- The address that a text writes. -/
def ofText? (cs : List Char) : Option (List Nat) :=
  match splitDouble? cs with
  | none => do
    let ns ← groups? (splitOn ':' cs)
    if ns.length = size then return ns else none
  | some (front, back) => do
    if front.contains '.' then none
    else
      let front ← side? front
      let back ← side? back
      if front.length + back.length < size then
        return front ++ List.replicate (size - front.length - back.length) 0 ++ back
      else none

/-- The number of zeros at the start. -/
def zeros (ns : List Nat) : Nat := (ns.takeWhile (· == 0)).length

/-- The place and length of the longest stretch of zeros, the first of several. -/
def longestZeros : List Nat → Nat × Nat
  | [] => (0, 0)
  | n :: ns =>
    let (i, k) := longestZeros ns
    if k ≤ zeros (n :: ns) then (0, zeros (n :: ns)) else (i + 1, k)

/-- Numbers to the base 16 with colons between them. -/
def groupsText (ns : List Nat) : List Char := joinWith [':'] (ns.map (Nat.toDigits 16))

/-- The written form: the longest stretch of more than one zero becomes a double colon. -/
def text (ns : List Nat) : List Char :=
  let (i, k) := longestZeros ns
  if k < 2 then groupsText ns
  else groupsText (ns.take i) ++ ':' :: ':' :: groupsText (ns.drop (i + k))

end AdFilter.Url.Ipv6
