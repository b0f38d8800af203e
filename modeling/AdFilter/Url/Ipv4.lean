import AdFilter.Text.Layout
import AdFilter.Text.Number

/-!
# Addresses of version 4

An address is a number of 32 bits, written as up to four numbers with dots between them. Each but
the last is one byte, and the last fills what is left.
-/

namespace AdFilter.Url.Ipv4

open Text

/-- The number that a part writes: to the base 16 behind `0x`, to the base 8 behind a zero. -/
def part? : List Char → Option Nat
  | [] => none
  | '0' :: 'x' :: rest | '0' :: 'X' :: rest => number? 16 rest
  | '0' :: c :: rest => number? 8 (c :: rest)
  | cs => number? 10 cs

/-- The parts of a name, without an empty one behind a last dot. -/
def parts (name : List Char) : List (List Char) :=
  let all := splitOn '.' name
  if all.getLast? = some [] then all.dropLast else all

/-- Whether a name ends in a number, and so has to be an address. -/
def isNumeric (name : List Char) : Bool :=
  match (parts name).getLast? with
  | none => false
  | some last => (!last.isEmpty && last.all Char.isDigit) || (part? last).isSome

/-- The address that a name writes. -/
def ofText? (name : List Char) : Option Nat := do
  let numbers ← (parts name).mapM part?
  let last ← numbers.getLast?
  let bytes := numbers.dropLast
  let room := Nat.pow 256 (4 - bytes.length)
  if 3 < bytes.length || bytes.any (255 < ·) || room ≤ last then none
  else return bytes.foldl (fun n b => n * 256 + b) 0 * room + last

/-- The written form: four bytes with dots between them. -/
def text (n : Nat) : List Char :=
  joinWith ['.'] ([n >>> 24, n >>> 16, n >>> 8, n].map fun b => Nat.toDigits 10 (b % 256))

end AdFilter.Url.Ipv4
