/-!
# Numbers in digits

The numbers that digits write, to any base up to 16.
-/

namespace AdFilter.Text

/-- The digit that a character writes, to a base of at most 16. -/
def digit? (base : Nat) (c : Char) : Option Nat :=
  let d :=
    if c.isDigit then c.toNat - 0x30
    else if 'a' ≤ c ∧ c ≤ 'f' then c.toNat - 0x61 + 10
    else if 'A' ≤ c ∧ c ≤ 'F' then c.toNat - 0x41 + 10
    else 16
  if d < base then some d else none

/-- The number that digits write behind those of `value`. -/
def numberOnto? (base : Nat) : Nat → List Char → Option Nat
  | value, [] => some value
  | value, c :: rest => do numberOnto? base (value * base + (← digit? base c)) rest

/-- The number that digits write. No digits write zero. -/
def number? (base : Nat) (digits : List Char) : Option Nat := numberOnto? base 0 digits

/-- The character with a number, if there is one. -/
def charOfNat? (n : Nat) : Option Char := if n.isValidChar then some (Char.ofNat n) else none

end AdFilter.Text
