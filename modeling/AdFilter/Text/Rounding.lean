/-!
# Rounding

Quotients rounded to whole numbers, and to the numbers that a machine word with a 53-bit fraction
can hold. In both cases the nearest one is taken, and of two equally near ones the even one.
-/

namespace AdFilter.Text

/-- The whole number nearest to `n / d`. -/
def roundQuotient (n d : Nat) : Nat :=
  let q := n / d
  let r := n % d
  if d < 2 * r then q + 1 else if 2 * r = d then q + q % 2 else q

theorem roundQuotient_le (n d : Nat) (hd : 0 < d) : 2 * (d * roundQuotient n d) ≤ 2 * n + d := by
  have h := Nat.div_add_mod n d
  have hr := Nat.mod_lt n hd
  unfold roundQuotient
  generalize n / d = q at *
  generalize n % d = r at *
  simp only
  split
  · rw [Nat.mul_add]; omega
  · split
    · have : q % 2 = 0 ∨ q % 2 = 1 := by omega
      rcases this with e | e <;> rw [e] <;> simp only [Nat.mul_add] <;> omega
    · omega

theorem le_roundQuotient (n d : Nat) (hd : 0 < d) : 2 * n ≤ 2 * (d * roundQuotient n d) + d := by
  have h := Nat.div_add_mod n d
  have hr := Nat.mod_lt n hd
  unfold roundQuotient
  generalize n / d = q at *
  generalize n % d = r at *
  simp only
  split
  · rw [Nat.mul_add]; omega
  · split
    · have : q % 2 = 0 ∨ q % 2 = 1 := by omega
      rcases this with e | e <;> rw [e] <;> simp only [Nat.mul_add] <;> omega
    · omega

/-- A number with a fraction, `num / den`. -/
structure Fraction where
  num : Nat
  den : Nat
deriving Repr, DecidableEq

/-- How many bits a number keeps. -/
def fractionBits : Nat := 53

/-- The machine number nearest to a fraction: `fractionBits` bits, times a power of two. -/
def Fraction.rounded (f : Fraction) : Fraction :=
  if f.num = 0 then f
  else
    let up := fractionBits + f.den.log2
    let down := f.num.log2
    let scaled (down : Nat) : Fraction :=
      ⟨f.num * Nat.pow 2 (up - down), f.den * Nat.pow 2 (down - up)⟩
    let whole := (scaled down).num / (scaled down).den
    let down := if whole < Nat.pow 2 fractionBits then down else down + 1
    let q := roundQuotient (scaled down).num (scaled down).den
    ⟨q * Nat.pow 2 (down - up), Nat.pow 2 (up - down)⟩

end AdFilter.Text
