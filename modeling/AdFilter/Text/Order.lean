/-!
# The order of texts

Texts in the order of their code points, the one that lists of names are sorted by.
-/

namespace AdFilter.Text

/-- Whether one text comes no later than another: the first place where they differ decides, and a
text comes before all that go on behind it. -/
def precedes : List Char → List Char → Bool
  | [], _ => true
  | _ :: _, [] => false
  | a :: as, b :: bs =>
    if a.toNat < b.toNat then true else if b.toNat < a.toNat then false else precedes as bs

theorem precedes_total (s t : List Char) : (precedes s t || precedes t s) = true := by
  induction s generalizing t with
  | nil => simp [precedes]
  | cons a as ih =>
    cases t with
    | nil => simp [precedes]
    | cons b bs =>
      simp only [precedes]
      by_cases h : a.toNat < b.toNat
      · simp [h]
      · by_cases h' : b.toNat < a.toNat
        · simp [h']
        · simpa [h, h'] using ih bs

theorem precedes_trans {s t u : List Char} (hst : precedes s t = true) (htu : precedes t u = true) :
    precedes s u = true := by
  induction s generalizing t u with
  | nil => simp [precedes]
  | cons a as ih =>
    cases t with
    | nil => simp [precedes] at hst
    | cons b bs =>
      cases u with
      | nil => simp [precedes] at htu
      | cons c cs =>
        simp only [precedes] at hst htu ⊢
        by_cases hab : a.toNat < b.toNat
        · have : a.toNat < c.toNat := by
            by_cases hcb : c.toNat < b.toNat
            · have : ¬ b.toNat < c.toNat := by omega
              simp [this, hcb] at htu
            · omega
          simp [this]
        · by_cases hba : b.toNat < a.toNat
          · simp [hab, hba] at hst
          · have e : a.toNat = b.toNat := by omega
            simp only [hab, hba, if_false] at hst
            rw [e]
            by_cases hbc : b.toNat < c.toNat
            · simp [hbc]
            · by_cases hcb : c.toNat < b.toNat
              · simp [hbc, hcb] at htu
              · simp only [hbc, hcb, if_false] at htu ⊢
                simpa using ih hst (by simpa using htu)

/-- Names in order, and of equal ones the earlier first. -/
def sortBy (key : α → List Char) (xs : List α) : List α :=
  xs.mergeSort fun a b => precedes (key a) (key b)

end AdFilter.Text
