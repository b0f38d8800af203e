import AdFilter.Text.Order
import Mathlib.Data.List.Nodup

/-!
# Sorting by names

Where no two names are the same, it does not matter in what order things were before they are sorted
by name.
-/

namespace AdFilter.Text

theorem precedes_antisymm {s t : List Char} (hst : precedes s t = true)
    (hts : precedes t s = true) : s = t := by
  induction s generalizing t with
  | nil =>
    cases t with
    | nil => rfl
    | cons b bs => cases hts
  | cons a as ih =>
    cases t with
    | nil => cases hst
    | cons b bs =>
      rw [precedes] at hst hts
      by_cases hab : a.toNat < b.toNat
      · rw [if_neg (Nat.lt_asymm hab), if_pos hab] at hts
        cases hts
      · by_cases hba : b.toNat < a.toNat
        · rw [if_neg hab, if_pos hba] at hst
          cases hst
        · rw [if_neg hab, if_neg hba] at hst
          rw [if_neg hba, if_neg hab] at hts
          have hletter : a = b := Char.toNat_inj.mp
            (Nat.le_antisymm (Nat.le_of_not_lt hba) (Nat.le_of_not_lt hab))
          rw [hletter, ih hst hts]

variable {α β : Type} {key : α → List Char} {xs ys : List α}

theorem sortBy_perm (key : α → List Char) (xs : List α) : (sortBy key xs).Perm xs :=
  List.mergeSort_perm _ _

theorem pairwise_sortBy (key : α → List Char) (xs : List α) :
    (sortBy key xs).Pairwise fun a b => precedes (key a) (key b) = true :=
  @List.pairwise_mergeSort α (fun a b => precedes (key a) (key b))
    (fun _ _ _ => precedes_trans) (fun _ _ => precedes_total _ _) xs

/-- What is sorted by different names does not hang on the order before. -/
theorem sortBy_congr (h : xs.Perm ys) (hkeys : (xs.map key).Nodup) :
    sortBy key xs = sortBy key ys := by
  refine List.Perm.eq_of_pairwise (fun a b ha hb hab hba => ?_) (pairwise_sortBy key xs)
    (pairwise_sortBy key ys) (((sortBy_perm key xs).trans h).trans (sortBy_perm key ys).symm)
  have ha' : a ∈ xs := (sortBy_perm key xs).subset ha
  have hb' : b ∈ xs := h.symm.subset ((sortBy_perm key ys).subset hb)
  exact List.inj_on_of_nodup_map hkeys ha' hb' (precedes_antisymm hab hba)

/-- To change what is sorted leaves the order, if the names stay. -/
theorem map_sortBy {key' : β → List Char} {g : α → β} (h : ∀ a ∈ xs, key' (g a) = key a) :
    (sortBy key xs).map g = sortBy key' (xs.map g) := by
  refine List.map_mergeSort fun a ha b hb => ?_
  rw [h a ha, h b hb]

end AdFilter.Text
