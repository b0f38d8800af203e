import AdFilter.Proofs.Text.Layout

/-!
# Lower case

What lower case leaves alone. The table of case maps is looked at as a whole, run against run: no
image of a shift is moved again, and no shift has to do with white space or the dot. So a text in
lower case stays as it is (`lower_lower`), and white space and dots stand in it where they stood
before.
-/

namespace AdFilter.Text

/-! ## Runs without a common member -/

namespace Run

theorem contains_iff {r : Run} {n : Nat} :
    r.contains n = true ↔ r.first ≤ n ∧ n ≤ r.last ∧ (n - r.first) % r.step = 0 := by
  simp only [contains, Bool.and_eq_true, Nat.ble_eq, Nat.beq_eq, and_assoc]

/-- Whether all members of a run have the parity of the first. -/
def hasParity (r : Run) : Bool := Nat.beq r.first r.last || Nat.beq (r.step % 2) 0

/-- A test by which two runs have no common member: one ends before the other begins, or the
members of one are even and those of the other odd. -/
def isApart (r q : Run) : Bool :=
  Nat.blt r.last q.first || Nat.blt q.last r.first ||
    (r.hasParity && q.hasParity && Nat.beq ((r.first + q.first) % 2) 1)

theorem mod_two_eq {r : Run} {n : Nat} (hr : r.hasParity = true) (hn : r.contains n = true) :
    n % 2 = r.first % 2 := by
  obtain ⟨hfirst, hlast, hstep⟩ := contains_iff.mp hn
  rw [hasParity, Bool.or_eq_true, Nat.beq_eq, Nat.beq_eq] at hr
  rcases hr with h | h
  · have : n = r.first := by omega
    rw [this]
  · have heven : 2 ∣ n - r.first :=
      Nat.dvd_trans (Nat.dvd_of_mod_eq_zero h) (Nat.dvd_of_mod_eq_zero hstep)
    omega

theorem not_contains_of_isApart {r q : Run} {n : Nat} (h : r.isApart q = true)
    (hn : r.contains n = true) : q.contains n = false := by
  rw [Bool.eq_false_iff]
  intro hq
  obtain ⟨hrfirst, hrlast, -⟩ := contains_iff.mp hn
  obtain ⟨hqfirst, hqlast, -⟩ := contains_iff.mp hq
  simp only [isApart, Bool.or_eq_true, Bool.and_eq_true, Nat.blt_eq, Nat.beq_eq] at h
  rcases h with (h | h) | ⟨⟨hr, hq'⟩, h⟩
  · omega
  · omega
  · have := mod_two_eq hr hn
    have := mod_two_eq hq' hq
    omega

end Run

namespace Shift

/-- The images of a shift. -/
def imageRun (s : Shift) : Run := ⟨s.target, s.run.last - s.run.first + s.target, s.run.step⟩

theorem contains_imageRun {s : Shift} {n m : Nat} (h : s.image? n = some m) :
    s.imageRun.contains m = true := by
  rw [image?, Option.ite_none_right_eq_some, Run.contains_iff] at h
  obtain ⟨⟨hfirst, hlast, hstep⟩, hm⟩ := h
  have hm := Option.some.inj hm
  rw [Run.contains_iff]
  dsimp only [imageRun]
  refine ⟨by omega, by omega, ?_⟩
  rw [← hm, Nat.add_sub_cancel]
  exact hstep

theorem image?_eq_none {s : Shift} {n : Nat} (h : s.run.contains n = false) :
    s.image? n = none := by
  rw [image?, h]
  rfl

end Shift

/-! ## What no shift has to do with -/

namespace CaseTable

/-- White space and the dot. -/
def blanksAndDot : List Run :=
  [⟨0x09, 0x0D, 1⟩, ⟨0x20, 0x20, 1⟩, ⟨0x2E, 0x2E, 1⟩, ⟨0x85, 0x85, 1⟩, ⟨0xA0, 0xA0, 1⟩,
    ⟨0x1680, 0x1680, 1⟩, ⟨0x2000, 0x200A, 1⟩, ⟨0x2028, 0x2029, 1⟩, ⟨0x202F, 0x202F, 1⟩,
    ⟨0x205F, 0x205F, 1⟩, ⟨0x3000, 0x3000, 1⟩]

/-- The letters whose lower case is not in the table: the capital dotted I and the capital sigma,
which the table moves only to one of its two small forms. -/
def capitals : List Run := [⟨0x130, 0x130, 1⟩, ⟨0x3A3, 0x3A3, 1⟩]

/-- Whether a shift leaves white space and the dot alone, sends characters to characters, and none
of its images is moved again. -/
def isClean (s : Shift) : Bool :=
  blanksAndDot.all (fun r => s.run.isApart r && s.imageRun.isApart r) &&
    (capitals ++ lowercase.map (·.run)).all s.imageRun.isApart &&
    (Nat.blt s.imageRun.last 0xD800 ||
      (Nat.blt 0xDFFF s.target && Nat.blt s.imageRun.last 0x110000))

/-- The table is looked at here once and for all, each shift against all others. -/
instance all_isClean : Fact (lowercase.all isClean = true) where
  out := by decide +kernel

end CaseTable

/-! ## Single characters -/

theorem toNat_ofNat {n : Nat} (h : n.isValidChar) : (Char.ofNat n).toNat = n := by
  rw [Char.ofNat, dif_pos h]
  rfl

/-- What holds of the characters of ASCII, tried one by one. -/
theorem forall_ascii {P : Char → Prop} (h : ∀ n < 0x80, P (Char.ofNat n)) {c : Char}
    (hc : c.toNat < 0x80) : P c := by
  have hP := h c.toNat hc
  rwa [Char.ofNat_toNat] at hP

theorem toNat_lt_of_isAlphanum {c : Char} (h : c.isAlphanum = true) : c.toNat < 0x80 := by
  change (decide (_ ∧ c.val ≤ 'Z'.val) || _ && decide (c.val ≤ 'z'.val) ||
    _ && decide (c.val ≤ '9'.val)) = true at h
  simp only [Bool.or_eq_true, Bool.and_eq_true, decide_eq_true_eq, UInt32.le_iff_toNat_le] at h
  have hupper : 'Z'.val.toNat = 0x5A := rfl
  have hlower : 'z'.val.toNat = 0x7A := rfl
  have hdigit : '9'.val.toNat = 0x39 := rfl
  have hval : c.toNat = c.val.toNat := rfl
  omega

/-- A character that lower case leaves alone, wherever it stands. -/
def IsLower (c : Char) : Prop := lowerChar c = [c] ∧ c ≠ 'Σ'

instance : DecidablePred IsLower := fun _ => inferInstanceAs (Decidable (_ ∧ _))

/-- White space or the dot. -/
def IsBlankOrDot (c : Char) : Prop := inRuns CaseTable.blanksAndDot c = true

instance : DecidablePred IsBlankOrDot := fun _ => inferInstanceAs (Decidable (_ = true))

theorem isBlankOrDot_iff {c : Char} : IsBlankOrDot c ↔ isBlank c = true ∨ c = '.' := by
  have hdot : c = '.' ↔ c.toNat = 0x2E := by
    constructor
    · rintro rfl
      rfl
    · intro h
      rw [← Char.ofNat_toNat c, h]
  simp only [IsBlankOrDot, inRuns, CaseTable.blanksAndDot, List.any_cons, List.any_nil,
    Bool.or_eq_true, Bool.false_eq_true, Run.contains_iff, Nat.mod_one, and_true, or_false,
    isBlank, Bool.and_eq_true, decide_eq_true_eq, beq_iff_eq, hdot]
  omega

theorem isBlankOrDot_of_isBlank {c : Char} (h : isBlank c = true) : IsBlankOrDot c :=
  isBlankOrDot_iff.mpr (Or.inl h)

theorem isBlankOrDot_dot : IsBlankOrDot '.' := by
  decide

/-- A character that the table moves is sent by a shift of the table. -/
theorem exists_shift {n m : Nat} (h : shift? CaseTable.lowercase n = some m) :
    ∃ s, CaseTable.isClean s = true ∧ s.run.contains n = true ∧ s.imageRun.contains m = true := by
  obtain ⟨s, hs, hm⟩ := List.exists_of_findSome?_eq_some h
  refine ⟨s, List.all_eq_true.mp CaseTable.all_isClean.out s hs, ?_, Shift.contains_imageRun hm⟩
  rw [Shift.image?, Option.ite_none_right_eq_some] at hm
  exact hm.1

/-- Neither what a shift of the table moves nor where it goes is white space or the dot. -/
theorem not_isBlankOrDot_of_shift? {c : Char} {n m : Nat}
    (h : shift? CaseTable.lowercase n = some m) (hc : c.toNat = n ∨ c.toNat = m) :
    ¬ IsBlankOrDot c := by
  obtain ⟨s, hclean, hrun, himage⟩ := exists_shift h
  simp only [CaseTable.isClean, Bool.and_eq_true, List.all_eq_true] at hclean
  intro hblank
  obtain ⟨r, hr, hcontains⟩ := List.any_eq_true.mp hblank
  -- the shift is apart from white space and the dot at both its ends
  obtain ⟨hfrom, hto⟩ := hclean.1.1 r hr
  rcases hc with hc | hc
  · rw [hc, Run.not_contains_of_isApart hfrom hrun] at hcontains
    cases hcontains
  · rw [hc, Run.not_contains_of_isApart hto himage] at hcontains
    cases hcontains

/-- An image of the table is a character, and none that lower case has anything to do with. -/
theorem image_spec {n m : Nat} (h : shift? CaseTable.lowercase n = some m) :
    m.isValidChar ∧ shift? CaseTable.lowercase m = none ∧ m ≠ 'İ'.toNat ∧ m ≠ 'Σ'.toNat := by
  obtain ⟨s, hclean, -, hm⟩ := exists_shift h
  simp only [CaseTable.isClean, Bool.and_eq_true, Bool.or_eq_true, List.all_append,
    List.all_map, Nat.blt_eq] at hclean
  obtain ⟨⟨-, hcapitals, hshifts⟩, hvalid⟩ := hclean
  -- the image lies on the run of images, which is apart from all that must not be met
  obtain ⟨hfirst, hlast, -⟩ := Run.contains_iff.mp hm
  have hcapital : ∀ r ∈ CaseTable.capitals, r.contains m = false := fun r hr =>
    Run.not_contains_of_isApart (List.all_eq_true.mp hcapitals r hr) hm
  refine ⟨?_, ?_, ?_, ?_⟩
  · have htarget : s.imageRun.first = s.target := rfl
    rw [htarget] at hfirst
    rcases hvalid with h | ⟨hl, hr⟩
    · exact Or.inl (by omega)
    · exact Or.inr ⟨by omega, by omega⟩
  · refine List.findSome?_eq_none_iff.mpr fun t ht => ?_
    exact Shift.image?_eq_none (Run.not_contains_of_isApart (List.all_eq_true.mp hshifts t ht) hm)
  · rintro rfl
    exact absurd (hcapital ⟨0x130, 0x130, 1⟩ (by decide)) (by decide)
  · rintro rfl
    exact absurd (hcapital ⟨0x3A3, 0x3A3, 1⟩ (by decide)) (by decide)

theorem toLower_of_le {c : Char} (h : 0x80 ≤ c.toNat) : c.toLower = c := by
  refine dif_neg ?_
  rintro ⟨-, hle⟩
  have hnat := UInt32.le_iff_toNat_le.mp hle
  have : c.toNat ≤ 0x5A := hnat
  omega

theorem isAlpha_toLower (c : Char) : c.toLower.isAlpha = c.isAlpha := by
  rcases Nat.lt_or_ge c.toNat 0x80 with hc | hc
  · refine forall_ascii (P := fun c => c.toLower.isAlpha = c.isAlpha) ?_ hc
    decide
  · rw [toLower_of_le hc]

theorem toLower_of_isAlpha {c : Char} (h : c.isAlpha = false) : c.toLower = c := by
  rcases Nat.lt_or_ge c.toNat 0x80 with hc | hc
  · revert h
    refine forall_ascii (P := fun c => c.isAlpha = false → c.toLower = c) ?_ hc
    decide
  · exact toLower_of_le hc

/-- No letter is taken for what is no letter. -/
theorem toLower_eq_iff {c d : Char} (hd : d.isAlpha = false) : c.toLower = d ↔ c = d := by
  constructor
  · rintro rfl
    rw [isAlpha_toLower] at hd
    rw [toLower_of_isAlpha hd]
  · rintro rfl
    exact toLower_of_isAlpha hd

theorem isLower_ascii {c : Char} (hc : c.toNat < 0x80)
    (h : shift? CaseTable.lowercase c.toNat = none) : IsLower c := by
  have hall : IsLower c ∨ (shift? CaseTable.lowercase c.toNat).isSome = true := by
    -- tried in this order, the table is asked only for the capitals
    refine forall_ascii
      (P := fun c => IsLower c ∨ (shift? CaseTable.lowercase c.toNat).isSome = true) ?_ hc
    decide
  rw [h] at hall
  exact hall.resolve_right Bool.false_ne_true

theorem lowerChar_of_le {c : Char} (hc : 0x80 ≤ c.toNat) (hi : c ≠ 'İ') :
    lowerChar c = [Char.ofNat ((shift? CaseTable.lowercase c.toNat).getD c.toNat)] := by
  rw [lowerChar, if_neg (by omega), if_neg (by simpa using hi)]

/-- A character that the table does not move stays as it is. -/
theorem isLower_of_shift? {c : Char} (h : shift? CaseTable.lowercase c.toNat = none)
    (hi : c ≠ 'İ') : IsLower c := by
  rcases Nat.lt_or_ge c.toNat 0x80 with hc | hc
  · exact isLower_ascii hc h
  · refine ⟨?_, ?_⟩
    · -- what no shift moves is its own image
      rw [lowerChar_of_le hc hi, h, Option.getD_none, Char.ofNat_toNat]
    · rintro rfl
      revert h
      decide

theorem IsBlankOrDot.isLower {c : Char} (h : IsBlankOrDot c) : IsLower c := by
  refine isLower_of_shift? ?_ ?_
  · rw [Option.eq_none_iff_forall_ne_some]
    intro m hm
    exact not_isBlankOrDot_of_shift? hm (Or.inl rfl) h
  · rintro rfl
    exact absurd h (by decide)

theorem isLower_of_mem_lowerChar {c d : Char} (h : d ∈ lowerChar c) : IsLower d := by
  rcases Nat.lt_or_ge c.toNat 0x80 with hc | hc
  · refine forall_ascii (P := fun c => ∀ d ∈ lowerChar c, IsLower d) ?_ hc d h
    decide
  · by_cases hi : c = 'İ'
    · rw [hi] at h
      revert d
      decide
    · rw [lowerChar_of_le hc hi, List.mem_singleton] at h
      rcases hm : shift? CaseTable.lowercase c.toNat with _ | m
      · rw [hm, Option.getD_none, Char.ofNat_toNat] at h
        rw [h]
        exact isLower_of_shift? hm hi
      · rw [hm, Option.getD_some] at h
        obtain ⟨hvalid, hnone, hni, -⟩ := image_spec hm
        have hd : d.toNat = m := by rw [h, toNat_ofNat hvalid]
        refine isLower_of_shift? (by rwa [hd]) ?_
        rintro rfl
        exact hni hd.symm

/-- White space and the dot are not moved, and nothing else is sent there. -/
theorem eq_of_mem_lowerChar {c d : Char} (hd : d ∈ lowerChar c)
    (h : IsBlankOrDot c ∨ IsBlankOrDot d) : d = c := by
  rcases Nat.lt_or_ge c.toNat 0x80 with hc | hc
  · refine forall_ascii
      (P := fun c => ∀ d ∈ lowerChar c, IsBlankOrDot c ∨ IsBlankOrDot d → d = c) ?_ hc d hd h
    decide
  · by_cases hi : c = 'İ'
    · rw [hi] at hd h ⊢
      revert d
      decide
    · rw [lowerChar_of_le hc hi, List.mem_singleton] at hd
      rcases hm : shift? CaseTable.lowercase c.toNat with _ | m
      · rw [hm, Option.getD_none, Char.ofNat_toNat] at hd
        exact hd
      · rw [hm, Option.getD_some] at hd
        obtain ⟨hvalid, -⟩ := image_spec hm
        have hdm : d.toNat = m := by rw [hd, toNat_ofNat hvalid]
        rcases h with h | h
        · exact absurd h (not_isBlankOrDot_of_shift? hm (Or.inl rfl))
        · exact absurd h (not_isBlankOrDot_of_shift? hm (Or.inr hdm))

/-! ## Texts -/

/-- What becomes of a character between those before it, held backwards, and the rest. -/
def lowerAt (before : List Char) (c : Char) (rest : List Char) : List Char :=
  if c == 'Σ' then [if casedAhead before && !casedAhead rest then 'ς' else 'σ'] else lowerChar c

theorem lowerAfter_cons (before : List Char) (c : Char) (rest : List Char) :
    lowerAfter before (c :: rest) = lowerAt before c rest ++ lowerAfter (c :: before) rest := rfl

theorem lowerAt_ne_nil (before : List Char) (c : Char) (rest : List Char) :
    lowerAt before c rest ≠ [] := by
  rw [lowerAt]
  split
  · exact List.cons_ne_nil _ _
  · rw [lowerChar]
    split
    · exact List.cons_ne_nil _ _
    · split <;> exact List.cons_ne_nil _ _

theorem lowerAfter_concat (before cs : List Char) (c : Char) :
    ∃ front, lowerAfter before (cs ++ [c]) = front ++ lowerAt (cs.reverse ++ before) c [] := by
  induction cs generalizing before with
  | nil =>
    refine ⟨[], ?_⟩
    rw [List.nil_append, lowerAfter_cons, lowerAfter, List.append_nil]
    rfl
  | cons d rest ih =>
    obtain ⟨front, hfront⟩ := ih (d :: before)
    refine ⟨lowerAt before d (rest ++ [c]) ++ front, ?_⟩
    rw [List.cons_append, lowerAfter_cons, hfront, List.append_assoc, List.reverse_cons,
      List.append_assoc, List.singleton_append]

section

variable {before cs rest : List Char} {c d : Char}

theorem isLower_of_mem_lowerAt (h : d ∈ lowerAt before c rest) : IsLower d := by
  rw [lowerAt] at h
  split at h
  · rw [List.mem_singleton] at h
    rw [h]
    split <;> decide
  · exact isLower_of_mem_lowerChar h

theorem eq_of_mem_lowerAt (hd : d ∈ lowerAt before c rest)
    (h : IsBlankOrDot c ∨ IsBlankOrDot d) : d = c := by
  rw [lowerAt] at hd
  split at hd
  · rename_i hc
    rw [List.mem_singleton] at hd
    rw [beq_iff_eq] at hc
    rw [hc, hd] at h
    exfalso
    revert h
    split <;> decide
  · exact eq_of_mem_lowerChar hd h

theorem isLower_of_mem_lowerAfter (h : d ∈ lowerAfter before cs) : IsLower d := by
  induction cs generalizing before with
  | nil => cases h
  | cons c rest ih =>
    rw [lowerAfter_cons, List.mem_append] at h
    rcases h with h | h
    · exact isLower_of_mem_lowerAt h
    · exact ih h

theorem lowerAfter_eq_self (h : ∀ c ∈ cs, IsLower c) : lowerAfter before cs = cs := by
  induction cs generalizing before with
  | nil => rfl
  | cons c rest ih =>
    obtain ⟨hc, hsigma⟩ := h c (List.mem_cons_self ..)
    rw [lowerAfter_cons, lowerAt, if_neg (by simpa using hsigma), hc,
      ih fun d hd => h d (List.mem_cons_of_mem _ hd)]
    rfl

theorem lowerAfter_eq_nil_iff : lowerAfter before cs = [] ↔ cs = [] := by
  rcases cs with _ | ⟨c, rest⟩
  · exact Iff.rfl
  · rw [lowerAfter_cons, List.append_eq_nil_iff]
    exact ⟨fun h => absurd h.1 (lowerAt_ne_nil _ _ _), fun h => absurd h (List.cons_ne_nil _ _)⟩

theorem mem_lowerAfter_iff (hc : IsBlankOrDot c) : c ∈ lowerAfter before cs ↔ c ∈ cs := by
  induction cs generalizing before with
  | nil => exact Iff.rfl
  | cons d rest ih =>
    rw [lowerAfter_cons, List.mem_append, List.mem_cons, ih]
    constructor
    · rintro (h | h)
      · exact Or.inl (eq_of_mem_lowerAt h (Or.inr hc))
      · exact Or.inr h
    · rintro (rfl | h)
      · -- whatever stands in its place is itself
        obtain ⟨e, he⟩ := List.exists_mem_of_ne_nil _ (lowerAt_ne_nil before c rest)
        rw [eq_of_mem_lowerAt he (Or.inl hc)] at he
        exact Or.inl he
      · exact Or.inr h

/-- All characters of a text in lower case are in lower case. -/
theorem isLower_of_mem_lower (h : d ∈ lower cs) : IsLower d := isLower_of_mem_lowerAfter h

theorem lower_eq_self (h : ∀ c ∈ cs, IsLower c) : lower cs = cs := lowerAfter_eq_self h

@[simp] theorem lower_lower (cs : List Char) : lower (lower cs) = lower cs :=
  lower_eq_self fun _ => isLower_of_mem_lower

theorem lower_eq_nil_iff : lower cs = [] ↔ cs = [] := lowerAfter_eq_nil_iff

theorem mem_lower_iff (hc : IsBlankOrDot c) : c ∈ lower cs ↔ c ∈ cs := mem_lowerAfter_iff hc

/-- A text in lower case starts with white space or a dot if it did so before. -/
theorem head?_lower_iff (hd : IsBlankOrDot d) : (lower cs).head? = some d ↔ cs.head? = some d := by
  rcases cs with _ | ⟨c, rest⟩
  · exact Iff.rfl
  · obtain ⟨e, es, he⟩ := List.exists_cons_of_ne_nil (lowerAt_ne_nil [] c rest)
    have hmem : e ∈ lowerAt [] c rest := by rw [he]; exact List.mem_cons_self ..
    rw [lower, lowerAfter_cons, he, List.cons_append, List.head?_cons, List.head?_cons,
      Option.some.injEq, Option.some.injEq]
    constructor
    · rintro rfl
      exact (eq_of_mem_lowerAt hmem (Or.inr hd)).symm
    · rintro rfl
      exact eq_of_mem_lowerAt hmem (Or.inl hd)

/-- A text in lower case ends in white space or a dot if it did so before. -/
theorem getLast?_lower_iff (hd : IsBlankOrDot d) :
    (lower cs).getLast? = some d ↔ cs.getLast? = some d := by
  rcases List.eq_nil_or_concat cs with rfl | ⟨init, c, rfl⟩
  · exact Iff.rfl
  · obtain ⟨front, hfront⟩ := lowerAfter_concat [] init c
    obtain ⟨es, e, he⟩ := (List.eq_nil_or_concat
      (lowerAt (init.reverse ++ []) c [])).resolve_left (lowerAt_ne_nil _ _ _)
    rw [List.concat_eq_append] at he ⊢
    have hmem : e ∈ lowerAt (init.reverse ++ []) c [] := by
      rw [he]
      exact List.mem_concat_self
    rw [lower, hfront, he, ← List.append_assoc, List.getLast?_concat, List.getLast?_concat,
      Option.some.injEq, Option.some.injEq]
    constructor
    · rintro rfl
      exact (eq_of_mem_lowerAt hmem (Or.inr hd)).symm
    · rintro rfl
      exact eq_of_mem_lowerAt hmem (Or.inl hd)

end

end AdFilter.Text
