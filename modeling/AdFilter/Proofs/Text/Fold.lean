import AdFilter.Proofs.Text.Lower

/-!
# Letter case that does not count

`fold` stands for all case variants of a character: it sends what it sends to no further
(`fold_fold`), and the case variants of a character are those that it sends to the same one
(`mem_caseVariants_iff`). A character with case variants other than itself is part of words
(`isWord_of_fold_eq`), so change of case neither makes word characters nor unmakes them.

All this is read off the tables. A list of runs is turned into one number, of which each bit says
whether a code point lies on a run; lists of any length are then compared by a few operations on
numbers.
-/

namespace AdFilter.Text

/-! ## Runs as the bits of a number -/

/-- The code points on a run. -/
def Run.members (r : Run) : List Nat :=
  ((List.range (r.last + 1 - r.first)).map (r.first + ·)).filter r.contains

theorem Run.mem_members_iff {r : Run} {n : Nat} : n ∈ r.members ↔ r.contains n = true := by
  rw [members, List.mem_filter]
  refine and_iff_right_of_imp fun h => ?_
  obtain ⟨hfirst, hlast, -⟩ := contains_iff.mp h
  exact List.mem_map.mpr ⟨n - r.first, List.mem_range.mpr (by omega), by omega⟩

/-- The number in which the bits for some code points are set. -/
def bitsOf (ns : List Nat) : Nat := ns.foldr (fun n bits => 1 <<< n ||| bits) 0

theorem testBit_bitsOf {ns : List Nat} {n : Nat} : (bitsOf ns).testBit n = true ↔ n ∈ ns := by
  induction ns with
  | nil => simp [bitsOf]
  | cons m ns ih =>
    rw [bitsOf, List.foldr_cons, ← bitsOf, Nat.testBit_or, Nat.one_shiftLeft, Nat.testBit_two_pow,
      Bool.or_eq_true, ih, decide_eq_true_eq, List.mem_cons, eq_comm]

/-- The number in which the bits for all code points on some runs are set. -/
def runBits (rs : List Run) : Nat := rs.foldr (fun r bits => bitsOf r.members ||| bits) 0

theorem testBit_runBits {rs : List Run} {n : Nat} :
    (runBits rs).testBit n = true ↔ ∃ r ∈ rs, r.contains n = true := by
  induction rs with
  | nil => simp [runBits]
  | cons r rs ih =>
    rw [runBits, List.foldr_cons, ← runBits, Nat.testBit_or, Bool.or_eq_true, ih, testBit_bitsOf,
      Run.mem_members_iff]
    simp only [List.mem_cons, exists_eq_or_imp]

/-- Whether no code point is on two of the runs, or on one and among those seen already. -/
def areApart (seen : Nat) : List Run → Bool
  | [] => true
  | r :: rs =>
    Nat.beq (seen &&& bitsOf r.members) 0 && areApart (seen ||| bitsOf r.members) rs

theorem not_contains_of_areApart {rs : List Run} {seen n : Nat} {r : Run}
    (h : areApart seen rs = true) (hr : r ∈ rs) (hn : seen.testBit n = true) :
    r.contains n = false := by
  induction rs generalizing seen with
  | nil => cases hr
  | cons q rs ih =>
    rw [areApart, Bool.and_eq_true, Nat.beq_eq] at h
    rcases List.mem_cons.mp hr with rfl | hr
    · have hboth : (seen &&& bitsOf r.members).testBit n = false := by
        rw [h.1, Nat.zero_testBit]
      rw [Nat.testBit_and, hn, Bool.true_and] at hboth
      rw [Bool.eq_false_iff]
      intro hc
      rw [testBit_bitsOf.mpr (Run.mem_members_iff.mpr hc)] at hboth
      cases hboth
    · exact ih h.2 hr (by rw [Nat.testBit_or, hn, Bool.true_or])

theorem Shift.image?_eq_some_iff {s : Shift} {n m : Nat} :
    s.image? n = some m ↔ s.run.contains n = true ∧ n - s.run.first + s.target = m := by
  rw [image?, Option.ite_none_right_eq_some, Option.some_inj]

/-- Among shifts with nothing in common, any that moves a code point is the first to do so. -/
theorem shift?_eq_some_of_mem {shifts : List Shift} {seen n m : Nat} {s : Shift}
    (h : areApart seen (shifts.map (·.run)) = true) (hs : s ∈ shifts) (hm : s.image? n = some m) :
    shift? shifts n = some m := by
  induction shifts generalizing seen with
  | nil => cases hs
  | cons t shifts ih =>
    rw [List.map_cons, areApart, Bool.and_eq_true] at h
    rw [shift?, List.findSome?_cons]
    rcases List.mem_cons.mp hs with rfl | hs
    · rw [hm]
    · have ht : t.run.contains n = false := by
        rw [Bool.eq_false_iff]
        intro hc
        have hseen : (seen ||| bitsOf t.run.members).testBit n = true := by
          rw [Nat.testBit_or, testBit_bitsOf.mpr (Run.mem_members_iff.mpr hc), Bool.or_true]
        have hnot := not_contains_of_areApart h.2 (List.mem_map_of_mem hs) hseen
        rw [(Shift.image?_eq_some_iff.mp hm).1] at hnot
        cases hnot
      rw [Shift.image?_eq_none ht]
      exact ih h.2 hs

/-! ## The table -/

namespace CaseTable

/-- The code points that folding moves. -/
def folded : List Run := folding.map (·.run)

/-- The code points that folding moves others to. -/
def standing : List Run := folding.map (·.imageRun)

/-- The characters in lower, upper or title case. -/
def cased : List Run :=
  CategoryTable.lowercaseLetter ++ CategoryTable.uppercaseLetter ++
    CategoryTable.titlecaseLetter ++ PropertyTable.otherLowercase ++ PropertyTable.otherUppercase

/-- Whether a run lies behind ASCII, or within its capital or its small letters. -/
def isClearOfAscii (r : Run) : Bool :=
  Nat.ble 0x80 r.first || (Nat.ble 0x41 r.first && Nat.ble r.last 0x5A) ||
    (Nat.ble 0x61 r.first && Nat.ble r.last 0x7A)

/-- Whether all code points on a run are characters. -/
def isRunOfChars (r : Run) : Bool :=
  Nat.blt r.last 0xD800 || (Nat.blt 0xDFFF r.first && Nat.blt r.last 0x110000)

/-- What is seen of the runs of the folding table, all of them taken together. -/
class IsFoldingTable (folded standing : List Run) : Prop where
  /-- No code point is moved by two shifts. -/
  apart : areApart 0 folded = true
  /-- What others are moved to is not moved. -/
  stays : runBits folded &&& runBits standing = 0
  /-- Whatever the table has to do with is in lower, upper or title case. -/
  inCase : (runBits folded ||| runBits standing) &&& runBits cased =
    runBits folded ||| runBits standing
  chars : (folded ++ standing).all isRunOfChars = true
  clear : (folded ++ standing).all isClearOfAscii = true

instance isFoldingTable : IsFoldingTable folded standing where
  apart := by decide +kernel
  stays := Nat.eq_of_beq_eq_true (by decide +kernel)
  inCase := Nat.eq_of_beq_eq_true (by decide +kernel)
  chars := by decide +kernel
  clear := by decide +kernel

/-- Whether a code point is moved, or others are moved to it. -/
def HasVariants (n : Nat) : Prop := (runBits folded ||| runBits standing).testBit n = true

theorem isValidChar_of_contains {r : Run} (hr : r ∈ folded ++ standing) {n : Nat}
    (hn : r.contains n = true) : n.isValidChar := by
  have hchars := List.all_eq_true.mp isFoldingTable.chars r hr
  simp only [isRunOfChars, Bool.or_eq_true, Bool.and_eq_true, Nat.blt_eq] at hchars
  obtain ⟨hfirst, hlast, -⟩ := Run.contains_iff.mp hn
  unfold Nat.isValidChar
  omega

section

variable {n m : Nat} {s : Shift}

theorem shift?_of_mem (hs : s ∈ folding) (hm : s.image? n = some m) : shift? folding n = some m :=
  shift?_eq_some_of_mem isFoldingTable.apart hs hm

/-- A code point that is moved: the shift, and what else is known. -/
theorem exists_of_shift? (h : shift? folding n = some m) :
    ∃ s ∈ folding, s.image? n = some m ∧ s.run.contains n = true ∧
      s.imageRun.contains m = true := by
  obtain ⟨s, hs, hm⟩ := List.exists_of_findSome?_eq_some h
  exact ⟨s, hs, hm, (Shift.image?_eq_some_iff.mp hm).1, Shift.contains_imageRun hm⟩

theorem run_mem_folded (hs : s ∈ folding) : s.run ∈ folded := List.mem_map_of_mem hs

theorem imageRun_mem_standing (hs : s ∈ folding) : s.imageRun ∈ standing := List.mem_map_of_mem hs

theorem hasVariants_iff : HasVariants n ↔ ∃ r ∈ folded ++ standing, r.contains n = true := by
  simp only [HasVariants, Nat.testBit_or, Bool.or_eq_true, testBit_runBits, List.mem_append,
    or_and_right, exists_or]

theorem hasVariants_of_shift? (h : shift? folding n = some m) : HasVariants n := by
  obtain ⟨s, hs, -, hrun, -⟩ := exists_of_shift? h
  exact hasVariants_iff.mpr ⟨_, List.mem_append_left _ (run_mem_folded hs), hrun⟩

theorem hasVariants_of_image (h : shift? folding n = some m) : HasVariants m := by
  obtain ⟨s, hs, -, -, himage⟩ := exists_of_shift? h
  exact hasVariants_iff.mpr ⟨_, List.mem_append_right _ (imageRun_mem_standing hs), himage⟩

/-- What others are moved to is not moved. -/
theorem shift?_image (h : shift? folding n = some m) : shift? folding m = none := by
  rcases hm : shift? folding m with _ | k
  · rfl
  · obtain ⟨s, hs, -, -, himage⟩ := exists_of_shift? h
    obtain ⟨t, ht, -, hrun, -⟩ := exists_of_shift? hm
    have hboth : (runBits folded &&& runBits standing).testBit m = true := by
      rw [Nat.testBit_and, testBit_runBits.mpr ⟨_, run_mem_folded ht, hrun⟩,
        testBit_runBits.mpr ⟨_, imageRun_mem_standing hs, himage⟩, Bool.and_self]
    rw [isFoldingTable.stays, Nat.zero_testBit] at hboth
    cases hboth

end

/-- A character with case variants is in lower, upper or title case. -/
theorem inRuns_cased {c : Char} (h : HasVariants c.toNat) : inRuns cased c = true := by
  have hbits :
      ((runBits folded ||| runBits standing) &&& runBits cased).testBit c.toNat = true := by
    rw [isFoldingTable.inCase]
    exact h
  rw [Nat.testBit_and, Bool.and_eq_true, testBit_runBits] at hbits
  exact List.any_eq_true.mpr hbits.2

/-- In ASCII only letters have case variants. -/
theorem isAlphanum_of_hasVariants {c : Char} (h : HasVariants c.toNat) (hc : c.toNat < 0x80) :
    c.isAlphanum = true := by
  obtain ⟨r, hr, hcontains⟩ := hasVariants_iff.mp h
  have hclear := List.all_eq_true.mp isFoldingTable.clear r hr
  simp only [isClearOfAscii, Bool.or_eq_true, Bool.and_eq_true, Nat.ble_eq] at hclear
  obtain ⟨hfirst, hlast, -⟩ := Run.contains_iff.mp hcontains
  have hletter : (0x41 ≤ c.toNat ∧ c.toNat ≤ 0x5A) ∨ (0x61 ≤ c.toNat ∧ c.toNat ≤ 0x7A) := by
    omega
  refine forall_ascii (P := fun c => (0x41 ≤ c.toNat ∧ c.toNat ≤ 0x5A) ∨
    (0x61 ≤ c.toNat ∧ c.toNat ≤ 0x7A) → c.isAlphanum = true) ?_ hc hletter
  decide

end CaseTable

/-! ## Folding -/

open CaseTable

section

variable {c d : Char}

theorem isValidChar_foldNat (c : Char) : (foldNat c.toNat).isValidChar := by
  rw [foldNat]
  rcases h : shift? folding c.toNat with _ | m
  · exact c.valid
  · obtain ⟨s, hs, -, -, himage⟩ := exists_of_shift? h
    exact isValidChar_of_contains (List.mem_append_right _ (imageRun_mem_standing hs)) himage

theorem toNat_fold (c : Char) : (fold c).toNat = foldNat c.toNat :=
  toNat_ofNat (isValidChar_foldNat c)

theorem foldNat_foldNat (n : Nat) : foldNat (foldNat n) = foldNat n := by
  rcases h : shift? folding n with _ | m
  · have hn : foldNat n = n := by rw [foldNat, h, Option.getD_none]
    rw [hn, hn]
  · have hn : foldNat n = m := by rw [foldNat, h, Option.getD_some]
    rw [hn, foldNat, shift?_image h, Option.getD_none]

theorem fold_fold (c : Char) : fold (fold c) = fold c := by
  rw [fold, toNat_fold, foldNat_foldNat, ← fold]

theorem fold_eq_fold_iff : fold d = fold c ↔ foldNat d.toNat = foldNat c.toNat := by
  rw [← toNat_fold, ← toNat_fold]
  exact ⟨congrArg _, fun h => by rw [← Char.ofNat_toNat (fold d), h, Char.ofNat_toNat]⟩

/-- A character is moved by folding, or it stands for itself. -/
theorem fold_cases (c : Char) :
    (∃ s ∈ folding, s.image? c.toNat = some (fold c).toNat) ∨ fold c = c := by
  rw [toNat_fold, foldNat]
  rcases h : shift? folding c.toNat with _ | m
  · right
    rw [fold, foldNat, h, Option.getD_none, Char.ofNat_toNat]
  · obtain ⟨s, hs, hm, -⟩ := exists_of_shift? h
    exact Or.inl ⟨s, hs, hm⟩

/-- The case variants of a character are those that folding does not tell from it. -/
theorem mem_caseVariants_iff : d ∈ caseVariants c ↔ fold d = fold c := by
  rw [caseVariants, caseVariantsNat, List.map_cons, ← fold, List.mem_cons, ← toNat_fold]
  constructor
  · rintro (rfl | h)
    · exact fold_fold c
    · obtain ⟨n, hn, rfl⟩ := List.mem_map.mp h
      obtain ⟨s, hs, hsource⟩ := List.mem_filterMap.mp hn
      have himage := Shift.image?_of_source? hsource
      have hchar : (Char.ofNat n).toNat = n := toNat_ofNat (isValidChar_of_contains
        (List.mem_append_left _ (run_mem_folded hs)) (Shift.image?_eq_some_iff.mp himage).1)
      rw [fold_eq_fold_iff, hchar, foldNat, shift?_of_mem hs himage, Option.getD_some, toNat_fold]
  · intro h
    rcases fold_cases d with ⟨s, hs, himage⟩ | hself
    · right
      rw [h] at himage
      refine List.mem_map.mpr ⟨d.toNat, ?_, Char.ofNat_toNat d⟩
      exact List.mem_filterMap.mpr ⟨s, hs, Shift.source?_of_image? himage⟩
    · exact Or.inl (hself.symm.trans h)

theorem hasVariants_of_fold_eq (h : fold d = fold c) (hne : d ≠ c) : HasVariants c.toNat := by
  rcases fold_cases c with ⟨s, hs, himage⟩ | hc
  · exact hasVariants_of_shift? (shift?_of_mem hs himage)
  · rcases fold_cases d with ⟨s, hs, himage⟩ | hd
    · -- the other character is moved here
      rw [h, hc] at himage
      exact hasVariants_of_image (shift?_of_mem hs himage)
    · exact absurd (hd.symm.trans (h.trans hc)) hne

/-- A character with another case variant is a word character. -/
theorem isWord_of_fold_eq (h : fold d = fold c) (hne : d ≠ c) : isWord c = true := by
  have hvariants := hasVariants_of_fold_eq h hne
  rw [isWord]
  split
  · rename_i hascii
    rw [isAlphanum_of_hasVariants hvariants hascii, Bool.true_or]
  · have hcased := inRuns_cased hvariants
    simp only [inRuns, cased, List.any_append, Bool.or_eq_true] at hcased
    rw [Bool.or_eq_true, Bool.or_eq_true]
    refine Or.inl (Or.inl ?_)
    simp only [isAlphabetic, isLowercase, isUppercase, inCategories, List.any_cons,
      Category.contains, Category.runs, inRuns, Bool.or_eq_true]
    tauto

end

end AdFilter.Text
