import AdFilter.Proofs.Pattern.Fitting
import AdFilter.Proofs.Pattern.Translation
import AdFilter.Proofs.Text.Fold

/-!
# Wildcard rules mean what they say

The search for the pattern that a rule is written as finds the texts that begin with a stretch which
the rule describes, character by character (`occursIn_pattern_iff`). Each part of the pattern means
what its character stands for (`matches_cons_iff`); for a separating character this takes that
change of letter case makes no word character of one that is none, nor the other way round.
-/

namespace AdFilter

open Text Cursor

/-! ## The sets of characters -/

theorem CharSet.contains_like {x y : Char} :
    (CharSet.like y).contains x = true ↔ fold x = fold y := by
  rw [like, contains, List.contains_iff_mem, List.mem_cons, mem_caseVariants_iff]
  refine or_iff_right_of_imp ?_
  rintro rfl
  rfl

namespace Wildcard

variable {rule text : List Char} {c d : Cursor} {x y : Char}

/-- Change of letter case makes no separating character of one that is none. -/
theorem contains_separators : separators.contains x = isSeparator x := by
  have hbase (z : Char) :
      (CharSet.unions [.having isWord, .list ['-'], .list ['.'], .list ['%']]).contains z =
        !isSeparator z := by
    rw [isSeparator, Bool.not_not, Bool.or_assoc, Bool.or_assoc, Bool.eq_iff_iff]
    simp [CharSet.unions, CharSet.none, CharSet.contains]
  rw [separators, CharSet.contains, CharSet.contains, hbase]
  rcases hx : isSeparator x
  · rfl
  · have hvariants : (caseVariants x).any
        (CharSet.unions [.having isWord, .list ['-'], .list ['.'], .list ['%']]).contains =
          false := by
      refine List.any_eq_false.mpr fun z hz => ?_
      rw [mem_caseVariants_iff] at hz
      by_cases hne : z = x
      · rw [hbase, hne, hx]
        decide
      · -- only word characters have case variants
        rw [isSeparator, isWord_of_fold_eq hz hne] at hx
        cases hx
    rw [hvariants]
    rfl

theorem contains_any : (CharSet.compl (.list ['\n'])).contains x = true ↔ x ≠ '\n' := by
  simp [CharSet.contains]

/-! ## Part by part -/

theorem exists_matches_one_iff {s : CharSet} {P : Cursor → Prop} :
    (∃ e, Pattern.Matches (.one s) c e ∧ P e) ↔
      ∃ i b x r, c = ⟨i, b, x :: r⟩ ∧ s.contains x = true ∧ P ⟨i + 1, some x, r⟩ := by
  simp only [Pattern.matches_one_iff]
  constructor
  · rintro ⟨_, ⟨i, b, x, r, rfl, rfl, hx⟩, h⟩
    exact ⟨i, b, x, r, rfl, hx, h⟩
  · rintro ⟨i, b, x, r, rfl, hx, h⟩
    exact ⟨_, ⟨i, b, x, r, rfl, rfl, hx⟩, h⟩

theorem matches_edge_iff : Matches ('|' :: rule) c d ↔
    WordKind.unicode.isWord c.before ≠ WordKind.unicode.isWord c.rest.head? ∧
      Matches rule c d := by
  constructor
  · intro h
    cases h with
    | edge hw h => exact ⟨hw, h⟩
    | char hy => exact absurd rfl hy.2.2
  · rintro ⟨hw, h⟩
    exact .edge hw h

theorem matches_separator_iff : Matches ('^' :: rule) c d ↔
    ∃ i b x r, c = ⟨i, b, x :: r⟩ ∧ isSeparator x = true ∧ Matches rule ⟨i + 1, some x, r⟩ d := by
  constructor
  · intro h
    cases h with
    | separator hx h => exact ⟨_, _, _, _, rfl, hx, h⟩
    | char hy => exact absurd rfl hy.2.1
  · rintro ⟨i, b, x, r, rfl, hx, h⟩
    exact .separator hx h

theorem matches_char_iff (hy : y ≠ '*' ∧ y ≠ '^' ∧ y ≠ '|') : Matches (y :: rule) c d ↔
    ∃ i b x r, c = ⟨i, b, x :: r⟩ ∧ fold x = fold y ∧ Matches rule ⟨i + 1, some x, r⟩ d := by
  constructor
  · intro h
    cases h with
    | char _ hx h => exact ⟨_, _, _, _, rfl, hx, h⟩
    | anyStop | anyMore => exact absurd rfl hy.1
    | separator => exact absurd rfl hy.2.1
    | edge => exact absurd rfl hy.2.2
  · rintro ⟨i, b, x, r, rfl, hx, h⟩
    exact .char hy hx h

theorem matches_any_iff : Matches ('*' :: rule) c d ↔
    ∃ e, Pattern.Matches anything c e ∧ Matches rule e d := by
  simp only [anything, Pattern.matches_times_iff_reflTransGen]
  constructor
  · intro h
    generalize hwhole : '*' :: rule = whole at h
    induction h with
    | anyStop h =>
      cases hwhole
      exact ⟨_, .refl, h⟩
    | anyMore hx _ ih =>
      obtain ⟨e, hreach, h⟩ := ih hwhole
      exact ⟨e, .head (.one _ _ _ (contains_any.mpr hx)) hreach, h⟩
    | char hy =>
      cases hwhole
      exact absurd rfl hy.1
    | _ => cases hwhole
  · rintro ⟨e, hreach, h⟩
    induction hreach using Relation.ReflTransGen.head_induction_on with
    | refl => exact .anyStop h
    | head hone _ ih =>
      obtain ⟨i, b, x, r, rfl, rfl, hx⟩ := Pattern.matches_one_iff.mp hone
      exact .anyMore (contains_any.mp hx) ih

/-- A rule describes what the part for its first character and then the rest of it do. -/
theorem matches_cons_iff : Matches (y :: rule) c d ↔
    ∃ e, Pattern.Matches (part y).pattern c e ∧ Matches rule e d := by
  rw [part]
  split
  · rename_i hy
    rw [hy, matches_edge_iff]
    constructor
    · rintro ⟨hw, h⟩
      exact ⟨c, .look (bne_iff_ne.mpr hw), h⟩
    · rintro ⟨e, hlook, h⟩
      cases hlook with
      | look hw => exact ⟨bne_iff_ne.mp hw, h⟩
  · rename_i hedge
    split
    · rename_i hy
      rw [hy, matches_separator_iff, exists_matches_one_iff]
      simp only [contains_separators]
    · rename_i hseparator
      split
      · rename_i hy
        rw [hy, matches_any_iff]
      · rename_i hany
        rw [matches_char_iff ⟨hany, hseparator, hedge⟩, exists_matches_one_iff]
        simp only [CharSet.contains_like]

theorem matches_nil_iff : Matches [] c d ↔ c = d := by
  constructor
  · intro h
    cases h
    rfl
  · rintro rfl
    exact .done c

/-! ## The whole -/

theorem matches_seqs_iff :
    Pattern.Matches (.seqs (rule.map fun y => (part y).pattern)) c d ↔ Matches rule c d := by
  induction rule generalizing c with
  | nil => exact Pattern.matches_empty_iff.trans matches_nil_iff.symm
  | cons y rule ih =>
    rw [matches_cons_iff, List.map_cons, Pattern.seqs, List.foldr_cons, ← Pattern.seqs,
      Pattern.matches_seq_iff]
    simp only [ih]

/-- The pattern describes what the rule does, at the start of a text only. -/
theorem matches_pattern_iff :
    Pattern.Matches (pattern rule) c d ↔ c.before = none ∧ Matches rule c d := by
  have hstart {e : Cursor} :
      Pattern.Matches (.look .textStart) c e ↔ c = e ∧ c.before = none := by
    rw [Pattern.matches_look_iff, Look.holds, Option.isNone_iff_eq_none]
  rcases rule with _ | ⟨y, rule⟩
  · rw [matches_nil_iff, and_comm]
    exact hstart
  · have hpattern : pattern (y :: rule) = .seq (.look .textStart)
        (.seqs (((y :: rule).map part).map (·.pattern))) := rfl
    rw [hpattern, List.map_map, Pattern.matches_seq_iff]
    simp only [hstart]
    constructor
    · rintro ⟨_, ⟨rfl, hbefore⟩, h⟩
      exact ⟨hbefore, matches_seqs_iff.mp h⟩
    · rintro ⟨hbefore, h⟩
      exact ⟨c, ⟨rfl, hbefore⟩, matches_seqs_iff.mpr h⟩

/-- A rule leads from one place of a text to another. -/
theorem Matches.isPlace (h : Matches rule c d) (hc : c.IsPlace text) : d.IsPlace text := by
  induction h with
  | done => exact hc
  | anyStop _ ih | edge _ _ ih => exact ih hc
  | anyMore _ _ ih | separator _ _ ih | char _ _ _ ih => exact ih hc.next

/-- The search for a rule finds the texts that begin with a stretch which the rule describes. -/
theorem occursIn_pattern_iff (rule text : List Char) : (pattern rule).occursIn text = true ↔
    ∃ front back, front ++ back = text ∧ Matches rule (start text) (between front back) := by
  rw [Pattern.occursIn_iff_of_ofSource? (ofSource?_source rule)]
  simp only [matches_pattern_iff]
  constructor
  · rintro ⟨c, hc, d, hbefore, h⟩
    obtain ⟨front, back, htext, rfl⟩ := h.isPlace hc
    rw [hc.eq_start hbefore] at h
    exact ⟨front, back, htext, h⟩
  · rintro ⟨front, back, -, h⟩
    exact ⟨start text, isPlace_start text, _, rfl, h⟩

end Wildcard

end AdFilter
