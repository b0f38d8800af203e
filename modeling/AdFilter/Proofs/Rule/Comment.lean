import AdFilter.Proofs.Rule.Grammar

/-!
# Comments behind an entry

Words are taken from a line by their place, and a comment behind them is more words. So it changes
nothing where two words stand before it, and where there is one it is taken for the second: a domain
that stands alone is lost, and an address without a domain gets one if the comment begins with what
looks like it. `comment_spec` says just when a comment behind an entry is harmless.
-/

namespace AdFilter

open Text

/-- A line with a comment behind it. -/
def withComment (line comment : List Char) : List Char := line ++ ' ' :: '#' :: comment

/-- The first word of a comment, its mark included. -/
def commentWord (comment : List Char) : List Char := '#' :: comment.takeWhile (!isBlank ·)

variable {line comment w : List Char}

theorem words_withComment (line comment : List Char) : words (withComment line comment) =
    words line ++ commentWord comment :: words (comment.dropWhile (!isBlank ·)) := by
  rw [withComment, words_append_blank (by decide), words_eq_cons (by decide), commentWord]

theorem not_mem_withComment (hline : '\n' ∉ line) (hcomment : '\n' ∉ comment) :
    '\n' ∉ withComment line comment := by
  simp [withComment, hline, hcomment]

/-! ## Overrides -/

/-- What the words of a line of overrides say. -/
def domainOfWords? : List (List Char) → Option (List Char)
  | [] => none
  | first :: rest =>
    if first.head? = some '#' then none
    else if '.' ∈ rest.headD first then some (lower (rest.headD first)) else none

theorem overrideDomain?_eq_domainOfWords? (line : List Char) :
    overrideDomain? line = domainOfWords? (words line) := by
  have hempty : (trim line).isEmpty = (words line).isEmpty := by
    rw [Bool.eq_iff_iff, List.isEmpty_iff, List.isEmpty_iff, trim_eq_nil_iff]
  rw [overrideDomain?, words_trim, hempty, head?_trim]
  rcases words line with _ | ⟨first, _ | ⟨second, rest⟩⟩
  · rfl
  · simp [domainOfWords?]
  · simp [domainOfWords?]

/-- A single line of overrides. -/
theorem overrideDomains_of_line (h : '\n' ∉ line) :
    overrideDomains line = (domainOfWords? (words line)).toList := by
  rw [overrideDomains_eq_filterMap (.last h), ← overrideDomain?_eq_domainOfWords?,
    List.filterMap_cons]
  rcases overrideDomain? line with _ | d <;> rfl

/-- Behind a single word, the comment is taken for the domain. -/
theorem domainOfWords?_withComment_of_single (h : words line = [w]) (hw : w.head? ≠ some '#') :
    domainOfWords? (words (withComment line comment)) =
      if '.' ∈ commentWord comment then some (lower (commentWord comment)) else none := by
  rw [words_withComment, h]
  exact if_neg hw

/-- Otherwise the comment is not looked at. -/
theorem domainOfWords?_withComment (h : ∀ w, words line = [w] → w.head? = some '#') :
    domainOfWords? (words (withComment line comment)) = domainOfWords? (words line) := by
  rw [words_withComment]
  rcases hwords : words line with _ | ⟨first, _ | ⟨second, rest⟩⟩
  · rfl
  · rw [domainOfWords?, List.cons_append, domainOfWords?, if_pos (h first hwords),
      if_pos (h first hwords)]
  · rfl

/-- Taken for the domain, a comment does no harm only if there is no domain either way. -/
theorem domainOfWords?_single_iff (hw : w.head? ≠ some '#') :
    (if '.' ∈ commentWord comment then some (lower (commentWord comment)) else none) =
      domainOfWords? [w] ↔ '.' ∉ w ∧ '.' ∉ commentWord comment := by
  have hne : lower (commentWord comment) ≠ lower w := by
    intro h
    refine hw (head?_of_head?_lower (by decide) (by decide) ?_)
    rw [← h, commentWord, head?_lower_cons (by decide)]
    rfl
  rw [domainOfWords?, if_neg hw, List.headD_nil]
  by_cases hcomment : '.' ∈ commentWord comment <;> by_cases hdot : '.' ∈ w <;>
    simp [hcomment, hdot, hne]

theorem overrideDomains_eq_iff {other : List Char} (h : '\n' ∉ line) (hother : '\n' ∉ other) :
    overrideDomains other = overrideDomains line ↔
      domainOfWords? (words other) = domainOfWords? (words line) := by
  rw [overrideDomains_of_line h, overrideDomains_of_line hother]
  rcases domainOfWords? (words other) with _ | d <;>
    rcases domainOfWords? (words line) with _ | e <;> simp

theorem overrideDomains_withComment_iff (hline : '\n' ∉ line) (hcomment : '\n' ∉ comment) :
    overrideDomains (withComment line comment) = overrideDomains line ↔
      ∀ w, words line = [w] → w.head? = some '#' ∨ '.' ∉ w ∧ '.' ∉ commentWord comment := by
  rw [overrideDomains_eq_iff hline (not_mem_withComment hline hcomment)]
  by_cases h : ∀ w, words line = [w] → w.head? = some '#'
  · exact iff_of_true (domainOfWords?_withComment h) fun w hw => Or.inl (h w hw)
  · push Not at h
    obtain ⟨w, hwords, hw⟩ := h
    rw [domainOfWords?_withComment_of_single hwords hw, hwords, domainOfWords?_single_iff hw]
    constructor
    · rintro hnone v hv
      cases hv
      exact Or.inr hnone
    · intro hall
      exact (hall w rfl).resolve_left hw

/-! ## Lines as in a hosts file -/

theorem IsSinkLine.withComment (h : IsSinkLine (trim line)) (comment : List Char) :
    IsSinkLine (trim (withComment line comment)) := by
  have hprefix : trim line <+: trim (AdFilter.withComment line comment) :=
    trim_prefix_trim_append ⟨'#', by simp, by decide⟩
  exact h.imp (·.trans hprefix) (·.trans hprefix)

theorem ofLine?_withComment_of_single (h : IsSinkLine (trim line)) (hwords : words line = [w]) :
    Entry.ofLine? (withComment line comment) = Entry.ofDomain? (commentWord comment) := by
  rw [ofLine?_eq_secondDomain? (h.withComment comment), secondDomain?, words_withComment, hwords]
  rfl

theorem ofLine?_withComment_iff (h : IsSinkLine (trim line)) :
    Entry.ofLine? (withComment line comment) = Entry.ofLine? line ↔
      ∀ w, words line = [w] → ¬ IsDomain (commentWord comment) := by
  rcases hwords : words line with _ | ⟨first, _ | ⟨second, rest⟩⟩
  · rw [trim_eq_nil_iff.mpr hwords] at h
    rcases h.head? with h | h <;> cases h
  · rw [ofLine?_withComment_of_single h hwords, ofLine?_eq_secondDomain? h, secondDomain?, hwords]
    refine ofDomain?_eq_none_iff.trans ⟨fun hno _ _ => hno, fun hno => hno first rfl⟩
  · rw [ofLine?_eq_secondDomain? (h.withComment comment), ofLine?_eq_secondDomain? h,
      secondDomain?, secondDomain?, words_withComment, hwords]
    refine iff_of_true rfl fun w hw => ?_
    cases hw

/-! ## Both -/

/-- A comment behind a line changes nothing in the user's overrides if there is not just one word in
front of it, or that is a comment itself, or there is no dot in this word and none in the first one
of the comment; and otherwise it takes the place of the domain. Behind the address of a hosts file
it changes nothing in a filter list if a word stands between, or the first word of the comment is no
domain; and otherwise it is taken for the domain. -/
theorem comment_spec (line comment : List Char) (hline : '\n' ∉ line) (hcomment : '\n' ∉ comment) :
    (overrideDomains (withComment line comment) = overrideDomains line ↔
      ∀ w, words line = [w] → w.head? = some '#' ∨ '.' ∉ w ∧ '.' ∉ commentWord comment) ∧
    (∀ w, words line = [w] → w.head? ≠ some '#' → overrideDomains (withComment line comment) =
      if '.' ∈ commentWord comment then [lower (commentWord comment)] else []) ∧
    (IsSinkLine (trim line) →
      (Entry.ofLine? (withComment line comment) = Entry.ofLine? line ↔
        ∀ w, words line = [w] → ¬ IsDomain (commentWord comment)) ∧
      ∀ w, words line = [w] →
        Entry.ofLine? (withComment line comment) = Entry.ofDomain? (commentWord comment)) := by
  refine ⟨overrideDomains_withComment_iff hline hcomment, fun w hwords hw => ?_,
    fun h => ⟨ofLine?_withComment_iff h, fun w => ofLine?_withComment_of_single h⟩⟩
  rw [overrideDomains_of_line (not_mem_withComment hline hcomment),
    domainOfWords?_withComment_of_single hwords hw]
  split <;> rfl

/-- A domain that stands alone is lost with a comment behind it, and an address without a domain
gets one. -/
theorem comment_spec_of_single :
    overrideDomains "ads.example.com".toList = ["ads.example.com".toList] ∧
      overrideDomains "ads.example.com # mine".toList = [] ∧
      Entry.ofLine? "0.0.0.0".toList = none ∧
      Entry.ofLine? "0.0.0.0 #ads.example.com".toList =
        some (.domain "#ads.example.com".toList) := by
  have hbare := (comment_spec "ads.example.com".toList " mine".toList (by decide) (by decide)).2.1
    "ads.example.com".toList (by decide) (by decide)
  have hsink := (comment_spec "0.0.0.0".toList "ads.example.com".toList (by decide)
    (by decide)).2.2 (Or.inl (by decide))
  refine ⟨by decide, hbare.trans (by decide), by decide, ?_⟩
  exact (hsink.2 "0.0.0.0".toList (by decide)).trans (by decide)

end AdFilter
