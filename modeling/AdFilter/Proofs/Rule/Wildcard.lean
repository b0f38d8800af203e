import AdFilter.Proofs.Pattern.Wildcard
import AdFilter.Proofs.Rule.Representation

/-!
# The wildcard rules of a filter list

Each pattern of a filter list is what some wildcard rule is written as (`exists_source_eq`), and
every rule is written as a pattern that can be read. So no pattern is lost on the way from the text
of a list into a set of rules, and each blocks just the addresses that begin as its rule says
(`wildcard_spec`).
-/

namespace AdFilter

variable {text source : List Char}

theorem exists_source_eq_of_ofLine? {line : List Char}
    (h : Entry.ofLine? line = some (.pattern source)) : ∃ rule, source = Wildcard.source rule := by
  have hdomain (d : List Char) : Entry.ofDomain? d ≠ some (.pattern source) := by
    rw [Entry.ofDomain?]
    split <;> simp
  rw [Entry.ofLine?, Option.ite_none_left_eq_some] at h
  obtain ⟨-, h⟩ := h
  split at h
  · exact absurd h (hdomain _)
  · split at h
    · split at h
      · exact absurd h (hdomain _)
      · cases h
    · rw [Option.ite_none_right_eq_some] at h
      cases h.2
      exact ⟨_, rfl⟩

/-- Each pattern of a filter list is that of a wildcard rule. -/
theorem exists_source_eq (h : source ∈ (FilterList.ofText text).patterns) :
    ∃ rule, source = Wildcard.source rule := by
  rw [FilterList.ofText, FilterList.ofEntries, List.mem_filterMap] at h
  obtain ⟨e, he, hsource⟩ := h
  obtain ⟨line, -, hline⟩ := List.mem_filterMap.mp he
  cases e with
  | domain name => cases hsource
  | pattern written =>
    cases hsource
    exact exists_source_eq_of_ofLine? hline

/-- A filter list keeps all its patterns when it becomes a batch. -/
theorem sources_ofList_ofText (text : List Char) :
    (Batch.ofList (.ofText text)).patterns.map (·.source) = (FilterList.ofText text).patterns := by
  rw [Batch.ofList, RuleSet.map_source_filterMap, List.filter_eq_self]
  intro source hsource
  obtain ⟨rule, rfl⟩ := exists_source_eq hsource
  rw [writesPattern, PatternRule.ofSource?, Wildcard.ofSource?_source]
  rfl

/-- Every wildcard rule is written as a pattern, and the search for the pattern finds a text if and
only if the rule, read character by character from the start, describes some beginning of the text.
So every pattern of every filter list is kept when the list is loaded. -/
theorem wildcard_spec (rule : List Char) :
    (∃ p, Pattern.ofSource? (Wildcard.source rule) = some p ∧
      ∀ text, p.occursIn text = true ↔ ∃ front back, front ++ back = text ∧
        Wildcard.Matches rule (.start text) (.between front back)) ∧
    ∀ text, (Batch.ofList (.ofText text)).patterns.map (·.source) =
      (FilterList.ofText text).patterns :=
  ⟨⟨Wildcard.pattern rule, Wildcard.ofSource?_source rule, Wildcard.occursIn_pattern_iff rule⟩,
    sources_ofList_ofText⟩

/-- A question mark stands for itself, and letter case does not count. -/
example : ["/AD?id=1", "/ad", "/adx=1", "/path/ad?id=1"].map
    (fun address => (Pattern.ofSource? (Wildcard.source "/ad?*^".toList)).map
      (·.occursIn address.toList)) = [some true, some false, some false, some false] := by
  decide +kernel

end AdFilter
