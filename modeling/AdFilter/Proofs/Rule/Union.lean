import AdFilter.Proofs.Rule.NormalForm

/-!
# Sets with lists put in

When lists are put into a set of rules, one after the other, the set holds what it held before and
what is in some of the lists (`RuleSet.mem_domains_changeAll`, `RuleSet.mem_sources_changeAll`).
Which list comes first matters for the order of the patterns only.
-/

namespace AdFilter

namespace RuleSet

variable {s : RuleSet} {ls : List FilterList} {d source : List Char}

/-- The sources of the patterns in a set. -/
def sources (s : RuleSet) : List (List Char) := s.patterns.map (·.source)

theorem mem_sources_insertPattern {p : PatternRule} :
    source ∈ (s.insertPattern p).sources ↔ source ∈ s.sources ∨ source = p.source := by
  rw [insertPattern]
  split
  · rename_i h
    -- the source is there already
    have hp : p.source ∈ s.sources := List.mem_map.mpr (hasSource_iff.mp h)
    constructor
    · exact Or.inl
    · rintro (h | rfl)
      · exact h
      · exact hp
  · rw [sources, List.map_append, List.mem_append, List.map_singleton, List.mem_singleton, sources]

theorem mem_sources_foldl_insertPattern {ps : List PatternRule} :
    source ∈ (ps.foldl insertPattern s).sources ↔
      source ∈ s.sources ∨ ∃ p ∈ ps, p.source = source := by
  induction ps generalizing s with
  | nil => simp
  | cons p ps ih =>
    rw [List.foldl_cons, ih, mem_sources_insertPattern, or_assoc]
    simp [eq_comm]

/-- The sources of the patterns of a batch are those that write patterns. -/
theorem mem_sources_ofList {l : FilterList} :
    (∃ p ∈ (Batch.ofList l).patterns, p.source = source) ↔
      source ∈ l.patterns ∧ (PatternRule.ofSource? source).isSome = true := by
  constructor
  · rintro ⟨p, hp, rfl⟩
    obtain ⟨text, htext, hof⟩ := List.mem_filterMap.mp hp
    rw [PatternRule.source_of_ofSource? hof, hof]
    exact ⟨htext, rfl⟩
  · rintro ⟨hmem, hsome⟩
    obtain ⟨p, hp⟩ := Option.isSome_iff_exists.mp hsome
    exact ⟨p, List.mem_filterMap.mpr ⟨source, hmem, hp⟩, PatternRule.source_of_ofSource? hp⟩

/-- The domains are those from before and, in lower case, those of the lists. -/
theorem mem_domains_changeAll : d ∈ (s.changeAll (ls.map .apply)).domains ↔
    d ∈ s.domains ∨ ∃ l ∈ ls, d ∈ l.domains.map Text.lower := by
  induction ls generalizing s with
  | nil => simp
  | cons l ls ih =>
    have happly : d ∈ (s.change (.apply l)).domains ↔
        d ∈ s.domains ∨ d ∈ l.domains.map Text.lower := mem_apply
    rw [List.map_cons, changeAll_cons, ih, happly, or_assoc]
    simp

/-- The sources are those from before and those of the lists that write patterns. -/
theorem mem_sources_changeAll : source ∈ (s.changeAll (ls.map .apply)).sources ↔
    source ∈ s.sources ∨ ∃ l ∈ ls,
      source ∈ l.patterns ∧ (PatternRule.ofSource? source).isSome = true := by
  induction ls generalizing s with
  | nil => simp
  | cons l ls ih =>
    have happly : source ∈ (s.change (.apply l)).sources ↔ source ∈ s.sources ∨
        (source ∈ l.patterns ∧ (PatternRule.ofSource? source).isSome = true) := by
      rw [← mem_sources_ofList]
      exact mem_sources_foldl_insertPattern
    rw [List.map_cons, changeAll_cons, ih, happly, or_assoc]
    simp

end RuleSet

/-! ## Texts -/

/-- The change that the text of a filter list makes. -/
def RuleChange.ofText (text : List Char) : RuleChange := .apply (FilterList.ofText text)

/-- The domains that are read from a filter list are in lower case already. -/
theorem map_lower_ofText (text : List Char) :
    (FilterList.ofText text).domains.map Text.lower = (FilterList.ofText text).domains :=
  (List.map_congr_left fun _ hd => lower_of_isListed (isListed_of_mem_ofText hd)).trans
    (List.map_id _)

/-- The domains that are read from the user's overrides are in lower case already. -/
theorem map_lower_overrideDomains (text : List Char) :
    (overrideDomains text).map Text.lower = overrideDomains text :=
  (List.map_congr_left fun _ hd => lower_of_isListed (isListed_of_mem_overrideDomains hd)).trans
    (List.map_id _)

namespace RuleSet

variable {s : RuleSet} {texts : List (List Char)} {d source : List Char}

theorem mem_domains_ofTexts : d ∈ (s.changeAll (texts.map RuleChange.ofText)).domains ↔
    d ∈ s.domains ∨ ∃ text ∈ texts, d ∈ (FilterList.ofText text).domains := by
  have hmap : texts.map RuleChange.ofText = (texts.map FilterList.ofText).map .apply := by
    rw [List.map_map]
    rfl
  rw [hmap, mem_domains_changeAll]
  refine or_congr Iff.rfl ?_
  constructor
  · rintro ⟨l, hl, hd⟩
    obtain ⟨text, htext, rfl⟩ := List.mem_map.mp hl
    rw [map_lower_ofText] at hd
    exact ⟨text, htext, hd⟩
  · rintro ⟨text, htext, hd⟩
    refine ⟨_, List.mem_map_of_mem htext, ?_⟩
    rw [map_lower_ofText]
    exact hd

theorem mem_sources_ofTexts : source ∈ (s.changeAll (texts.map RuleChange.ofText)).sources ↔
    source ∈ s.sources ∨ ∃ text ∈ texts, source ∈ (FilterList.ofText text).patterns ∧
      (PatternRule.ofSource? source).isSome = true := by
  have hmap : texts.map RuleChange.ofText = (texts.map FilterList.ofText).map .apply := by
    rw [List.map_map]
    rfl
  rw [hmap, mem_sources_changeAll]
  simp only [List.mem_map, exists_exists_and_eq_and]

end RuleSet

end AdFilter
