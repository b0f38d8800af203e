import AdFilter.Proofs.Rule.Growth
import AdFilter.Proofs.Rule.Union

/-!
# How a set keeps its patterns

A set of rules keeps each pattern twice over: the rule in a list, and its source among those that
are looked up. Both are written by `insertPattern` alone, which every way to bring in a pattern
goes through, so they tell of the same patterns whatever the history of the set
(`RuleSet.representation_spec`).

The list follows the offers: each source that writes a pattern stands where it was first offered
(`RuleSet.sources_changeAll`), so that an offer made before changes nothing when it is made again
(`RuleSet.patterns_change_of_offered`).
-/

namespace AdFilter

/-- Of two equal entries the first is kept, so the last one stays only if it is new. -/
theorem eraseDups_concat {α : Type} [BEq α] [LawfulBEq α] [DecidableEq α] (l : List α) (a : α) :
    (l ++ [a]).eraseDups = if a ∈ l then l.eraseDups else l.eraseDups ++ [a] := by
  rw [List.eraseDups_append, List.removeAll]
  split
  · rename_i h
    rw [List.filter_cons_of_neg (by simpa using h), List.filter_nil, List.eraseDups_nil,
      List.append_nil]
  · rename_i h
    rw [List.filter_cons_of_pos (by simpa using h), List.filter_nil]
    rfl

/-- Whether a source writes a pattern. -/
def writesPattern (source : List Char) : Bool := (PatternRule.ofSource? source).isSome

namespace RuleSet

variable {s : RuleSet} {offers : List (List Char)}

theorem sources_insertPattern (p : PatternRule) : (s.insertPattern p).sources =
    if p.source ∈ s.sources then s.sources else s.sources ++ [p.source] := by
  have hmem : s.hasSource p.source = true ↔ p.source ∈ s.sources :=
    hasSource_iff.trans List.mem_map.symm
  rw [insertPattern]
  by_cases h : s.hasSource p.source = true
  · rw [if_pos h, if_pos (hmem.mp h)]
  · rw [if_neg h, if_neg (mt hmem.mpr h), sources, List.map_append]
    rfl

/-- Patterns that are put in one after the other are offers like those made before. -/
theorem sources_foldl_insertPattern (hs : s.sources = offers.eraseDups) (ps : List PatternRule) :
    (ps.foldl insertPattern s).sources = (offers ++ ps.map (·.source)).eraseDups := by
  induction ps generalizing s offers with
  | nil => rw [List.map_nil, List.append_nil, List.foldl_nil, hs]
  | cons p ps ih =>
    have hstep : (s.insertPattern p).sources = (offers ++ [p.source]).eraseDups := by
      rw [sources_insertPattern, eraseDups_concat, hs]
      simp only [List.mem_eraseDups]
    rw [List.foldl_cons, ih hstep, List.append_assoc]
    rfl

/-- The rules that are read from sources come from those that write one, in the same order. -/
theorem map_source_filterMap (offers : List (List Char)) :
    (offers.filterMap PatternRule.ofSource?).map (·.source) = offers.filter writesPattern := by
  induction offers with
  | nil => rfl
  | cons source offers ih =>
    rcases h : PatternRule.ofSource? source with _ | p
    · rw [List.filterMap_cons_none h, List.filter_cons_of_neg (by simp [writesPattern, h]), ih]
    · rw [List.filterMap_cons_some h, List.filter_cons_of_pos (by simp [writesPattern, h]),
        List.map_cons, ih, PatternRule.source_of_ofSource? h]

theorem sources_change (hs : s.sources = offers.eraseDups) (c : RuleChange) :
    (s.change c).sources = (offers ++ c.sources.filter writesPattern).eraseDups := by
  cases c with
  | addDomain d =>
    have hsources : (s.change (.addDomain d)).sources = s.sources := by
      rw [change, sources, addDomain_patterns, sources]
    rw [hsources, hs]
    exact congrArg List.eraseDups (List.append_nil offers).symm
  | removeDomain d =>
    refine Eq.trans hs ?_
    exact congrArg List.eraseDups (List.append_nil offers).symm
  | addPattern source =>
    rw [change, addPattern?, RuleChange.sources, ← map_source_filterMap]
    rcases h : PatternRule.ofSource? source with _ | p
    · rw [List.filterMap_cons_none h, List.filterMap_nil, List.map_nil, List.append_nil]
      exact hs
    · rw [List.filterMap_cons_some h]
      exact sources_foldl_insertPattern hs [p]
  | apply l =>
    -- the domains come in first, and the sources stay
    have hdomains (ds) : ({ s with domains := ds } : RuleSet).sources = offers.eraseDups := hs
    rw [RuleChange.sources, ← map_source_filterMap]
    exact sources_foldl_insertPattern (hdomains _) (Batch.ofList l).patterns

/-- After some changes, the sources are those that were offered and write a pattern, in the order
of the first offer. -/
theorem sources_changeAll (hs : s.sources = offers.eraseDups) (history : List RuleChange) :
    (s.changeAll history).sources =
      (offers ++ (offered history).filter writesPattern).eraseDups := by
  induction history generalizing s offers with
  | nil =>
    rw [offered, List.flatMap_nil, List.filter_nil, List.append_nil]
    exact hs
  | cons c history ih =>
    have hoffered : offered (c :: history) = c.sources ++ offered history := rfl
    rw [changeAll_cons, ih (sources_change hs c), hoffered, List.filter_append, List.append_assoc]

theorem sources_ofHistory (history : List RuleChange) :
    (ofHistory history).sources = ((offered history).filter writesPattern).eraseDups := by
  have hempty : ({} : RuleSet).sources = ([] : List (List Char)).eraseDups := rfl
  exact sources_changeAll hempty history

/-! ## Changes that come again -/

/-- Patterns are never dropped and never change places. -/
theorem patterns_prefix_change (s : RuleSet) (c : RuleChange) :
    s.patterns <+: (s.change c).patterns := by
  cases c with
  | removeDomain d => exact List.prefix_rfl
  | addDomain d => exact (within_change (c := .addDomain d) trivial).2
  | addPattern source => exact (within_change (c := .addPattern source) trivial).2
  | apply l => exact (within_change (c := .apply l) trivial).2

theorem insertPattern_of_mem {p : PatternRule} (h : p.source ∈ s.sources) :
    s.insertPattern p = s := by
  rw [insertPattern, if_pos (hasSource_iff.mpr (List.mem_map.mp h))]

theorem foldl_insertPattern_of_mem {ps : List PatternRule} (h : ∀ p ∈ ps, p.source ∈ s.sources) :
    ps.foldl insertPattern s = s := by
  induction ps with
  | nil => rfl
  | cons p ps ih =>
    rw [List.foldl_cons, insertPattern_of_mem (h p (List.mem_cons_self ..))]
    exact ih fun q hq => h q (List.mem_cons_of_mem _ hq)

/-- A change all of whose offers were made before leaves the patterns as they are. -/
theorem patterns_change_of_offered {history : List RuleChange} {c : RuleChange}
    (h : ∀ source ∈ c.sources, source ∈ offered history) :
    ((ofHistory history).change c).patterns = (ofHistory history).patterns := by
  -- a source that writes a pattern is there since it was first offered
  have hmem : ∀ source ∈ c.sources, ∀ p, PatternRule.ofSource? source = some p →
      p.source ∈ (ofHistory history).sources := by
    intro source hsource p hp
    rw [sources_ofHistory, List.mem_eraseDups, List.mem_filter, PatternRule.source_of_ofSource? hp]
    exact ⟨h source hsource, Option.isSome_iff_exists.mpr ⟨p, hp⟩⟩
  cases c with
  | addDomain d => exact addDomain_patterns _ d
  | removeDomain d => rfl
  | addPattern source =>
    rw [change, addPattern?]
    rcases hp : PatternRule.ofSource? source with _ | p
    · rfl
    · rw [Option.map_some, Option.getD_some,
        insertPattern_of_mem (hmem source (List.mem_singleton_self _) p hp)]
  | apply l =>
    rw [change, apply, foldl_insertPattern_of_mem]
    intro p hp
    obtain ⟨source, hsource, hof⟩ := List.mem_filterMap.mp hp
    exact hmem source hsource p hof

/-- Whether all that a list brings in is there: its domains, and its sources that write a
pattern. -/
structure Holds (s : RuleSet) (l : FilterList) : Prop where
  domains : ∀ d ∈ l.domains, Text.lower d ∈ s.domains
  sources : ∀ source ∈ l.patterns, writesPattern source = true → source ∈ s.sources

theorem Holds.mono {t : RuleSet} {l : FilterList} (hst : s.Within t) (h : s.Holds l) :
    t.Holds l := by
  refine ⟨fun d hd => hst.1 (h.domains d hd), fun source hsource hwrites => ?_⟩
  exact List.map_subset _ hst.2.subset (h.sources source hsource hwrites)

theorem holds_change (s : RuleSet) (l : FilterList) : (s.change (.apply l)).Holds l := by
  refine ⟨fun d hd => mem_apply.mpr (Or.inr (List.mem_map_of_mem hd)), ?_⟩
  intro source hsource hwrites
  exact mem_sources_foldl_insertPattern.mpr (Or.inr (mem_sources_ofList.mpr ⟨hsource, hwrites⟩))

theorem foldl_insert_of_mem {ds es : List (List Char)} (h : ∀ e ∈ es, e ∈ ds) :
    es.foldl (fun ds e => ds.insert e) ds = ds := by
  induction es with
  | nil => rfl
  | cons e es ih =>
    rw [List.foldl_cons, List.insert_of_mem (h e (List.mem_cons_self ..))]
    exact ih fun d hd => h d (List.mem_cons_of_mem _ hd)

/-- After some lists, what any of them brings in is there. -/
theorem holds_changeAll {ls : List FilterList} {l : FilterList} (h : l ∈ ls) :
    (s.changeAll (ls.map .apply)).Holds l := by
  obtain ⟨before, after, rfl⟩ := List.append_of_mem h
  rw [List.map_append, changeAll_append, List.map_cons, changeAll_cons]
  refine (holds_change _ l).mono (within_changeAll fun c hc => ?_)
  obtain ⟨k, -, rfl⟩ := List.mem_map.mp hc
  exact trivial

/-- A list that brings in nothing new changes nothing. -/
theorem Holds.change_eq {l : FilterList} (h : s.Holds l) : s.change (.apply l) = s := by
  have hdomains : (Batch.ofList l).domains.foldl (fun ds d => ds.insert d) s.domains =
      s.domains := by
    refine foldl_insert_of_mem fun e he => ?_
    obtain ⟨d, hd, rfl⟩ := List.mem_map.mp he
    exact h.domains d hd
  rw [change, apply, hdomains]
  refine foldl_insertPattern_of_mem fun p hp => ?_
  obtain ⟨hmem, hwrites⟩ := mem_sources_ofList.mp ⟨p, hp, rfl⟩
  exact h.sources p.source hmem hwrites

theorem changeAll_of_holds {ls : List FilterList} (h : ∀ l ∈ ls, s.Holds l) :
    s.changeAll (ls.map .apply) = s := by
  induction ls with
  | nil => rfl
  | cons l ls ih =>
    rw [List.map_cons, changeAll_cons, (h l (List.mem_cons_self ..)).change_eq]
    exact ih fun k hk => h k (List.mem_cons_of_mem _ hk)

/-- After every history: the patterns have different sources, which are the sources that are looked
up, and each is what its own source writes; they stand in the order in which sources that write one
were first offered. From there on no change drops a pattern or moves it, and what was offered
before, alone or in a list, comes again without effect on them. A source is added just if it writes
a pattern, and a list brings in all its domains and all its sources that write one, whatever the
others are. -/
theorem representation_spec (history : List RuleChange) :
    let s := ofHistory history
    s.sources.Nodup ∧ s.known.Nodup ∧
      (∀ source, source ∈ s.known ↔ source ∈ s.sources) ∧
      (∀ p ∈ s.patterns, PatternRule.ofSource? p.source = some p) ∧
      s.sources = ((offered history).filter writesPattern).eraseDups ∧
      (∀ c, s.patterns <+: (s.change c).patterns) ∧
      (∀ source ∈ offered history, (s.change (.addPattern source)).patterns = s.patterns) ∧
      (∀ c ∈ history, (s.change c).patterns = s.patterns) ∧
      (∀ source, (s.addPattern? source).isSome = writesPattern source) ∧
      ∀ l : FilterList,
        (∀ d, d ∈ (s.change (.apply l)).domains ↔ d ∈ s.domains ∨ d ∈ l.domains.map Text.lower) ∧
          ∀ source, source ∈ (s.change (.apply l)).sources ↔
            source ∈ s.sources ∨ (source ∈ l.patterns ∧ writesPattern source = true) := by
  intro s
  have hvalid : s.Valid := Valid.ofHistory history
  refine ⟨hvalid.sources_nodup, s.known_perm.nodup_iff.mpr hvalid.sources_nodup,
    fun _ => s.known_perm.mem_iff, hvalid.ofSource?_source, sources_ofHistory history,
    patterns_prefix_change s, ?_, ?_, ?_, ?_⟩
  · intro source hsource
    refine patterns_change_of_offered fun x hx => ?_
    rw [List.mem_singleton.mp hx]
    exact hsource
  · intro c hc
    exact patterns_change_of_offered fun x hx => List.mem_flatMap.mpr ⟨c, hc, hx⟩
  · intro source
    rw [addPattern?, Option.isSome_map, writesPattern]
  · intro l
    refine ⟨fun _ => mem_apply, fun _ => ?_⟩
    rw [writesPattern, ← mem_sources_ofList]
    exact mem_sources_foldl_insertPattern

-- twice in one list, once more alone, and two sources that write nothing
example : (ofHistory [.apply ⟨[], [['b'], ['('], ['a'], ['b']]⟩, .addPattern ['a'],
    .addPattern ['['], .addPattern ['c']]).sources = [['b'], ['a'], ['c']] := by
  decide

end RuleSet

end AdFilter
