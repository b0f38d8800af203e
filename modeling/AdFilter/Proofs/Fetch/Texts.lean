import AdFilter.Proofs.Fetch.Run
import AdFilter.Proofs.Rule.Union
import Mathlib.Data.List.Nodup

/-!
# What lists bring in

Where no two lists share a file in the cache, a list that is not downloaded brings in what its file
held before the pass, whatever else the pass has done until then. `Pass.textOf` tells from the
outcome which text that is, and `Pass.Run.rules_eq` that the rules after a pass are those from
before it with these texts put in, and nothing else.
-/

namespace AdFilter

open Text

namespace Pass

variable {f : Fetcher} {now : Moment} {p q : Pass} {st st' st₀ : Stock} {dates : Int → Prop}
  {log made : Log} {s t : Source} {x : SourceStatus}

/-! ## The texts that were brought in -/

/-- The text that a list brought in: what was downloaded, or what its file held before the pass. -/
def textOf (f : Fetcher) (files : Files) (log : Log) (x : SourceStatus) : Option (List Char) :=
  match x.outcome with
  | some .downloaded => (heard log x.source).getLast?.bind Except.toOption
  | some .cached | some .staleFallback =>
    (files.fileAt? (files.placeOf (f.cachePath x.source))).bind (·.1.text?)
  | _ => none

theorem textOf_concat_of_ne (files : Files) (h : x.source ≠ s) (a : Answer) :
    textOf f files (log ++ [(s, a)]) x = textOf f files log x := by
  rw [textOf, textOf, heard_concat_of_ne log (Ne.symm h)]

theorem withText_eq (r : RuleSet) (text? : Option (List Char)) :
    withText r text? = r.changeAll (text?.toList.map RuleChange.ofText) := by
  rcases text? with _ | text <;> rfl

theorem fileText_of_readText? {files : Files} {path text : List Char}
    (h : files.readText? path = some text) :
    (files.fileAt? (files.placeOf path)).bind (·.1.text?) = some text := by
  rw [Files.readText?_eq, Option.bind_eq_some_iff] at h
  obtain ⟨p, hp, htext⟩ := h
  rwa [← Files.eq_placeOf_of_locate? hp]

theorem exists_mem_filterMap_iff {α β : Type} {g : α → Option β} {P : β → Prop} {xs : List α} :
    (∃ b ∈ xs.filterMap g, P b) ↔ ∃ a ∈ xs, ∃ b, g a = some b ∧ P b := by
  constructor
  · rintro ⟨b, hb, hP⟩
    obtain ⟨a, ha, hab⟩ := List.mem_filterMap.mp hb
    exact ⟨a, ha, b, hab, hP⟩
  · rintro ⟨a, ha, b, hab, hP⟩
    exact ⟨b, List.mem_filterMap.mpr ⟨a, ha, hab⟩, hP⟩

namespace Run

theorem nodup_sources (hnodup : f.sources.Nodup) (h : Run f dates st₀ log p st) :
    p.sources.Nodup := h.isOf.sources_perm.nodup_iff.mpr hnodup

/-- A list that waits or is in work is not done with. -/
theorem source_ne_of_finished (hnodup : f.sources.Nodup) (h : Run f dates st₀ log p st)
    (hs : s ∈ p.waiting ∨ ∃ j ∈ p.running, j.source = s) (hx : x ∈ p.finished) :
    x.source ≠ s := by
  have hdisjoint := (List.nodup_append.mp (h.nodup_sources hnodup)).2.2
  have hmem : s ∈ p.waiting ++ p.running.map (·.source) := by
    rw [List.mem_append, List.mem_map]
    exact hs
  exact fun heq => hdisjoint s hmem _ (List.mem_map_of_mem hx) heq.symm

/-- The file of a list is as it was unless the list is downloaded. -/
theorem fileAt?_eq_of_not_downloaded (hf : st₀.files.IsTree)
    (hplaces : (f.sources.map fun s => st₀.files.placeOf (f.cachePath s)).Nodup)
    (h : Run f dates st₀ log p st) (hs : s ∈ f.sources)
    (hkept : ∀ x ∈ p.finished, x.source = s → x.outcome ≠ some .downloaded) :
    st.files.fileAt? (st₀.files.placeOf (f.cachePath s)) =
      st₀.files.fileAt? (st₀.files.placeOf (f.cachePath s)) := by
  refine (h.grows hf).fileAt?_eq ?_
  rintro (⟨t, -, ht⟩ | ⟨x, hx, hsource, hdownloaded, hplace⟩)
  · exact Cache.placeOf_temporary_ne st₀.files f.folder t.name s.name ht.symm
  · have hself : x.source = s := List.inj_on_of_nodup_map hplaces hsource hs hplace.symm
    exact hkept x hx hself hdownloaded

/-- The file of a list that waits or is in work is as it was. -/
theorem fileAt?_eq_of_pending (hf : st₀.files.IsTree)
    (hplaces : (f.sources.map fun s => st₀.files.placeOf (f.cachePath s)).Nodup)
    (h : Run f dates st₀ log p st) (hs : s ∈ p.waiting ∨ ∃ j ∈ p.running, j.source = s) :
    st.files.fileAt? (st₀.files.placeOf (f.cachePath s)) =
      st₀.files.fileAt? (st₀.files.placeOf (f.cachePath s)) := by
  have hmem : s ∈ f.sources := by
    refine h.isOf.sources_perm.subset (List.mem_append_left _ ?_)
    rw [List.mem_append, List.mem_map]
    exact hs
  exact h.fileAt?_eq_of_not_downloaded hf hplaces hmem fun x hx hsource =>
    absurd hsource (h.source_ne_of_finished (hplaces.of_map _) hs hx)

/-- What is read for a list that waits or is in work is what its file held before the pass. -/
theorem fileText_of_pending (hf : st₀.files.IsTree)
    (hplaces : (f.sources.map fun s => st₀.files.placeOf (f.cachePath s)).Nodup)
    (h : Run f dates st₀ log p st) (hs : s ∈ p.waiting ∨ ∃ j ∈ p.running, j.source = s)
    {text : List Char} (htext : st.files.readText? (f.cachePath s) = some text) :
    (st₀.files.fileAt? (st₀.files.placeOf (f.cachePath s))).bind (·.1.text?) = some text := by
  have hread := fileText_of_readText? htext
  rwa [Files.placeOf_congr (h.grows hf).home_eq, h.fileAt?_eq_of_pending hf hplaces hs] at hread

/-- What a step has to do with what lists bring in: it ends the work on none, or on one, which
brings in its text if it did not fail. -/
theorem brings (hf : st₀.files.IsTree)
    (hplaces : (f.sources.map fun s => st₀.files.placeOf (f.cachePath s)).Nodup)
    (h : Run f dates st₀ log p st) (hmove : Move f now p st made q st') :
    (∀ x ∈ p.finished, textOf f st₀.files (log ++ made) x = textOf f st₀.files log x) ∧
    ((q.finished = p.finished ∧ st'.rules = st.rules) ∨
      ∃ (y : Yield) (s : Source) (files : Files), q.finished = p.finished ++ [y.status f s files] ∧
        st'.rules = withText st.rules y.text? ∧
        textOf f st₀.files (log ++ made) (y.status f s files) = y.text? ∧
        (y.text? = none ↔ y.outcome = .failed)) := by
  have hnodup := hplaces.of_map _
  -- what the lists brought in that are done with does not hang on later calls
  have hothers : ∀ (s : Source) (a : Answer), (∀ x ∈ p.finished, x.source ≠ s) → ∀ x ∈ p.finished,
      textOf f st₀.files (log ++ [(s, a)]) x = textOf f st₀.files log x :=
    fun s a hne x hx => textOf_concat_of_ne _ (hne x hx) a
  cases hmove with
  | @hit s waiting running finished st text _ htext =>
    have hread : st.files.readText? (f.cachePath s) = some text := by
      rw [beginText?, Option.ite_none_left_eq_some] at htext
      exact htext.2
    rw [List.append_nil]
    refine ⟨fun _ _ => rfl, Or.inr ⟨⟨.cached, some text⟩, s, st.files, rfl, rfl, ?_, ?_⟩⟩
    · exact h.fileText_of_pending hf hplaces (Or.inl (List.mem_cons_self ..)) hread
    · exact ⟨fun hnone => (by cases hnone), fun hfailed => (by cases hfailed)⟩
  | miss =>
    rw [List.append_nil]
    exact ⟨fun _ _ => rfl, Or.inl ⟨rfl, rfl⟩⟩
  | @retry waiting before j after finished st a web hcall =>
    refine ⟨hothers j.source a fun x hx => ?_, Or.inl ⟨rfl, rfl⟩⟩
    exact h.source_ne_of_finished hnodup (Or.inr ⟨j, by simp, rfl⟩) hx
  | @conclude waiting before j after finished st a web files y hcall hlast hfiles hyield =>
    have hpending : j.source ∈ waiting ∨ ∃ k ∈ before ++ j :: after, k.source = j.source :=
      Or.inr ⟨j, by simp, rfl⟩
    refine ⟨hothers j.source a fun x hx => h.source_ne_of_finished hnodup hpending hx,
      Or.inr ⟨y, j.source, files, rfl, rfl, ?_⟩⟩
    rw [textOf, ← hyield]
    rcases a with e | text
    · rcases hheld : st.files.readText? (f.cachePath j.source) with _ | text
      · exact ⟨rfl, fun _ => rfl, fun _ => rfl⟩
      · refine ⟨h.fileText_of_pending hf hplaces hpending hheld, ?_⟩
        exact ⟨fun hnone => (by cases hnone), fun hfailed => (by cases hfailed)⟩
    · refine ⟨?_, fun hnone => (by cases hnone), fun hfailed => (by cases hfailed)⟩
      simp only [Yield.status, conclude, heard_concat_self, List.getLast?_concat]
      rfl

/-- The rules of a pass are those from before with the texts that were brought in. -/
theorem rules_eq (hf : st₀.files.IsTree)
    (hplaces : (f.sources.map fun s => st₀.files.placeOf (f.cachePath s)).Nodup)
    (h : Run f dates st₀ log p st) : st.rules = st₀.rules.changeAll
      ((p.finished.filterMap (textOf f st₀.files log)).map RuleChange.ofText) := by
  induction h with
  | start => rfl
  | move hrun _ hmove ih =>
    obtain ⟨hold, ⟨hfinished, hrules⟩ | ⟨y, s, files, hfinished, hrules, htext, -⟩⟩ :=
      hrun.brings hf hplaces hmove
    · rw [hfinished, hrules, List.filterMap_congr hold]
      exact ih
    · rw [hfinished, hrules, List.filterMap_append, List.filterMap_congr hold, List.map_append,
        RuleSet.changeAll_append, ← ih, withText_eq, ← htext, List.filterMap_cons]
      rcases textOf f st₀.files _ (y.status f s files) with _ | text <;> rfl

/-- Every list that could be had has brought in a text. -/
theorem textOf_eq_none_iff (hf : st₀.files.IsTree)
    (hplaces : (f.sources.map fun s => st₀.files.placeOf (f.cachePath s)).Nodup)
    (h : Run f dates st₀ log p st) :
    ∀ x ∈ p.finished, textOf f st₀.files log x = none ↔ x.outcome = some .failed := by
  induction h with
  | start =>
    intro x hx
    cases hx
  | move hrun _ hmove ih =>
    intro x hx
    obtain ⟨hold, ⟨hfinished, -⟩ | ⟨y, s, files, hfinished, -, htext, hfailed⟩⟩ :=
      hrun.brings hf hplaces hmove
    · rw [hfinished] at hx
      rw [hold x hx]
      exact ih x hx
    · rw [hfinished] at hx
      rcases List.mem_append.mp hx with hx | hx
      · rw [hold x hx]
        exact ih x hx
      · rw [List.mem_singleton.mp hx, htext, hfailed]
        exact Option.some_inj.symm

/-- The domains after a pass are those from before and those of the texts that were brought in. -/
theorem mem_domains_iff (hf : st₀.files.IsTree)
    (hplaces : (f.sources.map fun s => st₀.files.placeOf (f.cachePath s)).Nodup)
    (h : Run f dates st₀ log p st) {d : List Char} : d ∈ st.rules.domains ↔
      d ∈ st₀.rules.domains ∨ ∃ x ∈ p.finished, ∃ text, textOf f st₀.files log x = some text ∧
        d ∈ (FilterList.ofText text).domains := by
  rw [h.rules_eq hf hplaces, RuleSet.mem_domains_ofTexts, exists_mem_filterMap_iff]

/-- The sources of patterns after a pass are those from before and those of the texts that were
brought in, as far as they write patterns. -/
theorem mem_sources_iff (hf : st₀.files.IsTree)
    (hplaces : (f.sources.map fun s => st₀.files.placeOf (f.cachePath s)).Nodup)
    (h : Run f dates st₀ log p st) {source : List Char} : source ∈ st.rules.sources ↔
      source ∈ st₀.rules.sources ∨ ∃ x ∈ p.finished, ∃ text,
        textOf f st₀.files log x = some text ∧ source ∈ (FilterList.ofText text).patterns ∧
          (PatternRule.ofSource? source).isSome = true := by
  rw [h.rules_eq hf hplaces, RuleSet.mem_sources_ofTexts, exists_mem_filterMap_iff]

end Run

end Pass

end AdFilter
