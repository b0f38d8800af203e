import AdFilter.Proofs.Engine.Concurrency

/-!
# What hydration brings in

Hydration brings in the user's overrides, the broader built-in rules and the remote lists, one after
the other. `System.hydrate_spec` says what the set of rules holds afterwards: what it held before,
and what these three brought in, nothing else. A part that cannot be had takes nothing away from the
others, as long as they do not need each other to reach their files (`System.hydrate_shows`).
-/

namespace AdFilter

open Text

/-! ## The overrides -/

/-- The text of the user's overrides as it is read: that of the file, or the template if there is no
file and it can be made. -/
def Engine.overrideText? (path : List Char) (now : Int) (files : Files) : Option (List Char) :=
  if (files.stat? path).isSome then files.readText? path
  else
    (files.write? now path (.text BuiltIn.overrideTemplate)).map fun _ => BuiltIn.overrideTemplate

/-- What is written to a file is read from it. -/
theorem Files.readText?_of_write? {files g : Files} (hf : files.IsTree) {now : Int}
    {path text : List Char} (h : files.write? now path (.text text) = some g) :
    g.readText? path = some text := by
  obtain ⟨hgrows, p, hp, hget, -⟩ := Files.write?_grows hf h
  rw [Files.readText?_eq, Files.locate?_mono hgrows.home_eq hgrows.isFolder hp, Option.bind_some,
    Files.fileAt?_eq_some_iff.mpr hget]
  rfl

theorem Engine.readOverrides_snd {files : Files} (hf : files.IsTree) (path : List Char)
    (now : Int) : (Engine.readOverrides path now files).2 =
      ((Engine.overrideText? path now files).map overrideDomains).getD [] := by
  rw [Engine.readOverrides, Engine.overrideText?]
  dsimp only
  split
  · rfl
  · rename_i hmissing
    rcases hwrite : files.write? now path (.text BuiltIn.overrideTemplate) with _ | g
    · -- there is still nothing to be read
      rw [Option.getD_none, Files.readText?, Option.not_isSome_iff_eq_none.mp hmissing]
      rfl
    · rw [Option.getD_some, Files.readText?_of_write? hf hwrite]
      rfl

theorem mem_readOverrides_iff {files : Files} (hf : files.IsTree) {path d : List Char} {now : Int} :
    d ∈ (Engine.readOverrides path now files).2 ↔
      ∃ text, Engine.overrideText? path now files = some text ∧ d ∈ overrideDomains text := by
  rw [Engine.readOverrides_snd hf]
  rcases Engine.overrideText? path now files with _ | text
  · simp
  · simp

namespace System

variable {s : System}

/-- The text of the user's overrides as it would be read now. -/
def overrideText? (s : System) : Option (List Char) :=
  Engine.overrideText? s.engine.overrideFile s.clock.date s.files

/-! ## The first rules -/

theorem map_lower_baselineDomains :
    BuiltIn.baselineDomains.map lower = BuiltIn.baselineDomains := by
  decide

theorem overridesRead_eq (s : System) : s.overridesRead =
    (Engine.readOverrides s.engine.overrideFile s.clock.date s.files).2 := by
  obtain ⟨hstock, -, hclock, -, -, -, hoverride⟩ := deliver_frame s
  have hfiles : s.deliver.files = s.files := congrArg Stock.files hstock
  rw [overridesRead, hclock, hfiles, hoverride]

/-- The lists that are put in before the remote ones. -/
def firstLists (s : System) : List FilterList :=
  [⟨s.overridesRead, []⟩, ⟨BuiltIn.baselineDomains, BuiltIn.baselinePatterns⟩]

theorem mem_domains_load (hs : s.IsRegular) {d : List Char} :
    d ∈ s.load.engine.rules.domains ↔ d ∈ s.engine.rules.domains ∨
      (∃ text, s.overrideText? = some text ∧ d ∈ overrideDomains text) ∨
      d ∈ BuiltIn.baselineDomains := by
  have hchanges : s.loadChanges = s.firstLists.map .apply := rfl
  have hread : d ∈ s.overridesRead.map lower ↔
      ∃ text, s.overrideText? = some text ∧ d ∈ overrideDomains text := by
    have hlower : s.overridesRead.map lower = s.overridesRead := by
      rw [overridesRead_eq, Engine.readOverrides_snd hs.isTree]
      rcases Engine.overrideText? _ _ _ with _ | text
      · rfl
      · exact map_lower_overrideDomains text
    rw [hlower, overridesRead_eq, mem_readOverrides_iff hs.isTree]
    rfl
  rw [load_rules, hchanges, RuleSet.mem_domains_changeAll, firstLists]
  simp only [List.mem_cons, List.not_mem_nil, or_false, exists_eq_or_imp, exists_eq_left, hread,
    map_lower_baselineDomains]

theorem mem_sources_load {p : List Char} : p ∈ s.load.engine.rules.sources ↔
    p ∈ s.engine.rules.sources ∨
      (p ∈ BuiltIn.baselinePatterns ∧ (PatternRule.ofSource? p).isSome = true) := by
  have hchanges : s.loadChanges = s.firstLists.map .apply := rfl
  rw [load_rules, hchanges, RuleSet.mem_sources_changeAll, firstLists]
  simp only [List.mem_cons, List.not_mem_nil, or_false, exists_eq_or_imp, exists_eq_left, false_and,
    false_or]

/-! ## Hydration -/

/-- Whether the user's overrides are neither in the cache nor beside a file there. -/
def HasOwnOverrides (s : System) : Prop := ∀ x ∈ s.engine.fetcher.sources,
  s.files.placeOf s.engine.overrideFile ≠ s.files.placeOf (s.engine.fetcher.cachePath x) ∧
  s.files.placeOf s.engine.overrideFile ≠
    s.files.placeOf (Cache.temporary (s.engine.fetcher.cachePath x))

/-- The first rules leave the files of the lists as they are. -/
theorem fileAt?_load (hs : s.IsRegular) (hown : s.HasOwnOverrides) {x : Source}
    (hx : x ∈ s.engine.fetcher.sources) :
    s.load.files.fileAt? (s.files.placeOf (s.engine.fetcher.cachePath x)) =
      s.files.fileAt? (s.files.placeOf (s.engine.fetcher.cachePath x)) :=
  (load_leads hs).grows.fileAt?_eq fun h => (hown x hx).1 h.1.symm

/-- Neither the first rules nor the lists touch a file of overrides that is there. -/
theorem fileAt?_override (hs : s.IsRegular) (hown : s.HasOwnOverrides) {e : Contents × Int}
    (h : s.files.fileAt? (s.files.placeOf s.engine.overrideFile) = some e) :
    s.hydrate.files.fileAt? (s.files.placeOf s.engine.overrideFile) = some e := by
  have hload := load_leads hs
  have hrefresh := refresh_leads hload.isRegular
  rw [hydrate_eq, hrefresh.grows.fileAt?_eq, hload.grows.fileAt?_eq, h]
  · rintro ⟨-, hnone⟩
    rw [h] at hnone
    cases hnone
  · intro hchange
    rcases hload.mayChange hchange with ⟨x, hx, hr⟩ | ⟨y, -, hsource, -, hr⟩
    · exact (hown x hx).2 hr
    · exact (hown _ hsource).1 hr

theorem isQuiet_load (hquiet : s.IsQuiet) : s.load.IsQuiet := by
  obtain ⟨hfetcher, -, hclock, hscheduler, -⟩ := load_frame s
  intro sch hsch
  rw [hscheduler] at hsch
  rw [passEnd, hfetcher, hclock]
  exact hquiet sch hsch

theorem passDates_load (s : System) : s.load.passDates = s.passDates := by
  obtain ⟨hfetcher, -, hclock, -⟩ := load_frame s
  funext date
  rw [passDates, passDates, passEnd, passEnd, hfetcher, hclock]

/-- What a list brings in is the same whether the first rules are there or not. -/
theorem textOf_load (hs : s.IsRegular) (hown : s.HasOwnOverrides) (log : Pass.Log)
    {x : SourceStatus} (hx : x.source ∈ s.engine.fetcher.sources) :
    Pass.textOf s.engine.fetcher s.load.files log x =
      Pass.textOf s.engine.fetcher s.files log x := by
  have hhome := Files.placeOf_congr (load_leads hs).grows.home_eq
    (s.engine.fetcher.cachePath x.source)
  rw [Pass.textOf, Pass.textOf, hhome, fileAt?_load hs hown hx]

/-- What becomes of a list after the first rules is settled by its file before them, and by what its
own calls are answered. -/
theorem fate_of_run (hs : s.IsRegular) (hown : s.HasOwnOverrides)
    (hf : s.engine.fetcher.IsOrderly s.files s.passDates s.clock.date) {log : Pass.Log} {p : Pass}
    {st : Stock} (hrun : Pass.Run s.engine.fetcher s.passDates s.load.stock log p st)
    {x : SourceStatus} (hx : x ∈ p.finished) :
    let f := s.engine.fetcher
    x.outcome = some (f.fate s.files s.clock.date x.source (Pass.heard log x.source)).outcome ∧
      Pass.textOf f s.files log x =
        (f.fate s.files s.clock.date x.source (Pass.heard log x.source)).text? ∧
      ((f.sources.map (·.url)).Nodup → Pass.heard log x.source =
        f.expectedAnswers s.stock s.clock.date x.source) := by
  intro f
  have hload := load_leads hs
  obtain ⟨-, -, -, -, -, -, hweb, -⟩ := load_frame s
  have hmem := hrun.mem_sources_of_finished hx
  have hplain := hf.isApart.isPlain _ hmem
  have hfiles : ∀ y ∈ f.sources, s.load.files.fileAt? (f.place s.files y) =
      s.files.fileAt? (f.place s.files y) := by
    intro y hy
    rw [← Fetcher.placeOf_cachePath _ (hf.isApart.isPlain y hy)]
    exact fileAt?_load hs hown hy
  have hf' : f.IsOrderly s.load.stock.files s.passDates s.clock.date := by
    rw [stock_files]
    exact hf.of_grows hload.grows hfiles
  have hlist := hrun.isDone_of_mem hf' hx
  rw [stock_files] at hlist
  have hfate := Fetcher.fate_congr hplain hs.isTree hload.grows hf.isSettled (hfiles _ hmem)
    s.clock.date (Pass.heard log x.source)
  obtain ⟨-, hfresh⟩ := Fetcher.reads_congr hplain hs.isTree hload.grows hf.isSettled
    (hfiles _ hmem)
  rw [← textOf_load hs hown log hmem, ← hfate]
  refine ⟨hlist.outcome_eq, Pass.textOf_eq hlist, fun hurls => ?_⟩
  rw [hrun.heard_eq hf' hurls hx, Fetcher.expectedAnswers, Fetcher.expectedAnswers, stock_files,
    stock_files, stock_web, stock_web, hfresh, hweb]

/-- What hydration brings in. The calls that it makes, with what they were answered, are `log`. -/
theorem hydrate_spec (hs : s.IsRegular) (hquiet : s.IsQuiet) (hap : s.engine.fetcher.IsApart)
    (hown : s.HasOwnOverrides) :
    let f := s.engine.fetcher
    let t := s.hydrate
    ∃ log : Pass.Log,
      t.web.calls.map (·.2) = s.web.calls.map (·.2) ++ log.map (·.1.url) ∧
      (∀ url, Pass.answersFor log url =
        (List.range (Pass.answersFor log url).length).map (s.web.answer url)) ∧
      (t.engine.statuses.map (·.source)).Perm f.sources ∧
      (∀ x ∈ t.engine.statuses, Pass.textOf f s.files log x = none ↔ x.outcome = some .failed) ∧
      (∀ d, d ∈ t.engine.rules.domains ↔ d ∈ s.engine.rules.domains ∨
        (∃ text, s.overrideText? = some text ∧ d ∈ overrideDomains text) ∨
        d ∈ BuiltIn.baselineDomains ∨
        ∃ x ∈ t.engine.statuses, ∃ text, Pass.textOf f s.files log x = some text ∧
          d ∈ (FilterList.ofText text).domains) ∧
      (∀ p, p ∈ t.engine.rules.sources ↔ p ∈ s.engine.rules.sources ∨
        (p ∈ BuiltIn.baselinePatterns ∧ (PatternRule.ofSource? p).isSome = true) ∨
        ∃ x ∈ t.engine.statuses, ∃ text, Pass.textOf f s.files log x = some text ∧
          p ∈ (FilterList.ofText text).patterns ∧ (PatternRule.ofSource? p).isSome = true) ∧
      (∀ e, s.files.fileAt? (s.files.placeOf s.engine.overrideFile) = some e →
        t.files.fileAt? (s.files.placeOf s.engine.overrideFile) = some e) ∧
      (f.IsOrderly s.files s.passDates s.clock.date → ∀ x ∈ t.engine.statuses,
        x.outcome =
          some (f.fate s.files s.clock.date x.source (Pass.heard log x.source)).outcome ∧
        Pass.textOf f s.files log x =
          (f.fate s.files s.clock.date x.source (Pass.heard log x.source)).text? ∧
        ((f.sources.map (·.url)).Nodup → Pass.heard log x.source =
          f.expectedAnswers s.stock s.clock.date x.source)) := by
  intro f t
  have hload := load_leads hs
  obtain ⟨hfetcher, -, -, -, -, -, hweb, -⟩ := load_frame s
  obtain ⟨p, hof, hdone, hstatuses, -, hrun⟩ := exists_refresh hload.isRegular
  obtain ⟨-, log, hrun⟩ := hrun (isQuiet_load hquiet)
  rw [hfetcher] at hof
  rw [hfetcher, passDates_load] at hrun
  have hsame : t.engine.statuses = p.statuses := hstatuses
  have hfinished : ∀ x, x ∈ t.engine.statuses ↔ x ∈ p.finished := fun x =>
    hsame ▸ (sortBy_perm _ _).mem_iff
  have htree := hload.isRegular.isTree
  have hplaces := hap.nodup_places s.load.files
  have hexists : ∀ P : List Char → Prop,
      (∃ x ∈ p.finished, ∃ text, Pass.textOf f s.load.files log x = some text ∧ P text) ↔
        ∃ x ∈ t.engine.statuses, ∃ text, Pass.textOf f s.files log x = some text ∧ P text := by
    intro P
    refine exists_congr fun x => ?_
    rw [hfinished]
    exact and_congr_right fun hx => by
      rw [textOf_load hs hown log (hof.mem_sources_of_finished hx)]
  refine ⟨log, ?_, ?_, ?_, ?_, ?_, ?_, fun e => fileAt?_override hs hown,
    fun hf x hx => fate_of_run hs hown hf hrun ((hfinished x).mp hx)⟩
  · have hcalls := hrun.calls_eq
    rw [stock_web, stock_web, hweb] at hcalls
    exact hcalls
  · intro url
    have hanswers := (hrun.answersFor_eq url).1
    rw [stock_web, hweb] at hanswers
    exact hanswers
  · rw [hsame]
    exact ((sortBy_perm _ _).map _).trans (hof.finished_perm hdone)
  · intro x hx
    rw [hfinished] at hx
    rw [← textOf_load hs hown log (hof.mem_sources_of_finished hx)]
    exact hrun.textOf_eq_none_iff htree hplaces x hx
  · intro d
    have hmem := hrun.mem_domains_iff htree hplaces (d := d)
    rw [stock_rules, stock_rules, stock_files, mem_domains_load hs, hexists, or_assoc, or_assoc]
      at hmem
    exact hmem
  · intro source
    have hmem : source ∈ s.load.refresh.stock.rules.sources ↔ _ :=
      hrun.mem_sources_iff htree hplaces
    rw [stock_rules, stock_rules, stock_files, mem_sources_load, hexists, or_assoc] at hmem
    exact hmem

/-- One list has an older text that is young enough, and the other cannot be had: the text is
brought in all the same. -/
theorem hydrate_spec_of_fresh : "old.example.org".toList ∈
    (fetching "c".toList 1 (keeping 0) []).hydrate.engine.rules.domains := by
  have hown : (fetching "c".toList 1 (keeping 0) []).HasOwnOverrides := by
    intro x hx
    have hx : x ∈ twoLists := hx
    simp only [twoLists, List.mem_cons, List.not_mem_nil, or_false] at hx
    rcases hx with rfl | rfl <;> decide
  obtain ⟨log, -, -, hperm, -, hdomains, -, -, hlists⟩ := hydrate_spec
    (isRegular_fetching "c".toList 1 0 []) (isQuiet_fetching _ _ _ _)
    (isApart_twoLists (Or.inl rfl) 1) hown
  obtain ⟨x, hx, hsource⟩ := List.mem_map.mp (hperm.symm.subset (by decide :
    (⟨"b".toList, "https://l.example/b".toList⟩ : Source) ∈ twoLists))
  obtain ⟨-, htext, -⟩ := hlists (isOrderly_fetching []) x hx
  have hfresh : (fetching "c".toList 1 (keeping 0) []).engine.fetcher.freshText?
      (fetching "c".toList 1 (keeping 0) []).files (fetching "c".toList 1 (keeping 0) []).clock.date
      x.source = some "0.0.0.0 old.example.org".toList := by
    rw [hsource]
    decide
  rw [Fetcher.fate_of_fresh hfresh] at htext
  exact (hdomains _).mpr (Or.inr (Or.inr (Or.inr ⟨x, hx, _, htext, by decide⟩)))

/-- The scheduler has begun a pass over a single list, and its first call has failed. -/
def overlapped : System :=
  ((fetching "c".toList 1 (keeping 0) [.error (.status 503), .error (.status 503),
    .ok "0.0.0.0 first.example.org".toList, .ok "0.0.0.0 second.example.org".toList]).withFetcher
      ⟨[⟨"a".toList, "https://l.example/a".toList⟩], "c".toList, 1⟩).performAll
        [.startScheduler 10000, .advance 11000]

/-- What a list brings in may hang on another one after all, if the folder that leads to its file is
made only when the other is stored. And hydration brings in more than it tells if the scheduler is
at work at the same time: here a text that was downloaded first, and then replaced by another. -/
theorem hydrate_shows :
    ("old.example.org".toList ∈
        (fetching "x/../c".toList 1 (keeping 0) [.ok []]).hydrate.engine.rules.domains ∧
      "old.example.org".toList ∉ (fetching "x/../c".toList 1 (keeping 0)
        [.error (.unexpected [])]).hydrate.engine.rules.domains) ∧
    "first.example.org".toList ∈ overlapped.hydrate.engine.rules.domains ∧
      "first.example.org".toList ∉ overlapped.engine.rules.domains ∧
      overlapped.overrideText? = some [] ∧
      "first.example.org".toList ∉ BuiltIn.baselineDomains ∧
      overlapped.hydrate.engine.statuses.map (·.outcome) = [some .downloaded] ∧
      overlapped.hydrate.files.fileAt? ["c".toList, "a.txt".toList] =
        some (.text "0.0.0.0 second.example.org".toList, 13000) := by
  refine ⟨⟨by decide +kernel, by decide +kernel⟩, ?_⟩
  decide +kernel

end System

end AdFilter
