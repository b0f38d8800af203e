import AdFilter.Proofs.Engine.Persistence
import AdFilter.Proofs.Engine.Refresh
import AdFilter.Proofs.Fetch.Alone
import AdFilter.Proofs.Text.Order

/-!
# What is kept

Nothing but a removal by hand takes a rule out of the set, and a pass takes nothing out of the
cache: the file of a list stays as it is unless the list is downloaded. `System.retention` says so
for every state that can come about. Passes of the scheduler may be under way at the same time as
one that was asked for directly, so a list that one of them cannot have may still be replaced by the
other (`System.refresh_of_overtaken`).
-/

namespace AdFilter

/-- Whether an operation does not remove a rule by hand. -/
def Operation.KeepsRules (op : Operation) : Prop :=
  match op with
  | .change c => c.Adds
  | _ => True

namespace System

variable {s : System}

/-! ## Rules -/

theorem within_perform {op : Operation} (hop : op.KeepsRules) :
    s.engine.rules.Within (s.perform op).engine.rules := by
  rw [perform_rules]
  refine RuleSet.within_changeAll fun c hc => ?_
  rcases isLoad_of_mem_changes hc with rfl | hload
  · exact hop
  · exact adds_of_isLoad hload

/-- What is blocked by a rule is blocked by one in every set with more rules. -/
theorem isSome_reason?_of_within {t : System} (h : s.engine.rules.Within t.engine.rules)
    {url : List Char} (hs : (s.engine.reason? url).isSome = true) :
    (t.engine.reason? url).isSome = true := by
  rw [Engine.reason?] at hs ⊢
  rcases hr : Request.ofText? url with _ | r
  · rw [hr] at hs
    cases hs
  · rw [hr] at hs
    have hs : ((criticalReason? r).or (s.engine.rules.reason? r)).isSome = true := hs
    show ((criticalReason? r).or (t.engine.rules.reason? r)).isSome = true
    rw [Option.isSome_or, Bool.or_eq_true] at hs ⊢
    exact hs.imp_right h.isSome_reason?

/-! ## Files -/

/-- The file of a list at any time is as it was, unless a pass has reported a list with this file as
downloaded. -/
theorem fileAt?_performAll (hs : s.IsRegular) {ops : List Operation}
    (hops : ∀ op ∈ ops, op.LeavesFiles) {x : Source}
    (hoverride : s.files.placeOf (s.engine.fetcher.cachePath x) ≠
      s.files.placeOf s.engine.overrideFile)
    (hreports : ∀ r ∈ s.ledger ops, r.status.outcome = some .downloaded →
      s.files.placeOf (s.engine.fetcher.cachePath r.status.source) ≠
        s.files.placeOf (s.engine.fetcher.cachePath x)) :
    (s.performAll ops).files.fileAt? (s.files.placeOf (s.engine.fetcher.cachePath x)) =
      s.files.fileAt? (s.files.placeOf (s.engine.fetcher.cachePath x)) := by
  refine (performAll_leads hs hops).grows.fileAt?_eq ?_
  rintro ((⟨t, -, ht⟩ | ⟨y, hy, -, houtcome, hplace⟩) | hmissing)
  · exact Cache.placeOf_temporary_ne _ _ t.name x.name ht.symm
  · obtain ⟨r, hr, rfl⟩ := List.mem_map.mp hy
    exact hreports r hr houtcome hplace.symm
  · exact hoverride hmissing

/-- A refresh pass leaves the file of a list as it is that it does not download, unless a pass of
the scheduler downloads it in the meantime. -/
theorem fileAt?_refresh (hs : s.IsRegular) {x : SourceStatus}
    (hx : x ∈ s.refresh.engine.statuses) (houtcome : x.outcome ≠ some .downloaded)
    (halone : s.engine.fetcher.IsAlone s.files x.source)
    (hothers : ∀ r ∈ s.refreshReports, r.scheduled = true → r.status.source = x.source →
      r.status.outcome ≠ some .downloaded) :
    s.refresh.files.fileAt? (s.files.placeOf (s.engine.fetcher.cachePath x.source)) =
      s.files.fileAt? (s.files.placeOf (s.engine.fetcher.cachePath x.source)) := by
  obtain ⟨p, hof, hdone, hstatuses, hfinished, -⟩ := exists_refresh hs
  have hxp : x ∈ p.finished := by
    rw [hstatuses] at hx
    exact (Text.sortBy_perm _ _).subset hx
  refine (refresh_leads hs).grows.fileAt?_eq ?_
  rintro (⟨t, -, ht⟩ | ⟨y, hy, hsource, hdownloaded, hplace⟩)
  · exact Cache.placeOf_temporary_ne _ _ t.name x.source.name ht.symm
  · obtain ⟨r, hr, rfl⟩ := List.mem_map.mp hy
    -- no other list has its file there
    have hsame := halone.eq_source (hof.mem_sources_of_finished hxp) hsource hplace.symm
    rcases hscheduled : r.scheduled with _ | _
    · have hrp : r.status ∈ p.finished := by
        rw [hfinished]
        exact List.mem_map_of_mem (List.mem_filter.mpr ⟨hr, by rw [hscheduled]; rfl⟩)
      rw [halone.eq_status hof hdone hxp hrp hplace.symm] at hdownloaded
      exact houtcome hdownloaded
    · exact hothers r hr hscheduled hsame hdownloaded

/-! ## In every state -/

/-- What is kept, in every state that can come about. All rules stay by any operation but a removal
by hand, and what is blocked by a rule stays blocked by one. A refresh, and the one that comes after
the first rules at hydration, reports on each list once and leaves the file of each that it does not
download as it is, text and date, if no other list has the same file and no pass of the scheduler
downloads the list in the meantime. And whatever goes on, passes of the scheduler included, the file
of a list stays as it is until some pass reports a list with this file as downloaded. -/
theorem retention (settings : Settings) (files : Files) (web : Web) (clock : Clock)
    (logger : Option Logger) (reporter : Option Reporter) (ops : List Operation)
    (hfiles : files.IsTree) (hreporter : ∀ r, reporter = some r → 0 < r.interval)
    (hops : ∀ op ∈ ops, op.IsRegular) :
    let s := (build settings files web clock logger reporter).performAll ops
    let fetcher := s.engine.fetcher
    (∀ op : Operation, op.KeepsRules →
      s.engine.rules.domains ⊆ (s.perform op).engine.rules.domains ∧
      s.engine.rules.patterns <+: (s.perform op).engine.rules.patterns ∧
      ∀ url, (s.engine.reason? url).isSome = true →
        ((s.perform op).engine.reason? url).isSome = true) ∧
    (∀ t, t = s ∨ t = s.load →
      (t.refresh.engine.statuses.map (·.source)).Perm fetcher.sources ∧
      ∀ x ∈ t.refresh.engine.statuses, x.outcome ≠ some .downloaded →
        fetcher.IsAlone t.files x.source →
        (t.IsQuiet ∨ ∀ r ∈ t.refreshReports, r.scheduled = true →
          r.status.source = x.source → r.status.outcome ≠ some .downloaded) →
        t.refresh.files.fileAt? (t.files.placeOf (fetcher.cachePath x.source)) =
          t.files.fileAt? (t.files.placeOf (fetcher.cachePath x.source))) ∧
    (∀ later : List Operation, (∀ op ∈ later, op.LeavesFiles) → ∀ x : Source,
      s.files.placeOf (fetcher.cachePath x) ≠ s.files.placeOf s.engine.overrideFile →
      (∀ r ∈ s.ledger later, r.status.outcome = some .downloaded →
        s.files.placeOf (fetcher.cachePath r.status.source) ≠
          s.files.placeOf (fetcher.cachePath x)) →
      (s.performAll later).files.fileAt? (s.files.placeOf (fetcher.cachePath x)) =
        s.files.fileAt? (s.files.placeOf (fetcher.cachePath x))) := by
  intro s fetcher
  have hs : s.IsRegular := isRegular_performAll (isRegular_build hfiles hreporter) hops
  refine ⟨fun op hop => ?_, fun t ht => ?_, fun later hlater x hoverride hreports =>
    fileAt?_performAll hs hlater hoverride hreports⟩
  · have hwithin := within_perform (s := s) hop
    exact ⟨hwithin.1, hwithin.2, fun url => isSome_reason?_of_within hwithin⟩
  · have hload := load_leads hs
    have hregular : t.IsRegular ∧ t.engine.fetcher = fetcher := by
      rcases ht with rfl | rfl
      · exact ⟨hs, rfl⟩
      · exact ⟨hload.isRegular, hload.fetcher_eq⟩
    obtain ⟨hregular, hfetcher⟩ := hregular
    obtain ⟨p, hof, hdone, hstatuses, -, hquiet⟩ := exists_refresh hregular
    rw [← hfetcher]
    refine ⟨?_, fun x hx houtcome halone hothers => ?_⟩
    · rw [hstatuses]
      exact ((Text.sortBy_perm _ _).map _).trans (hof.finished_perm hdone)
    · refine fileAt?_refresh hregular hx houtcome halone ?_
      rcases hothers with hcalm | hothers
      · intro r hr hscheduled
        rw [(hquiet hcalm).1 r hr] at hscheduled
        cases hscheduled
      · exact hothers

/-- Files with a list that is two days old. -/
def oldFiles : Files where
  entries := [(["FilterLists".toList], .folder 0), (["FilterLists".toList, "a.txt".toList],
    .file (.text "0.0.0.0 old.example.org".toList) (-172800000))]

/-- An engine with this list, about to hear some answers. -/
def awaiting (answers : List Answer) : System :=
  build { sources := [("a".toList, "https://l.example/a".toList)] } oldFiles
    { pending := [("https://l.example/a".toList, answers)], otherwise := .status 404 }
    { wall := fun t => t, steady := id }

/-- Where its file is. -/
def oldPlace : Place := ["FilterLists".toList, "a.txt".toList]

/-- A refresh that fails leaves the old file in its place. -/
theorem retention_of_failure :
    (awaiting []).refresh.engine.statuses.map (·.outcome) = [some .staleFallback] ∧
    (awaiting []).refresh.files.fileAt? oldPlace =
      some (.text "0.0.0.0 old.example.org".toList, -172800000) := by
  have htree : oldFiles.IsTree := Files.isTree_of_entries rfl (by decide)
  obtain ⟨-, hpass, -⟩ := retention { sources := [("a".toList, "https://l.example/a".toList)] }
    oldFiles { pending := [("https://l.example/a".toList, [])], otherwise := .status 404 }
    { wall := fun t => t, steady := id } none none [] htree (fun r hr => by cases hr)
    (fun op hop => by cases hop)
  obtain ⟨-, hkept⟩ := hpass (awaiting []) (Or.inl rfl)
  obtain ⟨x, hx, houtcome, hsource⟩ : ∃ x ∈ (awaiting []).refresh.engine.statuses,
      x.outcome ≠ some .downloaded ∧ x.source = ⟨"a".toList, "https://l.example/a".toList⟩ := by
    decide +kernel
  have hfile := hkept x hx houtcome (by rw [hsource]; decide +kernel)
    (Or.inl fun sch hsch => by cases hsch)
  have hplace : (awaiting []).files.placeOf ((awaiting []).engine.fetcher.cachePath x.source) =
      oldPlace := by
    rw [hsource]
    decide
  exact ⟨by decide +kernel, (hplace ▸ hfile).trans (by decide +kernel)⟩

/-- The scheduler has begun a pass, and its first call for the list has failed. -/
def overtaken : System :=
  (awaiting [.error (.status 503), .error (.status 503), .ok "0.0.0.0 new.example.org".toList,
    .error (.unexpected "closed".toList)]).performAll [.startScheduler 10000, .advance 11000]

/-- A refresh that begins then falls back on the text in the cache in the end, and no other list has
this file. Yet the file is another: the pass of the scheduler has downloaded the list in the
meantime. -/
theorem refresh_of_overtaken : ∃ x ∈ overtaken.refresh.engine.statuses,
    x.outcome = some .staleFallback ∧
    overtaken.engine.fetcher.IsAlone overtaken.files x.source ∧
    overtaken.refresh.files.fileAt?
        (overtaken.files.placeOf (overtaken.engine.fetcher.cachePath x.source)) ≠
      overtaken.files.fileAt?
        (overtaken.files.placeOf (overtaken.engine.fetcher.cachePath x.source)) := by
  decide +kernel

end System

end AdFilter
