import AdFilter.Proofs.Fetch.Alone
import AdFilter.Proofs.Fetch.Stint
import AdFilter.Proofs.Rule.Union

/-!
# What becomes of each list

`Pass.Account` says of the stints in a pass what the pass does for each list: which calls are made,
which texts go into the rules, and what is reported. What becomes of a list with a file of its own
is settled by that file as it was at the start and by the answers to its calls
(`Stint.Follows`), whatever becomes of the others.
-/

namespace AdFilter

namespace Stint

/-- Whether a list fares as its file and the answers to its calls have it: one that is in work is
not fresh, and all answers so far leave hope; and one that is done with was come by as they tell. -/
structure Follows (f : Fetcher) (wall : Nat → Int) (files : Files) (x : Stint) : Prop where
  working : x.job?.isSome = true → f.freshText? files (wall x.began) x.source = none ∧
    ∀ a ∈ x.answers, Pass.retries a = true
  hit : x.status?.isSome = true → (f.freshText? files (wall x.began) x.source).isSome = true →
    x.calls = []
  miss : x.status?.isSome = true → f.freshText? files (wall x.began) x.source = none →
    Pass.IsHearing x.answers
  outcome_eq : ∀ y, x.status? = some y →
    y.outcome = some (f.fate files (wall x.began) x.source x.answers).outcome
  text?_eq : x.status?.isSome = true →
    x.text? = (f.fate files (wall x.began) x.source x.answers).text?

/-- Whether what is reported of a list fits what was brought in with it. -/
structure Fits (x : Stint) : Prop where
  working : x.job?.isSome = true → x.text? = none ∧ x.stored = false
  counts : ∀ y, x.status? = some y →
    ∃ o, y.outcome = some o ∧ y.counts = Yield.counts ⟨o, x.text?⟩

theorem follows_of_status?_eq_none {f : Fetcher} {wall : Nat → Int} {files : Files} {x : Stint}
    (h : x.status? = none) (hfresh : f.freshText? files (wall x.began) x.source = none)
    (hall : ∀ a ∈ x.answers, Pass.retries a = true) : x.Follows f wall files := by
  have hopen : x.status?.isSome ≠ true := by
    rw [h]
    exact Bool.false_ne_true
  refine ⟨fun _ => ⟨hfresh, hall⟩, fun hsome => absurd hsome hopen, fun hsome =>
    absurd hsome hopen, fun y hy => ?_, fun hsome => absurd hsome hopen⟩
  rw [h] at hy
  cases hy

end Stint

namespace Pass

variable {f : Fetcher} {now : Moment} {p : Pass} {st st₀ : Stock} {xs : List Stint} {start : Nat}
  {dates : Int → Prop} {log : Log} {wall : Nat → Int} {s : Source} {j : Job} {x : Stint}

/-! ## What a turn brings in -/

theorem withText_eq_changeAll (s : RuleSet) (text? : Option (List Char)) :
    withText s text? = s.changeAll (text?.toList.map RuleChange.ofText) := by
  rcases text? with _ | text <;> rfl

theorem attemptText?_eq (f : Fetcher) (now : Moment) (j : Job) (st : Stock) :
    attemptText? f now j st =
      let a := (st.web.call now.timer j.source.url).1
      if retries a && j.attempt < Fetcher.attempts then none
      else (conclude (st.files.readText? (f.cachePath j.source)) a).text? := by
  rw [attemptText?]
  rcases st.web.call now.timer j.source.url with ⟨e | text, web⟩
  · rcases st.files.readText? (f.cachePath j.source) with _ | held <;> rfl
  · rfl

/-- An attempt fails, and another one will be made, or it is the last one. -/
theorem attempt_cases (f : Fetcher) (now : Moment) (j : Job) (st : Stock) :
    let a := (st.web.call now.timer j.source.url).1
    let y := conclude (st.files.readText? (f.cachePath j.source)) a
    let files := filesAfter f now j.source st.files a
    (retries a = true ∧ (attempt f now j st).1.status? = none ∧ attemptText? f now j st = none ∧
        (attempt f now j st).2.files = st.files) ∨
      (retries a = true → Fetcher.attempts ≤ j.attempt) ∧
        (attempt f now j st).1 = .ends (y.status f j.source files) ∧
        attemptText? f now j st = y.text? ∧ (attempt f now j st).2.files = files := by
  intro a y files
  rw [attempt_eq, attemptText?_eq]
  dsimp only
  split
  · rename_i h
    rw [Bool.and_eq_true] at h
    exact Or.inl ⟨h.1, rfl, rfl, rfl⟩
  · rename_i h
    rw [Bool.and_eq_true, decide_eq_true_iff, not_and] at h
    exact Or.inr ⟨fun ha => Nat.le_of_not_lt (h ha), rfl, rfl, rfl⟩

/-! ## The account -/

/-- What a pass does for the lists, from some files, answers and rules to others. -/
structure Account (f : Fetcher) (wall : Nat → Int) (st₀ st : Stock) (xs : List Stint) : Prop where
  calls : ∃ calls, st.web.calls = st₀.web.calls ++ calls ∧ (xs.flatMap Stint.urls).Perm calls
  rules : ∃ texts, (xs.filterMap Stint.text?).Perm texts ∧
    st.rules = st₀.rules.changeAll (texts.map RuleChange.ofText)
  fits : ∀ x ∈ xs, x.Fits
  follows : ∀ x ∈ xs, f.IsAlone st₀.files x.source → st₀.files.IsSettled (f.way x.source) →
    x.Follows f wall st₀.files
  stored : ∀ x ∈ xs, f.IsAlone st₀.files x.source → x.stored = true → ∃ text t,
    x.text? = some text ∧ st.files.stat? (f.cachePath x.source) = some (.file (.text text) t)

theorem account_start (f : Fetcher) (wall : Nat → Int) (st : Stock) : Account f wall st st [] where
  calls := ⟨[], (List.append_nil _).symm, List.Perm.refl _⟩
  rules := ⟨[], List.Perm.refl _, rfl⟩
  fits := fun x hx => by cases hx
  follows := fun x hx => by cases hx
  stored := fun x hx => by cases hx

theorem fits_taken (f : Fetcher) (now : Moment) (s : Source) (st : Stock) :
    (Stint.taken f now s st).Fits := by
  have hturn : (Stint.taken f now s st).turn = (begin f now s st).1 := rfl
  rw [begin_eq] at hturn
  rcases htext : beginText? f now s st with _ | text
  · rw [htext] at hturn
    refine ⟨fun _ => ⟨htext, rfl⟩, fun y hy => ?_⟩
    rw [Stint.status?, hturn] at hy
    cases hy
  · rw [htext] at hturn
    refine ⟨fun hopen => ?_, fun y hy => ⟨.cached, ?_⟩⟩
    · rw [Stint.job?, hturn] at hopen
      cases hopen
    · rw [Stint.status?, hturn] at hy
      cases hy
      exact ⟨rfl, congrArg (fun t => Yield.counts ⟨.cached, t⟩) htext.symm⟩

theorem fits_called (f : Fetcher) (now : Moment) (j : Job) (st : Stock) (x : Stint) :
    (x.called f now j st).Fits := by
  rcases attempt_cases f now j st with ⟨hretries, hstatus, htext, -⟩ | ⟨-, hturn, htext, -⟩
  · have hstored : (x.called f now j st).stored = false := by
      rw [Stint.called]
      rcases hanswer : (st.web.call now.timer j.source.url).1 with e | text
      · rfl
      · rw [hanswer] at hretries
        cases hretries
    have hstatus : (x.called f now j st).status? = none := hstatus
    refine ⟨fun _ => ⟨htext, hstored⟩, fun y hy => ?_⟩
    rw [hstatus] at hy
    cases hy
  · have hturn : (x.called f now j st).turn = _ := hturn
    refine ⟨fun hopen => ?_, fun y hy => ?_⟩
    · rw [Stint.job?, hturn] at hopen
      cases hopen
    · rw [Stint.status?, hturn] at hy
      cases hy
      exact ⟨_, rfl, congrArg (fun t => Yield.counts ⟨_, t⟩) htext.symm⟩

/-- What is put into the cache is there then. -/
theorem stat?_called (hf : st.files.IsTree) (hsource : j.source = x.source)
    (h : (x.called f now j st).stored = true) : ∃ text t,
      (x.called f now j st).text? = some text ∧
      (attempt f now j st).2.files.stat? (f.cachePath x.source) = some (.file (.text text) t) := by
  have hcases := attempt_cases f now j st
  have htext : (x.called f now j st).text? = attemptText? f now j st := rfl
  rw [Stint.called] at h
  rw [htext, ← hsource]
  rcases hanswer : (st.web.call now.timer j.source.url).1 with e | text
  · rw [hanswer] at h
    cases h
  · rw [hanswer] at h hcases
    rcases hcases with ⟨hretries, -⟩ | ⟨-, -, hbrought, hfiles⟩
    · cases hretries
    · rw [hbrought, hfiles]
      exact ⟨text, now.wall, rfl, Cache.stat?_store hf h⟩

/-- A list that is taken into work is fresh, or nothing is known of it yet. -/
theorem follows_taken (hrun : Run f dates st₀ log p st) (hf : st₀.files.IsTree)
    (hs : s ∈ p.waiting) (hwall : now.wall = wall now.timer) (halone : f.IsAlone st₀.files s)
    (hsettled : st₀.files.IsSettled (f.way s)) :
    (Stint.taken f now s st).Follows f wall st₀.files := by
  have hgrows := hrun.grows hf
  obtain ⟨-, hfresh⟩ := Fetcher.reads_of_way hf hgrows hsettled
    (hrun.fileAt?_of_isAlone hf halone (Or.inl hs))
  have htext : beginText? f now s st = f.freshText? st₀.files (wall now.timer) s := by
    rw [← hfresh, ← hwall]
    rfl
  have hbegin := begin_eq f now s st
  rw [htext] at hbegin
  rcases hthen : f.freshText? st₀.files (wall now.timer) s with _ | text
  · rw [hthen] at hbegin
    have hstatus : (Stint.taken f now s st).status? = none := congrArg (·.1.status?) hbegin
    exact Stint.follows_of_status?_eq_none hstatus hthen fun a ha => by cases ha
  · rw [hthen] at hbegin htext
    have hturn : (Stint.taken f now s st).turn = .ends (Yield.status ⟨.cached, some text⟩ f s
      st.files) := congrArg Prod.fst hbegin
    have hfate : f.fate st₀.files (wall now.timer) s [] = ⟨.cached, some text⟩ :=
      Fetcher.fate_of_fresh hthen []
    refine ⟨fun hjob => ?_, fun _ _ => rfl, fun _ hnone => ?_, fun y hy => ?_, fun _ => ?_⟩
    · rw [Stint.job?, hturn] at hjob
      cases hjob
    · cases hthen.symm.trans hnone
    · rw [Stint.status?, hturn] at hy
      cases hy
      exact congrArg (fun y : Yield => some y.outcome) hfate.symm
    · exact htext.trans (congrArg Yield.text? hfate).symm

/-- A list that was called for is in work as long as the answers leave hope. -/
theorem follows_called (hrun : Run f dates st₀ log p st) (hf : st₀.files.IsTree)
    (hj : j ∈ p.running) (hx : x.Follows f wall st₀.files) (hjob : x.job? = some j)
    (hsource : j.source = x.source) (hattempt : j.attempt = x.calls.length + 1)
    (halone : f.IsAlone st₀.files x.source) (hsettled : st₀.files.IsSettled (f.way x.source)) :
    (x.called f now j st).Follows f wall st₀.files := by
  obtain ⟨hread, -⟩ := Fetcher.reads_of_way hf (hrun.grows hf) hsettled
    (hrun.fileAt?_of_isAlone hf halone (Or.inr ⟨j, hj, hsource⟩))
  obtain ⟨hfresh, hall⟩ := hx.working (by rw [hjob]; rfl)
  have hfresh' : f.freshText? st₀.files (wall (x.called f now j st).began)
    (x.called f now j st).source = none := hfresh
  have hbound := (hrun.isOf.attempt_bounds j hj).2
  have hlength : x.answers.length = x.calls.length := List.length_map _
  have hanswers : (x.called f now j st).answers =
      x.answers ++ [(st.web.call now.timer j.source.url).1] := List.map_append
  have hcases := attempt_cases f now j st
  rw [hsource, hread] at hcases
  rw [hsource] at hanswers
  rcases hcases with ⟨hretries, hstatus, -⟩ | ⟨hlast, hturn, htext, -⟩
  · have hstatus : (x.called f now j st).status? = none := hstatus
    refine Stint.follows_of_status?_eq_none hstatus hfresh fun a ha => ?_
    rw [hanswers, List.mem_append, List.mem_singleton] at ha
    rcases ha with ha | rfl
    · exact hall a ha
    · exact hretries
  · have hfate := Fetcher.fate_of_last hfresh x.answers (st.web.call now.timer x.source.url).1
    rw [← hanswers] at hfate
    have hturn : (x.called f now j st).turn = _ := hturn
    refine ⟨fun hopen => ?_, fun _ hsome => ?_, fun _ _ => ?_, fun y hy => ?_, fun _ => ?_⟩
    · rw [Stint.job?, hturn] at hopen
      cases hopen
    · rw [hfresh'] at hsome
      cases hsome
    · refine ⟨x.answers, _, hanswers, hall, ?_, fun ha => ?_⟩
      · omega
      · have := hlast ha
        omega
    · rw [Stint.status?, hturn] at hy
      cases hy
      exact congrArg (fun y : Yield => some y.outcome) hfate.symm
    · exact htext.trans (congrArg Yield.text? hfate).symm

namespace Account

/-- A list with a file of its own keeps it when others have their turn. -/
theorem stored_step (h : Account f wall st₀ st xs) (hon : p.OnTime f start now.timer xs)
    (hdone : p.isDone = false) (hf : st₀.files.IsTree) (hrun : Run f dates st₀ log p st)
    (hx : x ∈ xs) (halone : f.IsAlone st₀.files x.source) (hstored : x.stored = true) :
    ∃ text t, x.text? = some text ∧
      (step f now p st).2.files.stat? (f.cachePath x.source) = some (.file (.text text) t) := by
  obtain ⟨text, t, htext, hstat⟩ := h.stored x hx halone hstored
  refine ⟨text, t, htext, ?_⟩
  obtain ⟨made, hmove⟩ := step_move hdone (f := f) now st
  have hgrows := hrun.grows hf
  have halone' : f.IsAlone st.files x.source := by
    rw [Fetcher.IsAlone] at halone ⊢
    simp only [Files.placeOf_congr hgrows.home_eq]
    exact halone
  -- the list is done with
  have hnone : x.job? = none := by
    by_contra hsome
    rw [((h.fits x hx).working (Option.isSome_iff_ne_none.mpr hsome)).2] at hstored
    cases hstored
  obtain ⟨y, hy⟩ := Stint.exists_status_of_job?_eq_none hnone
  have hfinished : x.source ∈ p.finished.map (·.source) := by
    rw [← (hon.isTimely x hx).status y hy]
    exact List.mem_map_of_mem (hon.statuses_perm.subset (List.mem_filterMap.mpr ⟨x, hx, hy⟩))
  obtain ⟨changed, hmore, hkept⟩ :=
    hmove.fileAt?_of_isAlone hgrows.isTree hrun.isOf halone' hfinished
  exact Files.stat?_of_grows hmore hstat hkept

/-- The turn of a list is added to the account. -/
theorem step (h : Account f wall st₀ st xs) (hon : p.OnTime f start now.timer xs)
    (hdone : p.isDone = false) (hf : st₀.files.IsTree) (hrun : Run f dates st₀ log p st)
    (hwall : now.wall = wall now.timer) :
    Account f wall st₀ (step f now p st).2 (note f now p st xs) := by
  have hkept := fun y hy => h.stored_step hon hdone hf hrun (x := y) hy
  obtain ⟨calls, hcalls, hurls⟩ := h.calls
  obtain ⟨texts, htexts, hrules⟩ := h.rules
  obtain ⟨made, hmade, hmore⟩ := hon.calls_eq hdone st
  have hnew : ∃ calls, (Pass.step f now p st).2.web.calls = st₀.web.calls ++ calls ∧
      ((note f now p st xs).flatMap Stint.urls).Perm calls := by
    rw [hmade, hcalls, List.append_assoc]
    exact ⟨_, rfl, hmore.trans (hurls.append_right _)⟩
  have hbrought : ∀ text? : Option (List Char), withText st.rules text? =
      st₀.rules.changeAll ((texts ++ text?.toList).map RuleChange.ofText) := by
    intro text?
    rw [withText_eq_changeAll, hrules, List.map_append, RuleSet.changeAll_append]
  rcases step_cases hdone now st xs with ⟨s, waiting, hwaiting, -, hstep, hnote⟩ |
      ⟨j, before, after, hrunning, -, -, hstep, hnote⟩
  · rw [hstep] at hkept hnew ⊢
    rw [hnote] at hnew ⊢
    have hs : s ∈ p.waiting := by rw [hwaiting]; exact List.mem_cons_self ..
    have hbegin := begin_eq f now s st
    refine ⟨hnew, ⟨texts ++ (beginText? f now s st).toList, ?_, ?_⟩, ?_, ?_, ?_⟩
    · have hmiddle := filterMap_middle Stint.text? xs (.taken f now s st) []
      rw [List.append_nil] at hmiddle
      exact hmiddle.trans (htexts.append_right _)
    · exact (begin_rules f now s st).trans (hbrought _)
    all_goals
      intro y hy
      rw [List.mem_append, List.mem_singleton] at hy
      rcases hy with hy | rfl
    · exact h.fits y hy
    · exact fits_taken f now s st
    · exact h.follows y hy
    · exact follows_taken hrun hf hs hwall
    · exact hkept y hy
    · intro _ hstored
      cases hstored
  · have hj : j ∈ p.running := by rw [hrunning]; simp
    obtain ⟨first, x, last, rfl, hx, hrecord⟩ :=
      Stint.exists_record (hon.jobs_perm.symm.subset hj) (Stint.called f now j st)
    have hmem : x ∈ first ++ x :: last := by simp
    obtain ⟨hsource, hattempt, -⟩ := (hon.isTimely x hmem).job j hx
    rw [hstep] at hkept hnew ⊢
    rw [hnote, hrecord] at hnew ⊢
    refine ⟨hnew, ⟨texts ++ (attemptText? f now j st).toList, ?_, ?_⟩, ?_, ?_, ?_⟩
    · -- nothing was brought in with the list before
      have hold := (filterMap_middle Stint.text? first x last).symm.trans htexts
      rw [((h.fits x hmem).working (by rw [hx]; rfl)).1, Option.toList_none,
        List.append_nil] at hold
      exact (filterMap_middle Stint.text? first _ last).trans (hold.append_right _)
    · exact (attempt_rules f now j st).trans (hbrought _)
    all_goals
      intro y hy
      have hcases : y ∈ first ++ x :: last ∨ y = x.called f now j st := by
        rw [List.mem_append, List.mem_cons] at hy ⊢
        rcases hy with hy | hy | hy
        · exact Or.inl (Or.inl hy)
        · exact Or.inr hy
        · exact Or.inl (Or.inr (Or.inr hy))
      rcases hcases with hy | rfl
    · exact h.fits y hy
    · exact fits_called f now j st x
    · exact h.follows y hy
    · exact fun halone hsettled => follows_called hrun hf hj (h.follows x hmem halone hsettled) hx
        hsource hattempt halone hsettled
    · exact hkept y hy
    · exact fun _ hstored => stat?_called (hrun.grows hf).isTree hsource hstored

end Account

end Pass

end AdFilter
