import AdFilter.Proofs.Fetch.Answers
import AdFilter.Proofs.Fetch.Cache
import AdFilter.Proofs.Fetch.Contribution
import Mathlib.Data.List.Perm.Basic

/-!
# Runs of a pass

Lists in work wait for their calls at the same time, so the steps of a pass can come in many orders.
`Pass.Move` is a step of a pass without the choice that `Pass.step` makes: the list that waits
longest is taken into work if there is room, or any list in work makes its next attempt, at any
moment. `Pass.Run` is a pass up to some point, with all calls that were made and what they were
answered. What is shown of a run holds in whatever order its steps came.
-/

namespace AdFilter

open Text

/-- How a list was come by, and its text if it was. -/
structure Yield where
  outcome : Outcome
  text? : Option (List Char)
deriving DecidableEq

namespace Yield

/-- The rules that a list gave, repeated ones counted. -/
def counts (y : Yield) : RuleSet.Counts :=
  match y.text? with
  | some text =>
    let batch := Batch.ofList (FilterList.ofText text)
    ⟨batch.domains.length, batch.patterns.length⟩
  | none => ⟨0, 0⟩

/-- What is known of a list that was come by. -/
def status (y : Yield) (f : Fetcher) (s : Source) (files : Files) : SourceStatus :=
  ⟨s, some y.outcome, files.modified? (f.cachePath s), y.counts⟩

end Yield

namespace Pass

variable {f : Fetcher} {now : Moment} {p q : Pass} {st st' st₀ : Stock} {dates : Int → Prop}

/-- Calls that were made for lists, with what they were answered. -/
abbrev Log := List (Source × Answer)

variable {log made : Log}

/-! ## Steps -/

/-- Whether another attempt is worth while after an answer. -/
def retries : Answer → Bool
  | .ok _ => false
  | .error e => e.isTransient

/-- What the last answer for a list leaves of it; without a new text, one that is held has to do. -/
def conclude (held : Option (List Char)) : Answer → Yield
  | .ok text => ⟨.downloaded, some text⟩
  | .error _ =>
    match held with
    | some text => ⟨.staleFallback, some text⟩
    | none => ⟨.failed, none⟩

/-- The files after an answer for a list: a new text goes into the cache. -/
def filesAfter (f : Fetcher) (now : Moment) (s : Source) (files : Files) : Answer → Files
  | .ok text => (Cache.store files now.wall f.folder (f.cachePath s) text).1
  | .error _ => files

theorem begin_eq (f : Fetcher) (now : Moment) (s : Source) (st : Stock) :
    begin f now s st = match beginText? f now s st with
      | some text => (.ends (Yield.status ⟨.cached, some text⟩ f s st.files),
          { st with rules := withText st.rules (some text) })
      | none => (.goesOn ⟨s, 1, now.timer⟩, st) := by
  rw [begin, beginText?]
  rcases (if Cache.needsRefresh st.files now.wall (f.cachePath s) then none
    else st.files.readText? (f.cachePath s)) with _ | text <;> rfl

theorem attempt_eq (f : Fetcher) (now : Moment) (j : Job) (st : Stock) :
    attempt f now j st =
      let a := (st.web.call now.timer j.source.url).1
      let web := (st.web.call now.timer j.source.url).2
      if retries a && j.attempt < Fetcher.attempts then
        (.goesOn ⟨j.source, j.attempt + 1, now.timer + j.attempt * Fetcher.backoff⟩,
          { st with web := web })
      else
        let y := conclude (st.files.readText? (f.cachePath j.source)) a
        let files := filesAfter f now j.source st.files a
        (.ends (y.status f j.source files), ⟨files, web, withText st.rules y.text?⟩) := by
  rw [attempt]
  rcases st.web.call now.timer j.source.url with ⟨answer, web⟩
  rcases answer with e | text
  · have hretries : retries (.error e) = e.isTransient := rfl
    dsimp only
    rw [hretries]
    by_cases h : (e.isTransient && decide (j.attempt < Fetcher.attempts)) = true
    · rw [if_pos h, if_pos h]
    · rw [if_neg h, if_neg h, giveUp]
      dsimp only
      rcases hheld : st.files.readText? (f.cachePath j.source) with _ | text <;> rfl
  · rfl

/-- A step of a pass at some moment, with the call that it makes. -/
inductive Move (f : Fetcher) (now : Moment) : Pass → Stock → Log → Pass → Stock → Prop
  /-- a list is taken into work and had from the cache -/
  | hit {s waiting running finished st text} (room : running.length < f.limit)
      (text_eq : beginText? f now s st = some text) :
      Move f now ⟨s :: waiting, running, finished⟩ st []
        ⟨waiting, running, finished ++ [Yield.status ⟨.cached, some text⟩ f s st.files]⟩
        { st with rules := withText st.rules (some text) }
  /-- a list is taken into work and has to be downloaded -/
  | miss {s waiting running finished st} (room : running.length < f.limit)
      (text_eq : beginText? f now s st = none) :
      Move f now ⟨s :: waiting, running, finished⟩ st []
        ⟨waiting, running ++ [⟨s, 1, now.timer⟩], finished⟩ st
  /-- an attempt fails, and another one will be made -/
  | retry {waiting before j after finished st a web}
      (call_eq : st.web.call now.timer j.source.url = (a, web)) (retries : retries a = true)
      (left : j.attempt < Fetcher.attempts) :
      Move f now ⟨waiting, before ++ j :: after, finished⟩ st [(j.source, a)]
        ⟨waiting, before ++ after ++
          [⟨j.source, j.attempt + 1, now.timer + j.attempt * Fetcher.backoff⟩], finished⟩
        { st with web := web }
  /-- an attempt is the last one -/
  | conclude {waiting before j after finished st a web files y}
      (call_eq : st.web.call now.timer j.source.url = (a, web))
      (last : retries a = true → Fetcher.attempts ≤ j.attempt)
      (files_eq : filesAfter f now j.source st.files a = files)
      (yield_eq : conclude (st.files.readText? (f.cachePath j.source)) a = y) :
      Move f now ⟨waiting, before ++ j :: after, finished⟩ st [(j.source, a)]
        ⟨waiting, before ++ after, finished ++ [y.status f j.source files]⟩
        ⟨files, web, withText st.rules y.text?⟩

theorem exists_earliest? {js : List Job} (h : js ≠ []) :
    ∃ j rest, earliest? js = some (j, rest) := by
  obtain ⟨i, js, rfl⟩ := List.exists_cons_of_ne_nil h
  rw [earliest?]
  rcases earliest? js with _ | ⟨k, tail⟩
  · exact ⟨i, [], rfl⟩
  · dsimp only
    split <;> exact ⟨_, _, rfl⟩

theorem append_of_earliest? {js rest : List Job} {j : Job} (h : earliest? js = some (j, rest)) :
    ∃ before after, js = before ++ j :: after ∧ rest = before ++ after := by
  induction js generalizing j rest with
  | nil => cases h
  | cons i js ih =>
    rw [earliest?] at h
    rcases hjs : earliest? js with _ | ⟨k, tail⟩
    · rw [hjs] at h
      cases h
      rcases js with _ | ⟨i', js⟩
      · exact ⟨[], [], rfl, rfl⟩
      · obtain ⟨k, tail, hsome⟩ := exists_earliest? (List.cons_ne_nil i' js)
        rw [hsome] at hjs
        cases hjs
    · rw [hjs] at h
      dsimp only at h
      split at h
      · cases h
        exact ⟨[], js, rfl, rfl⟩
      · cases h
        obtain ⟨before, after, rfl, rfl⟩ := ih hjs
        exact ⟨i :: before, after, rfl, rfl⟩

/-- What is due first is a step that can be made. -/
theorem next_move {waiting : List Source} {running : List Job} {finished : List SourceStatus}
    (hne : running ≠ []) (now : Moment) (st : Stock) :
    ∃ made, Move f now ⟨waiting, running, finished⟩ st made
      (step.next f now ⟨waiting, running, finished⟩ st).1
      (step.next f now ⟨waiting, running, finished⟩ st).2 := by
  obtain ⟨j, rest, hj⟩ := exists_earliest? hne
  obtain ⟨before, after, hrunning, rfl⟩ := append_of_earliest? hj
  rw [step.next]
  dsimp only
  rw [hj]
  dsimp only
  rw [attempt_eq, hrunning]
  rcases hcall : st.web.call now.timer j.source.url with ⟨a, web⟩
  dsimp only
  split
  · rename_i h
    rw [Bool.and_eq_true, decide_eq_true_iff] at h
    exact ⟨_, .retry hcall h.1 h.2⟩
  · rename_i h
    refine ⟨_, .conclude hcall (fun ha => ?_) rfl rfl⟩
    rw [Bool.and_eq_true, decide_eq_true_iff, not_and] at h
    exact Nat.le_of_not_lt (h ha)

/-- As long as a pass is not done, it makes a step that can be made. -/
theorem step_move (h : p.isDone = false) (now : Moment) (st : Stock) :
    ∃ made, Move f now p st made (step f now p st).1 (step f now p st).2 := by
  obtain ⟨waiting, running, finished⟩ := p
  rw [step]
  rcases waiting with _ | ⟨s, waiting⟩
  · -- no list waits, so there must be work
    have hne : running ≠ [] := by
      rintro rfl
      cases h
    exact next_move hne now st
  · dsimp only
    split
    · rename_i hroom
      rw [begin_eq]
      rcases htext : beginText? f now s st with _ | text
      · exact ⟨_, .miss hroom htext⟩
      · exact ⟨_, .hit hroom htext⟩
    · rename_i hfull
      -- there is room for at least one
      have hne : running ≠ [] := by
        rintro rfl
        exact hfull (Nat.lt_of_lt_of_le Nat.zero_lt_one (Nat.le_max_right _ _))
      exact next_move hne now st

/-! ## What a step preserves -/

/-- All lists of a pass: those that wait, those in work, and those that are done with. -/
def sources (p : Pass) : List Source :=
  p.waiting ++ p.running.map (·.source) ++ p.finished.map (·.source)

/-- Whether a pass goes over the lists of a fetcher: none is lost, and none comes twice or is tried
more often than it may be. -/
structure IsOf (f : Fetcher) (p : Pass) : Prop where
  sources_perm : p.sources.Perm f.sources
  attempt_bounds : ∀ j ∈ p.running, 1 ≤ j.attempt ∧ j.attempt ≤ Fetcher.attempts

/-- What is left of the lists in work was among them. -/
theorem subset_of_running (before after : List Job) (j : Job) :
    before ++ after ⊆ before ++ j :: after :=
  ((List.append_sublist_append_left before).mpr (List.sublist_cons_self j after)).subset

theorem isOf_start (f : Fetcher) : (Pass.start f).IsOf f := by
  refine ⟨?_, fun j hj => ?_⟩
  · rw [sources, Pass.start, List.map_nil, List.map_nil, List.append_nil, List.append_nil]
  · cases hj

theorem Move.sources_perm (h : Move f now p st made q st') : q.sources.Perm p.sources := by
  rw [List.perm_iff_count]
  intro s
  cases h <;>
    simp only [sources, Yield.status, List.map_append, List.map_cons, List.map_nil,
      List.count_append, List.count_cons, List.count_nil] <;>
    omega

theorem Move.isOf (h : Move f now p st made q st') (hp : p.IsOf f) : q.IsOf f := by
  refine ⟨h.sources_perm.trans hp.sources_perm, fun k hk => ?_⟩
  have hold := hp.attempt_bounds
  cases h with
  | hit => exact hold k hk
  | miss =>
    rcases List.mem_append.mp hk with hk | hk
    · exact hold k hk
    · rw [List.mem_singleton.mp hk]
      exact ⟨Nat.le_refl 1, (by decide : 1 ≤ Fetcher.attempts)⟩
  | retry _ _ hleft =>
    rw [List.mem_append, List.mem_singleton] at hk
    rcases hk with hk | rfl
    · exact hold k (subset_of_running _ _ _ hk)
    · exact ⟨Nat.succ_le_succ (Nat.zero_le _), hleft⟩
  | conclude => exact hold k (subset_of_running _ _ _ hk)

namespace IsOf

theorem mem_sources_of_running (h : p.IsOf f) {j : Job} (hj : j ∈ p.running) :
    j.source ∈ f.sources :=
  h.sources_perm.subset (List.mem_append_left _ (List.mem_append_right _ (List.mem_map_of_mem hj)))

theorem mem_sources_of_finished (h : p.IsOf f) {x : SourceStatus} (hx : x ∈ p.finished) :
    x.source ∈ f.sources :=
  h.sources_perm.subset (List.mem_append_right _ (List.mem_map_of_mem hx))

/-- When a pass is done, it is done with all lists. -/
theorem finished_perm (h : p.IsOf f) (hdone : p.isDone = true) :
    (p.finished.map (·.source)).Perm f.sources := by
  rw [isDone, Bool.and_eq_true, List.isEmpty_iff, List.isEmpty_iff] at hdone
  have hperm := h.sources_perm
  rwa [sources, hdone.1, hdone.2] at hperm

end IsOf

/-- What a pass has come to know from one point to another. -/
def ended (p q : Pass) : List SourceStatus := q.finished.drop p.finished.length

/-- What is known once stays known. -/
theorem Move.finished_eq (h : Move f now p st made q st') :
    q.finished = p.finished ++ p.ended q := by
  rw [ended]
  cases h with
  | hit => rw [List.drop_left]
  | miss => rw [List.drop_length, List.append_nil]
  | retry => rw [List.drop_length, List.append_nil]
  | conclude => rw [List.drop_left]

/-! ## Files -/

/-- Whether the file at a place may be another after some lists were done with: it is one that is
written first for another, or that of a list that was downloaded. -/
def MayChange (f : Fetcher) (files : Files) (xs : List SourceStatus) (r : Place) : Prop :=
  (∃ s ∈ f.sources, r = files.placeOf (Cache.temporary (f.cachePath s))) ∨
    ∃ x ∈ xs, x.source ∈ f.sources ∧ x.outcome = some .downloaded ∧
      r = files.placeOf (f.cachePath x.source)

theorem MayChange.mono {files : Files} {xs ys : List SourceStatus} (h : xs ⊆ ys) {r : Place}
    (hr : MayChange f files xs r) : MayChange f files ys r := by
  refine hr.imp_right ?_
  rintro ⟨x, hx, hplace⟩
  exact ⟨x, h hx, hplace⟩

theorem filesAfter_grows (f : Fetcher) (now : Moment) {files : Files} (hf : files.IsTree)
    (s : Source) (a : Answer) :
    files.Grows (filesAfter f now s files a) (fun q => ∃ text, a = .ok text ∧
      (q = files.placeOf (Cache.temporary (f.cachePath s)) ∨
        q = files.placeOf (f.cachePath s))) := by
  rcases a with e | text
  · exact Files.Grows.refl hf
  · exact (Cache.store_grows hf _ text).mono fun q hq => ⟨text, rfl, hq⟩

/-- A step changes the file of a list only if it ends the work on it with a download. -/
theorem Move.grows (hf : st.files.IsTree) (hp : p.IsOf f) (h : Move f now p st made q st') :
    st.files.Grows st'.files (MayChange f st.files (p.ended q)) := by
  cases h with
  | hit => exact Files.Grows.refl hf
  | miss => exact Files.Grows.refl hf
  | retry => exact Files.Grows.refl hf
  | @conclude waiting before j after finished _ a web files y hcall hlast hfiles hyield =>
    have hnew := filesAfter_grows f now hf j.source a
    rw [hfiles] at hnew
    refine hnew.mono ?_
    rintro r ⟨text, rfl, hr⟩
    rcases hr with hr | hr
    · exact Or.inl ⟨j.source, hp.mem_sources_of_running (by simp), hr⟩
    · refine Or.inr ⟨y.status f j.source files, ?_, hp.mem_sources_of_running (by simp), ?_, hr⟩
      · rw [ended, List.drop_left]
        exact List.mem_singleton_self _
      · rw [← hyield]
        rfl

/-- What may change does not hang on where the program is, as long as that is the same. -/
theorem MayChange.congr {files files' : Files} (hhome : files'.home = files.home)
    {xs : List SourceStatus} {r : Place} (h : MayChange f files' xs r) :
    MayChange f files xs r := by
  refine h.imp ?_ ?_
  · rintro ⟨s, hs, hr⟩
    exact ⟨s, hs, hr.trans (Files.placeOf_congr hhome _)⟩
  · rintro ⟨x, hx, hsource, houtcome, hr⟩
    exact ⟨x, hx, hsource, houtcome, hr.trans (Files.placeOf_congr hhome _)⟩

/-! ## Runs -/

/-- A pass from its start to some point, at given dates, with the calls made so far. -/
inductive Run (f : Fetcher) (dates : Int → Prop) (st₀ : Stock) : Log → Pass → Stock → Prop
  | start : Run f dates st₀ [] (Pass.start f) st₀
  | move {now : Moment} {log made : Log} {p q : Pass} {st st' : Stock}
      (run : Run f dates st₀ log p st) (date : dates now.wall)
      (move : Move f now p st made q st') : Run f dates st₀ (log ++ made) q st'

namespace Run

theorem isOf (h : Run f dates st₀ log p st) : p.IsOf f := by
  induction h with
  | start => exact isOf_start f
  | move _ _ hmove ih => exact hmove.isOf ih

theorem mem_sources_of_running (h : Run f dates st₀ log p st) {j : Job} (hj : j ∈ p.running) :
    j.source ∈ f.sources := h.isOf.mem_sources_of_running hj

theorem mem_sources_of_finished (h : Run f dates st₀ log p st) {x : SourceStatus}
    (hx : x ∈ p.finished) : x.source ∈ f.sources := h.isOf.mem_sources_of_finished hx

/-- A pass changes the files of the lists that it downloads, and no others. -/
theorem grows (hf : st₀.files.IsTree) (h : Run f dates st₀ log p st) :
    st₀.files.Grows st.files (MayChange f st₀.files p.finished) := by
  induction h with
  | start => exact Files.Grows.refl hf
  | @move now log made p q st st' hrun _ hmove ih =>
    have hfinished := hmove.finished_eq
    have hold : st₀.files.Grows st.files (MayChange f st₀.files q.finished) :=
      ih.mono fun r hr => hr.mono (hfinished ▸ List.subset_append_left _ _)
    refine hold.trans ((hmove.grows hold.isTree hrun.isOf).mono fun r hr => ?_)
    exact (hr.mono (hfinished ▸ List.subset_append_right _ _)).congr hold.home_eq

end Run

/-! ## Calls -/

/-- What the calls for an address were answered. -/
def answersFor (log : Log) (url : List Char) : List Answer :=
  (log.filter fun e => e.1.url = url).map (·.2)

/-- What the calls for a list were answered. -/
def heard (log : Log) (s : Source) : List Answer := (log.filter fun e => e.1 = s).map (·.2)

@[simp] theorem heard_nil (s : Source) : heard [] s = [] := rfl

theorem heard_concat_self (log : Log) (s : Source) (a : Answer) :
    heard (log ++ [(s, a)]) s = heard log s ++ [a] := by
  simp [heard]

theorem heard_concat_of_ne (log : Log) {s t : Source} (h : s ≠ t) (a : Answer) :
    heard (log ++ [(s, a)]) t = heard log t := by
  simp [heard, h]

/-- A step makes one call or none. -/
theorem Move.web_eq (h : Move f now p st made q st') : (made = [] ∧ st'.web = st.web) ∨
    ∃ s a, made = [(s, a)] ∧ st.web.call now.timer s.url = (a, st'.web) := by
  cases h with
  | hit => exact Or.inl ⟨rfl, rfl⟩
  | miss => exact Or.inl ⟨rfl, rfl⟩
  | retry hcall => exact Or.inr ⟨_, _, rfl, hcall⟩
  | conclude hcall => exact Or.inr ⟨_, _, rfl, hcall⟩

namespace Run

theorem calls_eq (h : Run f dates st₀ log p st) :
    st.web.calls.map (·.2) = st₀.web.calls.map (·.2) ++ log.map (·.1.url) := by
  induction h with
  | start => rw [List.map_nil, List.append_nil]
  | @move now log made p q st st' _ _ hmove ih =>
    rcases hmove.web_eq with ⟨rfl, hweb⟩ | ⟨s, a, rfl, hcall⟩
    · rw [hweb, ih, List.append_nil]
    · obtain ⟨-, -, -, hcalls⟩ := st.web.answer_call now.timer s.url
      rw [hcall] at hcalls
      rw [hcalls, List.map_append, ih, List.map_append, List.append_assoc]
      rfl

/-- The calls for an address get the answers that were settled for it, one after the other. -/
theorem answersFor_eq (h : Run f dates st₀ log p st) (url : List Char) :
    answersFor log url =
        (List.range (answersFor log url).length).map (st₀.web.answer url) ∧
      ∀ n, st.web.answer url n = st₀.web.answer url (n + (answersFor log url).length) := by
  induction h with
  | start => exact ⟨rfl, fun _ => rfl⟩
  | @move now log made p q st st' _ _ hmove ih =>
    obtain ⟨hlog, hweb⟩ := ih
    rcases hmove.web_eq with ⟨rfl, hsame⟩ | ⟨s, a, rfl, hcall⟩
    · rw [hsame, List.append_nil]
      exact ⟨hlog, hweb⟩
    · obtain ⟨hfirst, hnext, hothers, -⟩ := st.web.answer_call now.timer s.url
      rw [hcall] at hfirst hnext hothers
      by_cases hurl : s.url = url
      · subst hurl
        have hconcat : answersFor (log ++ [(s, a)]) s.url = answersFor log s.url ++ [a] := by
          simp [answersFor]
        rw [hconcat, List.length_append, List.length_singleton]
        refine ⟨?_, fun n => ?_⟩
        · have ha : a = st.web.answer s.url 0 := hfirst
          rw [List.range_succ, List.map_append, ← hlog, ha, hweb, Nat.zero_add]
          rfl
        · rw [hnext, hweb, Nat.add_right_comm, Nat.add_assoc]
      · have hconcat : answersFor (log ++ [(s, a)]) url = answersFor log url := by
          simp [answersFor, hurl]
        rw [hconcat]
        exact ⟨hlog, fun n => (hothers url n (Ne.symm hurl)).trans (hweb n)⟩

end Run

end Pass

end AdFilter
