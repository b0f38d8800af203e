import AdFilter.Proofs.Engine.Refresh
import AdFilter.Proofs.Fetch.Isolation
import AdFilter.Proofs.Rule.Union

/-!
# A refresh that finds everything in the cache

If the files of all lists are young enough, a refresh takes all texts from them, one after the other
and without a call, and no time goes by. Whatever else is due at that moment comes after it, so that
what the refresh leaves is known exactly (`System.refresh_of_fresh`).
-/

namespace AdFilter

open Text

namespace System

variable {s t : System}

/-- What comes first among the things that are due at the same time is done first. -/
theorem earliest?_cons_of_le {e : Nat × Event} {es : List (Nat × Event)}
    (h : ∀ x ∈ es, e.1 ≤ x.1) : earliest? (e :: es) = some e := by
  rw [earliest?]
  rcases hes : earliest? es with _ | x
  · rfl
  · exact if_pos (h x (mem_of_earliest? hes))

/-- A pass with a list to be taken into work comes before all else. -/
theorem dueInPass?_of_waiting {x : Source} {waiting : List Source} {finished : List SourceStatus}
    (h : t.pass = some ⟨x :: waiting, [], finished⟩) :
    dueInPass? t = some (t.clock.timer, .pass ⟨x :: waiting, [], finished⟩) := by
  have hroom : 0 < t.engine.fetcher.limit := Nat.lt_of_lt_of_le Nat.zero_lt_one
    (Nat.le_max_right _ _)
  have hdue : (⟨x :: waiting, [], finished⟩ : Pass).due? t.engine.fetcher t.clock.timer =
      some t.clock.timer := by
    rw [Pass.due?, List.isEmpty_cons, Bool.not_false, Bool.true_and, List.length_nil,
      if_pos (decide_eq_true hroom)]
  obtain ⟨others, hevents⟩ : ∃ others, t.events =
      (t.clock.timer, .pass ⟨x :: waiting, [], finished⟩) :: others := by
    rw [events, h]
    dsimp only [Option.bind_some]
    rw [hdue]
    exact ⟨_, rfl⟩
  rw [dueInPass?, h, hevents]
  refine earliest?_cons_of_le fun y hy => le_of_mem_events ?_
  rw [hevents]
  exact List.mem_cons_of_mem _ hy

/-- What is known of a list that is had from the cache. -/
def freshStatus (s : System) (text : Source → List Char) (x : Source) : SourceStatus :=
  Yield.status ⟨.cached, some (text x)⟩ s.engine.fetcher x s.files

/-- The same with some texts brought in. -/
def withTexts (s : System) (texts : List (List Char)) : System :=
  let rules := s.engine.rules.changeAll (texts.map RuleChange.ofText)
  { s with engine := { s.engine with rules := rules } }

/-- The state after a pass that has taken some texts from the cache. -/
def afterFresh (s : System) (texts : List (List Char)) (finished : List SourceStatus) : System :=
  { (s.withTexts texts).finishPass ⟨[], [], finished⟩ with pass := none }

/-- A list whose file is young enough is done with at once. -/
theorem step_of_fresh {x : Source} {waiting : List Source} {finished : List SourceStatus}
    {text : List Char}
    (hfresh : t.engine.fetcher.freshText? t.files t.clock.date x = some text) :
    let done := finished ++ [Yield.status ⟨.cached, some text⟩ t.engine.fetcher x t.files]
    t.step t.clock.timer (.pass ⟨x :: waiting, [], finished⟩) =
      if waiting.isEmpty then t.afterFresh [text] done
      else { t.withTexts [text] with pass := some ⟨waiting, [], done⟩ } := by
  intro done
  have hroom : 0 < t.engine.fetcher.limit := Nat.lt_of_lt_of_le Nat.zero_lt_one
    (Nat.le_max_right _ _)
  have hbegin : Pass.beginText? t.engine.fetcher t.clock.moment x t.stock = some text := hfresh
  have hstep : (⟨x :: waiting, [], finished⟩ : Pass).step t.engine.fetcher t.clock.moment t.stock =
      (⟨waiting, [], done⟩, { t.stock with rules := t.engine.rules.change (.ofText text) }) := by
    rw [Pass.step]
    dsimp only
    rw [List.length_nil, if_pos hroom, Pass.begin_eq, hbegin]
    rfl
  rw [step]
  dsimp only
  rw [stepPass_of_step hstep, Pass.isDone, List.isEmpty_nil, Bool.and_true]
  rfl

/-- A pass over lists whose files are young enough takes their texts, one after the other. -/
theorem follow_of_fresh {waiting : List Source} {finished : List SourceStatus}
    {text : Source → List Char} {fuel : Nat} (hne : waiting ≠ []) (hfuel : waiting.length ≤ fuel)
    (hpass : t.pass = some ⟨waiting, [], finished⟩)
    (hfresh : ∀ x ∈ waiting,
      t.engine.fetcher.freshText? t.files t.clock.date x = some (text x)) :
    follow dueInPass? fuel t =
      t.afterFresh (waiting.map text) (finished ++ waiting.map (t.freshStatus text)) := by
  -- on the lists that wait; each step leaves files, clock and lists as they are
  induction waiting generalizing t finished fuel with
  | nil => exact absurd rfl hne
  | cons x waiting ih =>
    obtain ⟨fuel, rfl⟩ : ∃ n, fuel = n + 1 := ⟨fuel - 1, by rw [List.length_cons] at hfuel; omega⟩
    rw [follow, dueInPass?_of_waiting hpass]
    dsimp only
    rw [step_of_fresh (hfresh x (List.mem_cons_self ..))]
    rcases waiting with _ | ⟨y, waiting⟩
    · rw [List.isEmpty_nil, if_pos rfl]
      have hdone : dueInPass? (t.afterFresh [text x]
          (finished ++ [Yield.status ⟨.cached, some (text x)⟩ t.engine.fetcher x t.files])) =
            none := rfl
      cases fuel with
      | zero => rfl
      | succ fuel =>
        rw [follow, hdone]
        rfl
    · rw [List.isEmpty_cons, if_neg Bool.false_ne_true]
      generalize hdone : finished ++ [Yield.status _ _ _ _] = done
      refine (ih (t := { t.withTexts [text x] with pass := some ⟨y :: waiting, [], done⟩ })
        (List.cons_ne_nil _ _) (Nat.le_of_succ_le_succ hfuel) rfl
        fun z hz => hfresh z (List.mem_cons_of_mem _ hz)).trans ?_
      rw [← hdone, List.append_assoc]
      rfl

/-- If the files of all lists are young enough, a refresh makes no call, takes no time and changes
no file. It brings in the texts in the order of the lists, and reports on all of them as had from
the cache. -/
theorem refresh_of_fresh {text : Source → List Char}
    (hfresh : ∀ x ∈ s.engine.fetcher.sources,
      s.engine.fetcher.freshText? s.files s.clock.date x = some (text x)) :
    s.refresh.web = s.web ∧ s.refresh.files = s.files ∧ s.refresh.clock = s.clock ∧
      s.refresh.engine.rules =
        s.engine.rules.changeAll ((s.engine.fetcher.sources.map text).map RuleChange.ofText) ∧
      s.refresh.engine.statuses =
        sortBy (·.source.name) (s.engine.fetcher.sources.map (s.freshStatus text)) := by
  obtain ⟨hstock, hfetcher, hclock, -⟩ := deliver_frame s
  have hfiles : s.deliver.files = s.files := congrArg Stock.files hstock
  have hweb : s.deliver.web = s.web := congrArg Stock.web hstock
  have hrules : s.deliver.engine.rules = s.engine.rules := congrArg Stock.rules hstock
  rw [refresh_eq, hfetcher, Pass.start, Pass.isDone, List.isEmpty_nil, Bool.and_true]
  by_cases hempty : s.engine.fetcher.sources = []
  · rw [hempty, List.isEmpty_nil, if_pos rfl]
    exact ⟨hweb, hfiles, hclock, hrules, rfl⟩
  · rw [if_neg (by simpa using hempty)]
    have hpass : s.beginPass.pass = some ⟨s.engine.fetcher.sources, [], []⟩ := by
      rw [beginPass, hfetcher]
      rfl
    have hfuel : s.engine.fetcher.sources.length ≤ s.passFuel := by
      rw [passFuel, stepsWithin, hfetcher]
      have hfour : s.engine.fetcher.sources.length ≤
          (Fetcher.attempts + 1) * s.engine.fetcher.sources.length + 3 :=
        Nat.le_add_right_of_le (Nat.le_mul_of_pos_left _ (Nat.succ_pos _))
      exact Nat.le_trans hfour (Nat.le_mul_of_pos_left _ (Nat.succ_pos _))
    have hsame : s.beginPass.files = s.files ∧ s.beginPass.clock = s.clock ∧
        s.beginPass.engine.fetcher = s.engine.fetcher := ⟨hfiles, hclock, hfetcher⟩
    have hfresh' : ∀ x ∈ s.engine.fetcher.sources, s.beginPass.engine.fetcher.freshText?
        s.beginPass.files s.beginPass.clock.date x = some (text x) := by
      rw [hsame.1, hsame.2.1, hsame.2.2]
      exact hfresh
    rw [follow_of_fresh hempty hfuel hpass hfresh']
    have hstatus : s.beginPass.freshStatus text = s.freshStatus text := by
      funext x
      rw [freshStatus, freshStatus, hsame.1, hsame.2.2]
    rw [hstatus]
    exact ⟨hweb, hfiles, hclock, congrArg (RuleSet.changeAll · _) hrules, rfl⟩

end System

end AdFilter
