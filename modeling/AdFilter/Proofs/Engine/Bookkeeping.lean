import AdFilter.Proofs.Engine.Task
import AdFilter.Proofs.Log.Delivery

/-!
# The books of the engine

Requests and navigations are counted and logged, and so are the passes that are completed.
`System.decisions` collects the answers that are given while operations follow one another, and
`System.completions` the passes. The counters are what is counted in these lists (`Counters.Tally`),
and the log is called with the entries of the decisions, in their order (`Logger.HasNoted`); what
sinks have shown and kept, they have taken from it. `System.bookkeeping_spec` says so of every
engine, from its beginning.
-/

namespace AdFilter

/-! ## What is judged -/

/-- A request or a navigation, with the answer to it. -/
inductive Decision where
  | request (url : List Char) (reason : Option Reason)
  | navigation (url : List Char) (verdict : Verdict)
deriving Repr, DecidableEq

namespace Decision

variable {ds es : List Decision} {url : List Char}

/-- The entry for the log. -/
def entry : Decision → LogEntry
  | request url (some r) => ⟨url, .blocked, some r.text, 0⟩
  | request url none => ⟨url, .allowed, none, 0⟩
  | navigation url (.suppress w) => ⟨url, .suppressed, some w.text, 0⟩
  | navigation url .redirect => ⟨url, .redirected, none, 0⟩

/-- The answers to requests. -/
def answers (ds : List Decision) : List (Option Reason) :=
  ds.filterMap fun
    | request _ reason => some reason
    | navigation _ _ => none

/-- The reasons for which requests are blocked. -/
def reasons (ds : List Decision) : List Reason := (answers ds).filterMap id

/-- The verdicts on navigations. -/
def verdicts (ds : List Decision) : List Verdict :=
  ds.filterMap fun
    | request _ _ => none
    | navigation _ verdict => some verdict

@[simp] theorem answers_append : answers (ds ++ es) = answers ds ++ answers es :=
  List.filterMap_append

@[simp] theorem reasons_append : reasons (ds ++ es) = reasons ds ++ reasons es := by
  rw [reasons, answers_append, List.filterMap_append, ← reasons, ← reasons]

@[simp] theorem verdicts_append : verdicts (ds ++ es) = verdicts ds ++ verdicts es :=
  List.filterMap_append

theorem reasons_request (reason : Option Reason) :
    reasons [request url reason] = reason.toList := by
  cases reason <;> rfl

end Decision

/-- Every kind is one of all. -/
theorem Reason.Kind.sum_count_all (ks : List Kind) : (all.map ks.count).sum = ks.length := by
  induction ks with
  | nil => rfl
  | cons k ks ih =>
    rw [List.length_cons, ← ih]
    cases k <;> simp [all, List.count_cons] <;> omega

/-! ## The counters -/

open Decision

namespace Counters

/-- What is true of counters after some decisions and passes. -/
structure Tally (ds : List Decision) (passes : Nat) (c : Counters) : Prop where
  checked_eq : c.checked = (answers ds).length
  blocked_eq : c.blocked = (reasons ds).length
  ofKind_eq : ∀ k, c.ofKind k = ((reasons ds).map Reason.kind).count k
  suppressed_eq : c.suppressed = ((verdicts ds).map Verdict.isSuppressed).count true
  redirected_eq : c.redirected = ((verdicts ds).map Verdict.isSuppressed).count false
  passes_eq : c.passes = passes

variable {ds : List Decision} {passes : Nat} {c : Counters}

/-- Counts the answer to a request. -/
def countAnswer (c : Counters) : Option Reason → Counters
  | some r => c.countChecked.countBlocked r.kind
  | none => c.countChecked

namespace Tally

theorem nil : Tally [] 0 {} := ⟨rfl, rfl, fun _ => rfl, rfl, rfl, rfl⟩

theorem request (h : c.Tally ds passes) (url : List Char) (reason : Option Reason) :
    (c.countAnswer reason).Tally (ds ++ [.request url reason]) passes := by
  have hverdicts : verdicts (ds ++ [.request url reason]) = verdicts ds := by
    rw [verdicts_append]
    exact List.append_nil _
  have hchecked : (answers (ds ++ [.request url reason])).length = c.checked + 1 := by
    rw [answers_append, List.length_append, ← h.checked_eq]
    rfl
  have hsuppressed := h.suppressed_eq
  have hredirected := h.redirected_eq
  rw [← hverdicts] at hsuppressed hredirected
  cases reason with
  | none =>
    have hreasons : reasons (ds ++ [.request url none]) = reasons ds := by
      rw [reasons_append, reasons_request, Option.toList_none, List.append_nil]
    refine ⟨hchecked.symm, ?_, fun k => ?_, hsuppressed, hredirected, h.passes_eq⟩
    · rw [hreasons]
      exact h.blocked_eq
    · rw [hreasons]
      exact h.ofKind_eq k
  | some r =>
    have hreasons : reasons (ds ++ [.request url (some r)]) = reasons ds ++ [r] := by
      rw [reasons_append, reasons_request, Option.toList_some]
    refine ⟨hchecked.symm, ?_, fun k => ?_, hsuppressed, hredirected, h.passes_eq⟩
    · rw [hreasons, List.length_append, ← h.blocked_eq]
      rfl
    · rw [hreasons, List.map_append, List.count_append, ← h.ofKind_eq, List.map_singleton,
        List.count_singleton]
      by_cases hk : k = r.kind
      · rw [hk, if_pos (beq_self_eq_true _)]
        exact if_pos rfl
      · rw [if_neg fun h => hk (eq_of_beq h).symm]
        exact if_neg hk

theorem navigation (h : c.Tally ds passes) (url : List Char) (verdict : Verdict) :
    (c.countNavigation verdict.isSuppressed).Tally (ds ++ [.navigation url verdict]) passes := by
  have hanswers : answers (ds ++ [.navigation url verdict]) = answers ds := by
    rw [answers_append]
    exact List.append_nil _
  have hverdicts (b : Bool) :
      ((verdicts (ds ++ [.navigation url verdict])).map Verdict.isSuppressed).count b =
        ((verdicts ds).map Verdict.isSuppressed).count b +
          if verdict.isSuppressed = b then 1 else 0 := by
    rw [verdicts_append, List.map_append, List.count_append]
    have hone : (verdicts [.navigation url verdict]).map Verdict.isSuppressed =
        [verdict.isSuppressed] := rfl
    rw [hone, List.count_singleton]
    simp only [beq_iff_eq]
  have hchecked : c.checked = (answers (ds ++ [.navigation url verdict])).length := by
    rw [hanswers]
    exact h.checked_eq
  have hblocked : c.blocked = (reasons (ds ++ [.navigation url verdict])).length := by
    rw [reasons, hanswers]
    exact h.blocked_eq
  have hkind (k : Reason.Kind) :
      c.ofKind k = ((reasons (ds ++ [.navigation url verdict])).map Reason.kind).count k := by
    rw [reasons, hanswers]
    exact h.ofKind_eq k
  rw [countNavigation]
  split
  · rename_i hsuppressed
    refine ⟨hchecked, hblocked, hkind, ?_, ?_, h.passes_eq⟩
    · rw [hverdicts, if_pos hsuppressed, ← h.suppressed_eq]
    · rw [hverdicts, if_neg (by rw [hsuppressed]; decide)]
      exact h.redirected_eq
  · rename_i hredirected
    refine ⟨hchecked, hblocked, hkind, ?_, ?_, h.passes_eq⟩
    · rw [hverdicts, if_neg hredirected]
      exact h.suppressed_eq
    · rw [hverdicts, if_pos (Bool.not_eq_true _ ▸ hredirected), ← h.redirected_eq]

theorem pass (h : c.Tally ds passes) : c.countPass.Tally ds (passes + 1) :=
  { h with passes_eq := congrArg (· + 1) h.passes_eq }

/-- Every reason is of one of the kinds. -/
theorem sum_byKind (h : c.Tally ds passes) : (c.byKind.map Prod.snd).sum = c.blocked := by
  have hkinds : c.byKind.map Prod.snd =
      Reason.Kind.all.map ((reasons ds).map Reason.kind).count := by
    rw [byKind, List.map_map]
    exact List.map_congr_left fun k _ => h.ofKind_eq k
  rw [hkinds, Reason.Kind.sum_count_all, List.length_map, h.blocked_eq]

end Tally

end Counters

/-! ## Decisions and passes of a run -/

/-- A pass that is over, or nothing. -/
def Pass.completed (p : Pass) : List Pass := if p.isDone then [p] else []

namespace System

/-- The answer that an operation gives. -/
def decided (s : System) : Operation → List Decision
  | .check url => [.request url (s.check url).1]
  | .navigate url => [.navigation url (s.navigate url).1]
  | _ => []

/-- The answers that operations give, one after the other. -/
def decisions (s : System) : List Operation → List Decision
  | [] => []
  | op :: ops => s.decided op ++ (s.perform op).decisions ops

/-- The pass that the scheduler completes when it does what is due, if it completes one. -/
def schedulerCompletions (s : System) (sch : Scheduler) : List Pass :=
  match sch.phase with
  | .failed => []
  | .busy p => (p.step s.engine.fetcher s.clock.moment s.stock).1.completed
  | .idle =>
    if sch.next ≤ s.clock.timer then (Pass.start s.engine.fetcher).completed
    else if sch.queued && !(sch.takeRequest s.clock.timer).hasFailed then
      (Pass.start s.engine.fetcher).completed
    else []

/-- The pass that is completed by what is done at the time when it is due. -/
def stepCompletions (s : System) (time : Nat) (e : Event) : List Pass :=
  let s := { s with clock := { s.clock with timer := time } }
  match e with
  | .pass p => (p.step s.engine.fetcher s.clock.moment s.stock).1.completed
  | .scheduler sch => s.schedulerCompletions sch
  | .reporter _ => []

/-- The passes that are completed in the course of a refresh. -/
def refreshCompletions (s : System) : List Pass :=
  if (Pass.start s.deliver.engine.fetcher).isDone then [Pass.start s.deliver.engine.fetcher]
  else gather stepCompletions dueInPass? s.passFuel s.beginPass

/-- The passes that are completed in the course of an operation. -/
def completed (s : System) : Operation → List Pass
  | .hydrate => s.load.refreshCompletions
  | .refresh => s.refreshCompletions
  | .advance duration =>
    gather stepCompletions (dueBy? (s.clock.timer + duration)) (s.stepsWithin
      (s.clock.timer + duration - s.clock.timer)) s.deliver
  | .stopScheduler => gather stepCompletions dueWhileBusy? s.passFuel s.deliver
  | _ => []

/-- The passes that are completed in the course of operations, one after the other. -/
def completions (s : System) : List Operation → List Pass
  | [] => []
  | op :: ops => s.completed op ++ (s.perform op).completions ops

/-! ## The books -/

/-- What is true after some decisions and passes, if the log was another one before. -/
structure Booked (logger : Option Logger) (ds : List Decision) (ps : List Pass) (s : System) :
    Prop where
  counted : s.engine.counters.Tally ds ps.length
  noted : Option.Rel (fun l l' => l.HasNoted (ds.map Decision.entry) s.delivered l') logger
    s.engine.logger

namespace Booked

variable {logger : Option Logger} {ds : List Decision} {ps : List Pass} {s t : System}

/-- Something happens that is not in the books. -/
theorem of_eq (h : s.Booked logger ds ps) (hcounters : t.engine.counters = s.engine.counters)
    (hlogger : t.engine.logger = s.engine.logger) (hdelivered : t.delivered = s.delivered) :
    t.Booked logger ds ps where
  counted := by
    rw [hcounters]
    exact h.counted
  noted := by
    rw [hlogger, hdelivered]
    exact h.noted

/-- A pass goes on, and is counted if it is over then. -/
theorem pass (h : s.Booked logger ds ps) (p : Pass)
    (hcounters : t.engine.counters =
      if p.isDone then s.engine.counters.countPass else s.engine.counters)
    (hlogger : t.engine.logger = s.engine.logger) (hdelivered : t.delivered = s.delivered) :
    t.Booked logger ds (ps ++ p.completed) := by
  rw [Pass.completed]
  split at hcounters
  · rename_i hdone
    rw [if_pos hdone]
    refine ⟨?_, ?_⟩
    · rw [hcounters, List.length_append]
      exact h.counted.pass
    · rw [hlogger, hdelivered]
      exact h.noted
  · rename_i hgoes
    rw [if_neg hgoes, List.append_nil]
    exact h.of_eq hcounters hlogger hdelivered

/-- A request or a navigation is judged. -/
theorem judge (h : s.Booked logger ds ps) (d : Decision)
    (hcounted : t.engine.counters.Tally (ds ++ [d]) ps.length)
    (hlogger : t.engine.logger = s.engine.logger.map (·.log d.entry))
    (hdelivered : t.delivered = s.delivered) : t.Booked logger (ds ++ [d]) ps := by
  refine ⟨hcounted, ?_⟩
  have hnoted := h.noted
  rw [hlogger, hdelivered, List.map_append]
  generalize s.engine.logger = l at hnoted
  cases hnoted with
  | none => exact .none
  | some hl => exact .some (hl.log d.entry)

/-! ### What happens -/

theorem deliver (h : s.Booked logger ds ps) : s.deliver.Booked logger ds ps := by
  have hnoted := h.noted
  rw [System.deliver]
  rcases hlogger : s.engine.logger with _ | l
  · exact h
  · rw [hlogger] at hnoted
    refine ⟨h.counted, ?_⟩
    cases hnoted with
    | some hl => exact .some hl.deliver

theorem check (h : s.Booked logger ds ps) (url : List Char) :
    (s.check url).2.Booked logger (ds ++ [.request url (s.check url).1]) ps := by
  refine h.judge _ ?_ ?_ rfl
  · have hcounters : (s.check url).2.engine.counters =
        s.engine.counters.countAnswer (s.check url).1 := by
      rw [System.check, Engine.check]
      dsimp only
      rcases s.engine.decide? s.clock.now url with _ | r <;> rfl
    rw [hcounters]
    exact h.counted.request url _
  · rw [System.check, Engine.check]
    dsimp only
    rcases s.engine.decide? s.clock.now url with _ | r <;> rfl

theorem navigate (h : s.Booked logger ds ps) (url : List Char) :
    (s.navigate url).2.Booked logger (ds ++ [.navigation url (s.navigate url).1]) ps := by
  refine h.judge _ (h.counted.navigation url _) ?_ rfl
  rw [System.navigate, Engine.navigate]
  dsimp only
  rcases s.engine.verdict url with w | _ <;> rfl

theorem goOn (h : s.Booked logger ds ps) (sch : Scheduler) (p : Pass) :
    (s.goOn sch p).Booked logger ds (ps ++ p.completed) := by
  rw [System.goOn]
  refine h.pass p ?_ ?_ ?_ <;> split <;> rfl

theorem stepPass (h : s.Booked logger ds ps) (p : Pass) :
    (s.stepPass p).Booked logger ds
      (ps ++ (p.step s.engine.fetcher s.clock.moment s.stock).1.completed) := by
  rw [System.stepPass]
  refine h.pass _ ?_ ?_ ?_ <;> dsimp only <;> split <;> rfl

theorem startScheduled (h : s.Booked logger ds ps) (sch : Scheduler) :
    (s.startScheduled sch).Booked logger ds (ps ++ (Pass.start s.engine.fetcher).completed) := by
  rw [startScheduled_eq]
  exact h.goOn sch _

theorem stepScheduler (h : s.Booked logger ds ps) (sch : Scheduler) :
    (s.stepScheduler sch).Booked logger ds (ps ++ s.schedulerCompletions sch) := by
  rw [schedulerCompletions]
  cases hphase : sch.phase with
  | failed =>
    rw [System.stepScheduler, hphase, List.append_nil]
    exact h
  | busy p =>
    have hstock : (s.withStock (p.step s.engine.fetcher s.clock.moment s.stock).2).Booked
        logger ds ps := h.of_eq rfl rfl rfl
    rw [stepScheduler_eq_goOn hphase]
    exact hstock.goOn sch _
  | idle =>
    rw [System.stepScheduler, hphase]
    dsimp only
    split
    · exact h.startScheduled sch.takeTick
    · cases sch.queued with
      | false =>
        rw [Bool.false_and, if_neg Bool.false_ne_true, if_neg Bool.false_ne_true, List.append_nil]
        exact h
      | true =>
        rw [Bool.true_and, if_pos rfl]
        cases (sch.takeRequest s.clock.timer).hasFailed with
        | false =>
          rw [Bool.not_false, if_pos rfl, if_neg Bool.false_ne_true]
          exact h.startScheduled _
        | true =>
          rw [Bool.not_true, if_neg Bool.false_ne_true, if_pos rfl, List.append_nil]
          exact h.of_eq rfl rfl rfl

theorem step (h : s.Booked logger ds ps) (time : Nat) (e : Event) :
    (s.step time e).Booked logger ds (ps ++ s.stepCompletions time e) := by
  have hclock : Booked logger ds ps { s with clock := { s.clock with timer := time } } :=
    h.of_eq rfl rfl rfl
  cases e with
  | pass p => exact hclock.stepPass p
  | scheduler sch => exact hclock.stepScheduler sch
  | reporter r =>
    rw [stepCompletions, List.append_nil]
    refine ⟨h.counted, ?_⟩
    have hnoted := h.noted
    have hreport : (Reporter.event s.engine.counters).isDecision = false :=
      decide_eq_false (show Reporter.target ≠ "decision".toList by decide)
    change Option.Rel _ logger s.engine.logger
    generalize s.engine.logger = l at hnoted ⊢
    cases hnoted with
    | none => exact .none
    | some hl => exact .some (hl.reported hreport)

theorem follow {next? : System → Option (Nat × Event)} (hnext : ChoosesFirst next?) (fuel : Nat)
    (h : s.Booked logger ds ps) :
    (s.follow next? fuel).Booked logger ds (ps ++ gather stepCompletions next? fuel s) :=
  follow_gather_induction (P := fun ps s => s.Booked logger ds ps) hnext
    (fun _ _ hs e _ => hs.step e.1 e.2) fuel h

theorem load (h : s.Booked logger ds ps) : s.load.Booked logger ds ps := by
  -- the batch of built-in rules need not be computed
  rw [System.load, Engine.hydrateRules]
  exact h.deliver.of_eq rfl rfl rfl

theorem refresh (h : s.Booked logger ds ps) :
    s.refresh.Booked logger ds (ps ++ s.refreshCompletions) := by
  rw [refresh_eq, refreshCompletions]
  split
  · rename_i hdone
    have hpass := h.deliver.pass (t := s.deliver.finishPass (Pass.start s.deliver.engine.fetcher))
      (Pass.start s.deliver.engine.fetcher) (if_pos hdone).symm rfl rfl
    rw [Pass.completed, if_pos hdone] at hpass
    exact hpass
  · have hbegin : s.beginPass.Booked logger ds ps := h.deliver.of_eq rfl rfl rfl
    exact hbegin.follow choosesFirst_dueInPass? _

theorem perform (h : s.Booked logger ds ps) (op : Operation) :
    (s.perform op).Booked logger (ds ++ s.decided op) (ps ++ s.completed op) := by
  have hanswer {u : System} {es : List Decision} (hu : u.Booked logger (ds ++ es) ps) :
      u.Booked logger (ds ++ es) (ps ++ []) := by rwa [List.append_nil]
  have hpasses {u : System} {qs : List Pass} (hu : u.Booked logger ds (ps ++ qs)) :
      u.Booked logger (ds ++ []) (ps ++ qs) := by rwa [List.append_nil]
  have hsame {u : System} (hu : u.Booked logger ds ps) :
      u.Booked logger (ds ++ []) (ps ++ []) := by rwa [List.append_nil, List.append_nil]
  cases op with
  | check url => exact hanswer (h.check url)
  | navigate url => exact hanswer (h.navigate url)
  | hydrate => exact hpasses h.load.refresh
  | refresh => exact hpasses h.refresh
  | advance duration =>
    rw [System.perform, runUntil, runEvents_eq_follow]
    have hloop := h.deliver.follow (choosesFirst_dueBy? (s.clock.timer + duration))
      (s.stepsWithin (s.clock.timer + duration - s.clock.timer))
    exact hpasses (hloop.of_eq rfl rfl rfl)
  | stopScheduler =>
    rw [System.perform, System.stopScheduler, runToIdle_eq_follow]
    have hloop := h.deliver.follow choosesFirst_dueWhileBusy? s.passFuel
    exact hpasses (hloop.of_eq rfl rfl rfl)
  | pauseFor duration =>
    rw [System.perform, pauseFor]
    rcases s.engine.toggle.pauseFor s.clock.now duration with e | toggle
    · exact hsame h
    · exact hsame (h.of_eq rfl rfl rfl)
  | trigger =>
    rw [System.perform, trigger]
    rcases s.scheduler with _ | sch
    · exact hsame h
    · exact hsame (h.of_eq rfl rfl rfl)
  | startScheduler period => exact hsame (h.deliver.of_eq rfl rfl rfl)
  | change c => exact hsame (h.of_eq rfl rfl rfl)
  | setEnabled on => exact hsame (h.of_eq rfl rfl rfl)
  | resume => exact hsame (h.of_eq rfl rfl rfl)
  | surround files web => exact hsame (h.of_eq rfl rfl rfl)

theorem performAll (h : s.Booked logger ds ps) (ops : List Operation) :
    (s.performAll ops).Booked logger (ds ++ s.decisions ops) (ps ++ s.completions ops) := by
  induction ops generalizing s ds ps with
  | nil =>
    rw [decisions, completions, List.append_nil, List.append_nil]
    exact h
  | cons op ops ih =>
    rw [decisions, completions, ← List.append_assoc, ← List.append_assoc]
    exact ih (h.perform op)

end Booked

variable {logger : Option Logger}

theorem booked_build (settings : Settings) (files : Files) (web : Web) (clock : Clock)
    (logger : Option Logger) (reporter : Option Reporter) :
    (build settings files web clock logger reporter).Booked logger [] [] := by
  refine ⟨Counters.Tally.nil, ?_⟩
  change Option.Rel _ logger logger
  cases logger with
  | none => exact .none
  | some l => exact .some (.refl l)

/-- Whatever operations follow one another after an engine was built, its counters are those of the
answers that it gave and of the passes that were completed. The entries that its log was given are
those of the answers, in their order, of which the log wants them; and the sinks have shown and kept
what they took from it. -/
theorem bookkeeping_spec (settings : Settings) (files : Files) (web : Web) (clock : Clock)
    (logger : Option Logger) (reporter : Option Reporter) (ops : List Operation) :
    let built := build settings files web clock logger reporter
    let ds := built.decisions ops
    let s := built.performAll ops
    let c := s.engine.counters
    c.checked = (answers ds).length ∧ c.blocked = (reasons ds).length ∧
      c.blocked = (c.byKind.map Prod.snd).sum ∧
      (∀ k, c.ofKind k = ((reasons ds).map Reason.kind).count k) ∧
      c.suppressed = ((verdicts ds).map Verdict.isSuppressed).count true ∧
      c.redirected = ((verdicts ds).map Verdict.isSuppressed).count false ∧
      c.passes = (built.completions ops).length ∧
      Option.Rel (fun l l' => ∃ log, Fanout.Run ⟨l, none⟩ log ⟨l', none⟩ ∧
        log.wanted l = (ds.map Decision.entry).filter (l.wants ·.action) ∧
        s.delivered.shown.filter LogEvent.isDecision = log.given SinkKind.shown l.kinds ∧
        s.delivered.kept = log.given SinkKind.kept l.kinds) logger s.engine.logger := by
  intro built ds s c
  obtain ⟨hcounted, hnoted⟩ :=
    (booked_build settings files web clock logger reporter).performAll ops
  refine ⟨hcounted.checked_eq, hcounted.blocked_eq, hcounted.sum_byKind.symm, hcounted.ofKind_eq,
    hcounted.suppressed_eq, hcounted.redirected_eq, hcounted.passes_eq, ?_⟩
  generalize s.engine.logger = l at hnoted ⊢
  cases hnoted with
  | none => exact .none
  | some hl =>
    obtain ⟨log, hrun, hcalls, -, hshown, hkept⟩ := hl
    exact .some ⟨log, hrun, congrArg (List.filter _) hcalls, hshown, hkept⟩

end System

end AdFilter
