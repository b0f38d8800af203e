import AdFilter.Proofs.Engine.Pace
import AdFilter.Proofs.Engine.Persistence

/-!
# The switch and the pause after any run

The switch is where it was put last. The pause is the last one that could be made, unless it was
ended by hand since; how long the one before it would have lasted does not count.
`System.pauseChanges` collects what operations make of the pause, and when, and `System.pause_spec`
reads off it at every time whether blocking is active and how long the pause still lasts.
-/

namespace AdFilter

/-- A pause as it was asked for. -/
structure Pause where
  /-- when it was asked for -/
  start : Nat
  duration : Nat
deriving Repr, DecidableEq

/-- When a pause is over. -/
def Pause.stop (p : Pause) : Nat := p.start + p.duration

/-- Where an operation puts the switch. -/
def Operation.setting? : Operation → Option Bool
  | .setEnabled on => some on
  | _ => none

/-- Where operations leave the switch. -/
def Operation.lastSetting (on : Bool) (ops : List Operation) : Bool :=
  (ops.filterMap setting?).getLast?.getD on

namespace System

/-- What an operation makes of the pause: one begins, or the one there is ends. A pause is not made
if the clock cannot tell its end. -/
def pauseChange? (s : System) : Operation → Option (Option Pause)
  | .pauseFor duration =>
    if s.clock.now + duration < Toggle.endOfTime then some (some ⟨s.clock.now, duration⟩) else none
  | .resume => some none
  | _ => none

/-- What operations make of the pause, one after the other. -/
def pauseChanges (s : System) : List Operation → List (Option Pause)
  | [] => []
  | op :: ops => (s.pauseChange? op).toList ++ (s.perform op).pauseChanges ops

/-- The last pause that was made, unless it was ended by hand since. -/
def lastPause? (s : System) (ops : List Operation) : Option Pause :=
  (s.pauseChanges ops).getLast?.join

variable {s : System} {stop : Nat}

/-! ## The switch and the pause -/

theorem toggle_perform (s : System) (op : Operation) : (s.perform op).engine.toggle =
    { enabled := op.setting?.getD s.engine.toggle.enabled
      pausedUntil :=
        (s.pauseChange? op).elim s.engine.toggle.pausedUntil (Option.map Pause.stop) } := by
  cases op with
  | setEnabled on => rfl
  | resume => rfl
  | pauseFor duration =>
    rw [perform, pauseFor, Toggle.pauseFor, pauseChange?]
    by_cases hend : s.clock.now + duration < Toggle.endOfTime
    · rw [if_pos hend, if_pos hend]
      rfl
    · rw [if_neg hend, if_neg hend]
      rfl
  | hydrate => exact (Continues.hydrate s).toggle_eq
  | refresh => exact (Continues.refresh s).toggle_eq
  | advance duration => exact (Continues.runUntil s _).toggle_eq
  | startScheduler period => exact (Continues.deliver s).toggle_eq
  | trigger => exact (Continues.trigger s).toggle_eq
  | stopScheduler => exact (Continues.stopScheduler s).toggle_eq
  | change c => rfl
  | check url => rfl
  | navigate url => rfl
  | surround files web => rfl

theorem getLast?_toList_append {α : Type} (o : Option α) (xs : List α) :
    (o.toList ++ xs).getLast? = xs.getLast?.or o := by
  rw [List.getLast?_append]
  rcases o with _ | x <;> rfl

/-- The last setting and the last change of the pause count. -/
theorem toggle_performAll (s : System) (ops : List Operation) : (s.performAll ops).engine.toggle =
    { enabled := Operation.lastSetting s.engine.toggle.enabled ops
      pausedUntil := (s.pauseChanges ops).getLast?.elim s.engine.toggle.pausedUntil
        (Option.map Pause.stop) } := by
  induction ops generalizing s with
  | nil => rfl
  | cons op ops ih =>
    have hsettings : (op :: ops).filterMap Operation.setting? =
        op.setting?.toList ++ ops.filterMap Operation.setting? := by
      rw [List.filterMap_cons]
      rcases op.setting? with _ | on <;> rfl
    rw [performAll_cons, ih, toggle_perform, Operation.lastSetting, Operation.lastSetting,
      hsettings, pauseChanges, getLast?_toList_append, getLast?_toList_append]
    dsimp only
    congr 1
    · rcases (ops.filterMap Operation.setting?).getLast? with _ | on <;> rfl
    · rcases ((s.perform op).pauseChanges ops).getLast? with _ | change <;> rfl

/-! ## Time -/

theorem clock_follow_dueBy? (fuel : Nat) (h : s.clock.timer ≤ stop) :
    ∃ time ≤ stop, (follow (dueBy? stop) fuel s).clock = { s.clock with timer := time } := by
  induction fuel generalizing s with
  | zero => exact ⟨_, h, rfl⟩
  | succ fuel ih =>
    rw [follow]
    rcases hdue : dueBy? stop s with _ | ⟨time, e⟩
    · exact ⟨_, h, rfl⟩
    · have hle : time ≤ stop := of_decide_eq_true (Option.filter_eq_some_iff.mp hdue).2
      have hclock := step_clock s time e
      obtain ⟨later, hlater, hthen⟩ := ih (s := s.step time e) (by rw [hclock]; exact hle)
      exact ⟨later, hlater, by rw [hthen, hclock]⟩

/-- While time goes by, the clock goes on for as long. -/
theorem clock_advance (s : System) (duration : Nat) :
    (s.perform (.advance duration)).clock =
      { s.clock with timer := s.clock.timer + duration } := by
  obtain ⟨-, -, hclock, -⟩ := deliver_frame s
  have hstop : s.deliver.clock.timer ≤ s.clock.timer + duration := by
    rw [hclock]
    exact Nat.le_add_right _ _
  obtain ⟨time, htime, hloop⟩ := clock_follow_dueBy?
    (s.stepsWithin (s.clock.timer + duration - s.clock.timer)) hstop
  rw [perform, runUntil, runEvents_eq_follow]
  dsimp only
  rw [hloop, hclock]
  dsimp only
  rw [Nat.max_eq_right htime]

/-! ## After any run -/

/-- After any run of an engine that was just built, the last setting and the last pause are those of
the operations. -/
theorem toggle_performAll_build (settings : Settings) (files : Files) (web : Web) (clock : Clock)
    (logger : Option Logger) (reporter : Option Reporter) (ops : List Operation) :
    let built := build settings files web clock logger reporter
    (built.performAll ops).engine.toggle =
      { enabled := Operation.lastSetting settings.enabled ops
        pausedUntil := (built.lastPause? ops).map Pause.stop } := by
  intro built
  rw [toggle_performAll, lastPause?]
  rcases (built.pauseChanges ops).getLast? with _ | _ | p <;> rfl

/-- As long as no pause is made and blocking is not turned off, it stays active. -/
theorem isActive_performAll_of_active {now later : Nat} {ops : List Operation}
    (h : s.engine.toggle.isActive now = true) (hle : now ≤ later)
    (hpause : ∀ change ∈ s.pauseChanges ops, change = none) (hon : .setEnabled false ∉ ops) :
    (s.performAll ops).engine.toggle.isActive later = true := by
  rw [Toggle.isActive_iff] at h ⊢
  rw [toggle_performAll]
  dsimp only
  constructor
  · rw [Operation.lastSetting]
    rcases hlast : (ops.filterMap Operation.setting?).getLast? with _ | on
    · exact h.1
    · obtain ⟨op, hop, hsetting⟩ := List.mem_filterMap.mp (List.mem_of_getLast? hlast)
      cases op <;> cases hsetting
      cases on
      · exact absurd hop hon
      · rfl
  · intro stop hstop
    rcases hlast : (s.pauseChanges ops).getLast? with _ | change
    · rw [hlast] at hstop
      exact Nat.le_trans (h.2 stop hstop) hle
    · rw [hlast, hpause change (List.mem_of_getLast? hlast)] at hstop
      cases hstop

/-- Whatever operations follow one another after an engine was built, blocking is active at some
time just if the switch was put there last, or was there from the beginning, and the last pause, if
it was not ended by hand, is over; requests are blocked by the rules just then; and otherwise it can
be told how long the pause still lasts. A pause takes the place of the one there is, even if it is
the shorter one. When blocking is active it stays so until it is turned off or another pause is
made. A pause whose end the clock cannot tell is refused, and everything goes on as if it had not
been asked for. -/
theorem pause_spec (settings : Settings) (files : Files) (web : Web) (clock : Clock)
    (logger : Option Logger) (reporter : Option Reporter) (ops : List Operation) :
    let built := build settings files web clock logger reporter
    let s := built.performAll ops
    let toggle := s.engine.toggle
    let on := Operation.lastSetting settings.enabled ops
    let pause? := built.lastPause? ops
    (∀ now, toggle.isActive now = true ↔ on = true ∧ ∀ p, pause? = some p → p.stop ≤ now) ∧
    (∀ now rest, toggle.remaining? now = some rest ↔
      ∃ p, pause? = some p ∧ now < p.stop ∧ rest = p.stop - now) ∧
    (∀ url r, (s.check url).1 = some r ↔
      (on = true ∧ ∀ p, pause? = some p → p.stop ≤ s.clock.now) ∧ s.engine.reason? url = some r) ∧
    (∀ duration, s.clock.now + duration < Toggle.endOfTime → ∀ now,
      (s.perform (.pauseFor duration)).engine.toggle.remaining? now =
        if now < s.clock.now + duration then some (s.clock.now + duration - now) else none) ∧
    (∀ now later more, toggle.isActive now = true → now ≤ later →
      (∀ change ∈ s.pauseChanges more, change = none) → .setEnabled false ∉ more →
        (s.performAll more).engine.toggle.isActive later = true) ∧
    (∀ duration, Toggle.endOfTime ≤ s.clock.now + duration →
      toggle.pauseFor s.clock.now duration = .error .endsTooLate ∧ ∀ more,
        built.performAll (ops ++ .pauseFor duration :: more) = built.performAll (ops ++ more)) ∧
    ∀ duration, (s.perform (.advance duration)).clock =
      { s.clock with timer := s.clock.timer + duration } := by
  intro built s toggle on pause?
  have htoggle : toggle = { enabled := on, pausedUntil := pause?.map Pause.stop } :=
    toggle_performAll_build settings files web clock logger reporter ops
  have hactive : ∀ now, toggle.isActive now = true ↔
      on = true ∧ ∀ p, pause? = some p → p.stop ≤ now := by
    intro now
    rw [Toggle.isActive_iff, htoggle]
    simp only [Option.map_eq_some_iff, forall_exists_index, and_imp, forall_apply_eq_imp_iff₂]
  refine ⟨hactive, fun now rest => ?_, fun url r => ?_, fun duration hend now => ?_,
    fun now later more h hle => isActive_performAll_of_active h hle, fun duration hlate => ?_,
    clock_advance s⟩
  · rw [Toggle.remaining?, htoggle]
    rcases pause? with _ | p
    · simp
    · simp [eq_comm]
  · rw [← hactive]
    exact Option.ite_none_right_eq_some
  · rw [toggle_perform, pauseChange?, if_pos hend]
    rfl
  · have hrefused : toggle.pauseFor s.clock.now duration = .error .endsTooLate := by
      rw [Toggle.pauseFor, if_neg (Nat.not_lt_of_le hlate)]
    refine ⟨hrefused, fun more => ?_⟩
    have hsame : s.perform (.pauseFor duration) = s := by
      rw [perform, pauseFor]
      exact hrefused ▸ rfl
    rw [performAll, List.foldl_append, List.foldl_cons, performAll, List.foldl_append]
    exact congrArg (fun t => t.performAll more) hsame

/-- A pause of one second takes the place of one of a minute. -/
example :
    let start := build {} {} { otherwise := .status 404 } { wall := fun t => t, steady := id }
    let s := start.performAll [.pauseFor 60000, .pauseFor 1000]
    s.engine.toggle.remaining? 400 = some 600 ∧ s.engine.toggle.isActive 1000 = true := by
  decide

end System

end AdFilter
