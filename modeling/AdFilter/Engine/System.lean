import AdFilter.Engine.Basic
import AdFilter.Engine.Scheduler

/-!
# The engine in its surroundings

The engine, the files and the network around it, and all that goes on by the clock: the scheduler,
a refresh pass that was asked for directly, and the regular summary of the counters. What is due
first is done first; `runUntil` follows the clock to a given time, and `runToPassEnd` to the end of
a pass.
-/

namespace AdFilter

/-- The time. Waits are measured with a timer; files are dated, and pauses measured, with clocks
that may go on while the timer stands. -/
structure Clock where
  timer : Nat := 0
  /-- what files are dated with, by the timer -/
  wall : Nat → Int
  /-- what pauses are measured with, by the timer -/
  steady : Nat → Nat

namespace Clock

/-- The date. -/
def date (c : Clock) : Int := c.wall c.timer

/-- The moment, for pauses. -/
def now (c : Clock) : Nat := c.steady c.timer

def moment (c : Clock) : Moment := ⟨c.timer, c.date⟩

end Clock

/-- The regular summary of the counters. -/
structure Reporter where
  interval : Nat
  next : Nat
deriving Repr, DecidableEq

namespace Reporter

/-- The shortest interval. -/
def shortest : Nat := 1000

/-- A summary in regular intervals, the first after one interval. -/
def start (interval now : Nat) : Reporter := ⟨max interval shortest, now + max interval shortest⟩

/-- What the summaries are shown under. -/
def target : List Char := "ad_sentry::stats".toList

/-- The summary of the counters, as an event. -/
def event (c : Counters) : LogEvent := .message target c.summary

end Reporter

/-- The engine and what is around it. -/
structure System where
  engine : Engine
  files : Files
  web : Web
  clock : Clock
  scheduler : Option Scheduler := none
  /-- the pass that was asked for directly -/
  pass : Option Pass := none
  reporter : Option Reporter := none
  /-- what the sinks of the log have done -/
  delivered : Delivery := {}

namespace System

/-- What a pass works on. -/
def stock (s : System) : Stock := ⟨s.files, s.web, s.engine.rules⟩

def withStock (s : System) (st : Stock) : System :=
  { s with files := st.files, web := st.web, engine := { s.engine with rules := st.rules } }

/-- Takes over what a pass has found out. -/
def finishPass (s : System) (p : Pass) : System := { s with engine := s.engine.finishPass p }

/-- Lets the sinks of the log take what waits for them. -/
def deliver (s : System) : System :=
  match s.engine.logger with
  | none => s
  | some l =>
    let (l, d) := l.deliver
    { s with
      engine := { s.engine with logger := some l }
      delivered := ⟨s.delivered.shown ++ d.shown, s.delivered.kept ++ d.kept⟩ }

/-! ## Steps -/

/-- Goes on with the pass that was asked for directly. -/
def stepPass (s : System) (p : Pass) : System :=
  let (p, st) := p.step s.engine.fetcher s.clock.moment s.stock
  let s := s.withStock st
  if p.isDone then { s.finishPass p with pass := none } else { s with pass := some p }

/-- Begins a pass of the scheduler. -/
def startScheduled (s : System) (sch : Scheduler) : System :=
  let p := Pass.start s.engine.fetcher
  if p.isDone then { s.finishPass p with scheduler := some { sch with phase := .idle } }
  else { s with scheduler := some { sch with phase := .busy p } }

/-- Lets the scheduler do what is due. A tick comes before a request. -/
def stepScheduler (s : System) (sch : Scheduler) : System :=
  match sch.phase with
  | .failed => s
  | .busy p =>
    let (p, st) := p.step s.engine.fetcher s.clock.moment s.stock
    let s := s.withStock st
    if p.isDone then { s.finishPass p with scheduler := some { sch with phase := .idle } }
    else { s with scheduler := some { sch with phase := .busy p } }
  | .idle =>
    if sch.next ≤ s.clock.timer then s.startScheduled sch.takeTick
    else if sch.queued then
      let sch := sch.takeRequest s.clock.timer
      if sch.hasFailed then { s with scheduler := some sch } else s.startScheduled sch
    else s

/-- Shows the summary that is due. -/
def stepReporter (s : System) (r : Reporter) : System :=
  { s with
    reporter := some { r with next := r.next + r.interval }
    delivered :=
      { s.delivered with shown := s.delivered.shown ++ [Reporter.event s.engine.counters] } }

/-- What is due next, and when. -/
inductive Event where
  | pass (p : Pass)
  | scheduler (sch : Scheduler)
  | reporter (r : Reporter)

/-- All that will be due. -/
def events (s : System) : List (Nat × Event) :=
  let now := s.clock.timer
  (s.pass.bind fun p => (p.due? s.engine.fetcher now).map (·, .pass p)).toList ++
    (s.scheduler.bind fun c => (c.due? s.engine.fetcher now).map (·, .scheduler c)).toList ++
    (s.reporter.map fun r => (max now r.next, .reporter r)).toList

/-- What is due first. -/
def earliest? : List (Nat × Event) → Option (Nat × Event)
  | [] => none
  | e :: es => match earliest? es with
    | none => some e
    | some f => if e.1 ≤ f.1 then some e else some f

/-- Does something at the time when it is due. -/
def step (s : System) (time : Nat) (e : Event) : System :=
  let s := { s with clock := { s.clock with timer := time } }
  match e with
  | .pass p => s.stepPass p
  | .scheduler sch => s.stepScheduler sch
  | .reporter r => s.stepReporter r

/-- Does all that is due up to a time. -/
def runEvents : Nat → Nat → System → System
  | 0, _, s => s
  | fuel + 1, stop, s =>
    match earliest? s.events with
    | some (time, e) => if time ≤ stop then runEvents fuel stop (s.step time e) else s
    | none => s

/-- How many steps can be due within some time at most: no tick falls on the moment of another, and
every pass has a limited number of steps. -/
def stepsWithin (s : System) (window : Nat) : Nat :=
  (window + s.clock.timer + 2) * ((Fetcher.attempts + 1) * s.engine.fetcher.sources.length + 3)

/-- Follows the clock to a given time. -/
def runUntil (s : System) (stop : Nat) : System :=
  let s := runEvents (s.stepsWithin (stop - s.clock.timer)) stop s.deliver
  { s with clock := { s.clock with timer := max s.clock.timer stop } }

/-- Does what is ready, without moving the clock. -/
def settle (s : System) : System := s.runUntil s.clock.timer

/-- Goes on until the pass that was asked for directly is done. -/
def runToPassEnd : Nat → System → System
  | 0, s => s
  | fuel + 1, s =>
    if s.pass.isNone then s
    else match earliest? s.events with
      | some (time, e) => runToPassEnd fuel (s.step time e)
      | none => s

/-- How long a list is in work at most, in a pass. -/
def longestJob : Nat := Fetcher.backoff + 2 * Fetcher.backoff

/-- Makes a refresh pass now, and waits for its end. -/
def refresh (s : System) : System :=
  let s := s.deliver
  let p := Pass.start s.engine.fetcher
  let window := longestJob * s.engine.fetcher.sources.length
  if p.isDone then s.finishPass p
  else runToPassEnd (s.stepsWithin window) { s with pass := some p }

/-- Brings in all rules: the user's, the built-in ones and those of the remote lists. -/
def hydrate (s : System) : System :=
  let s := s.deliver
  let (engine, files) := s.engine.hydrateRules s.clock.date s.files
  { s with engine := engine, files := files }.refresh

/-! ## The scheduler -/

/-- Starts the scheduler. -/
def startScheduler (s : System) (period : Nat) : System :=
  { s.deliver with scheduler := some (.start period s.clock.timer) }

/-- Asks the scheduler for a pass, and tells whether it accepted. -/
def trigger (s : System) : Option Bool × System :=
  match s.scheduler with
  | none => (none, s)
  | some sch =>
    let (accepted, sch) := sch.trigger
    (some accepted, { s with scheduler := some sch })

/-- Goes on until the scheduler has no pass under way. -/
def runToIdle : Nat → System → System
  | 0, s => s
  | fuel + 1, s =>
    match s.scheduler with
    | some { phase := .busy _, .. } =>
      match earliest? s.events with
      | some (time, e) => runToIdle fuel (s.step time e)
      | none => s
    | _ => s

/-- Stops the scheduler; a pass under way is completed. -/
def stopScheduler (s : System) : System :=
  let s := s.deliver
  let window := longestJob * s.engine.fetcher.sources.length
  { runToIdle (s.stepsWithin window) s with scheduler := none }

/-! ## Decisions -/

/-- Turns blocking on or off. -/
def setEnabled (s : System) (on : Bool) : System :=
  { s with engine := { s.engine with toggle := s.engine.toggle.setEnabled on } }

/-- Judges a request. -/
def check (s : System) (url : List Char) : Option Reason × System :=
  let (reason, engine) := s.engine.check s.clock.now url
  (reason, { s with engine := engine })

/-- Judges a navigation. -/
def navigate (s : System) (url : List Char) : Verdict × System :=
  let (verdict, engine) := s.engine.navigate url
  (verdict, { s with engine := engine })

/-! ## Starting up -/

/-- The engine that settings describe, with its summaries and its log, and all rules brought in. -/
def initialise (settings : Settings) (files : Files) (web : Web) (clock : Clock) : System :=
  let logger := if settings.logging.enable then some (Logger.ofSettings settings.logging) else none
  let reporter :=
    if settings.stats.enable then
      some (Reporter.start (settings.stats.logIntervalSeconds * 1000) clock.timer)
    else none
  { engine := Engine.build settings files logger
    files := files
    web := web
    clock := clock
    reporter := reporter : System }.hydrate

/-- The same without summaries and log. -/
def launch (settings : Settings) (files : Files) (web : Web) (clock : Clock) : System :=
  { engine := Engine.build settings files
    files := files
    web := web
    clock := clock : System }.hydrate

end System

end AdFilter
