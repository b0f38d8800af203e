import AdFilter.Engine.Counters
import AdFilter.Engine.Toggle
import AdFilter.Engine.Verdict
import AdFilter.Fetch.Pass
import AdFilter.Rule.Priority
import AdFilter.Settings

/-!
# The engine

The engine judges requests and navigations. It holds the rules, the switch that turns blocking off,
the counters, and the log that decisions go to.

* `Engine.reason?` is the judgement by rules alone: the critical rules, then the set;
* `check` and `navigate` are what a browser asks, and leave their traces in counters and log;
* `hydrateRules` and `finishPass` bring in what is read from files and fetched.
-/

namespace AdFilter

open Text

/-- The state of the engine. -/
structure Engine where
  fetcher : Fetcher
  /-- the user's file of domains to be blocked -/
  overrideFile : List Char
  rules : RuleSet
  toggle : Toggle
  /-- what is known of the remote lists -/
  statuses : List SourceStatus
  counters : Counters := {}
  logger : Option Logger := none

namespace Engine

/-- The critical rules, as a batch. -/
def criticalBatch : Batch := Batch.ofList ⟨BuiltIn.criticalDomains, BuiltIn.criticalPatterns⟩

/-- The broader built-in rules, as a batch. -/
def baselineBatch : Batch := Batch.ofList ⟨BuiltIn.baselineDomains, BuiltIn.baselinePatterns⟩

/-- The engine that settings describe. The critical rules are there from the start. -/
def build (s : Settings) (files : Files) (logger : Option Logger := none) : Engine :=
  let fetcher : Fetcher :=
    ⟨s.sourcesSorted.map fun (name, url) => ⟨name, url⟩, s.cacheDir, s.updates.concurrentDownloads⟩
  { fetcher := fetcher
    overrideFile := s.overrideFile
    rules := ({} : RuleSet).apply criticalBatch
    toggle := { enabled := s.enabled }
    statuses := fetcher.pending files
    logger := logger }

/-! ## Decisions -/

/-- The rule that blocks an address: a critical one, or one of the set. -/
def reason? (e : Engine) (url : List Char) : Option Reason := do
  let r ← Request.ofText? url
  (criticalReason? r).or (e.rules.reason? r)

/-- Why a request is blocked now, if it is. -/
def decide? (e : Engine) (now : Nat) (url : List Char) : Option Reason :=
  if e.toggle.isActive now then e.reason? url else none

/-- What becomes of a navigation, whether blocking is on or not. -/
def verdict (e : Engine) (url : List Char) : Verdict :=
  match e.reason? url with
  | some r => .suppress (.blocked r)
  | none => match popupIndicator? url with
    | some i => .suppress (.popupIndicator i)
    | none => .redirect

/-- Notes a decision in the log, if there is one. -/
def note (e : Engine) (entry : LogEntry) : Engine := { e with logger := e.logger.map (·.log entry) }

/-- Judges a request. -/
def check (e : Engine) (now : Nat) (url : List Char) : Option Reason × Engine :=
  let reason := e.decide? now url
  let counters := e.counters.countChecked
  let counters := match reason with
    | some r => counters.countBlocked r.kind
    | none => counters
  let action := if reason.isSome then .blocked else .allowed
  (reason, { e with counters := counters }.note ⟨url, action, reason.map Reason.text, 0⟩)

/-- Judges a navigation. -/
def navigate (e : Engine) (url : List Char) : Verdict × Engine :=
  let verdict := e.verdict url
  let action := if verdict.isSuppressed then .suppressed else .redirected
  (verdict, { e with counters := e.counters.countNavigation verdict.isSuppressed }.note
    ⟨url, action, verdict.reasonText, 0⟩)

/-! ## Rules -/

def addDomain (e : Engine) (d : List Char) : Engine := { e with rules := e.rules.addDomain d }

def removeDomain (e : Engine) (d : List Char) : Engine := { e with rules := e.rules.removeDomain d }

/-- The user's file of overrides, made if it is not there, and the domains in it. -/
def readOverrides (path : List Char) (now : Int) (files : Files) : Files × List (List Char) :=
  let files :=
    if (files.stat? path).isSome then files
    else (files.write? now path (.text BuiltIn.overrideTemplate)).getD files
  (files, ((files.readText? path).map overrideDomains).getD [])

/-- Brings in the user's overrides and the broader built-in rules. -/
def hydrateRules (e : Engine) (now : Int) (files : Files) : Engine × Files :=
  let (files, domains) := readOverrides e.overrideFile now files
  let rules := (e.rules.apply (Batch.ofList ⟨domains, []⟩)).apply baselineBatch
  ({ e with rules := rules }, files)

/-- Takes over what a pass has found out. -/
def finishPass (e : Engine) (p : Pass) : Engine :=
  { e with statuses := p.statuses, counters := e.counters.countPass }

/-! ## Statistics -/

/-- What the engine tells about itself. -/
structure Statistics where
  enabled : Bool
  counts : RuleSet.Counts
  /-- when a list in the cache was changed last -/
  updated : Option Int
  sources : List SourceStatus
  /-- the lists that could not be had -/
  failed : List (List Char)
  counters : Counters

/-- The latest of several times. -/
def latest? (ts : List Int) : Option Int := ts.max?

def statistics (e : Engine) : Statistics where
  enabled := e.toggle.enabled
  counts := e.rules.counts
  updated := latest? (e.statuses.filterMap (·.updated))
  sources := e.statuses
  failed := (e.statuses.filter (·.isFailed)).map (·.source.name)
  counters := e.counters

end Engine

end AdFilter
