import AdFilter.Fetch.Cache
import AdFilter.Fetch.Web
import AdFilter.Rule.Set

/-!
# Refresh passes

A refresh pass brings the rules of all remote lists up to date. Each list is taken from the cache
if the file there is young enough, and is downloaded otherwise, in up to three attempts; if they all
fail, an older file has to do. A list that cannot be had at all costs the others nothing.

A pass goes on in small steps, so that it can be followed in time: lists wait, a limited number of
them are in work, and each of those waits for its next call. `Pass.due?` tells when something is
due next, and `Pass.step` does what is due first.

Times count milliseconds.
-/

namespace AdFilter

open Text

/-- Where a list is to be had. -/
structure Source where
  name : List Char
  url : List Char
deriving Repr, DecidableEq

/-- How a pass came by a list. -/
inductive Outcome where
  | downloaded
  /-- the file in the cache was young enough -/
  | cached
  /-- no download succeeded, and the file in the cache had to do -/
  | staleFallback
  | failed
deriving Repr, DecidableEq

def Outcome.label : Outcome → List Char
  | downloaded => "Downloaded".toList
  | cached => "Cached".toList
  | staleFallback => "StaleFallback".toList
  | failed => "Failed".toList

/-- What is known of a list. -/
structure SourceStatus where
  source : Source
  /-- how the last pass came by it, if there was one -/
  outcome : Option Outcome := none
  /-- when its file in the cache was changed last -/
  updated : Option Int := none
  /-- the rules it gave, repeated ones counted -/
  counts : RuleSet.Counts := ⟨0, 0⟩
deriving Repr, DecidableEq

def SourceStatus.isFailed (s : SourceStatus) : Bool := s.outcome == some .failed

/-- Which lists there are, and how they are fetched. -/
structure Fetcher where
  sources : List Source
  /-- the folder of the cache -/
  folder : List Char
  /-- how many lists are in work at once; none counts as one -/
  concurrency : Nat

namespace Fetcher

/-- How often a download is tried. -/
def attempts : Nat := 3

/-- The wait after the first attempt; after the second it is twice as long. -/
def backoff : Nat := 2000

/-- The file of a list in the cache. -/
def cachePath (f : Fetcher) (s : Source) : List Char := Cache.path f.folder s.name

def limit (f : Fetcher) : Nat := max f.concurrency 1

/-- What is known of the lists before the first pass. -/
def pending (f : Fetcher) (files : Files) : List SourceStatus :=
  f.sources.map fun s => { source := s, updated := files.modified? (f.cachePath s) }

end Fetcher

/-- What a pass reads and changes. -/
structure Stock where
  files : Files
  web : Web
  rules : RuleSet

/-- The moment of a step, by the clock that waits are measured with and by the one that files are
dated with. -/
structure Moment where
  timer : Nat
  wall : Int

/-- A list in work: which attempt comes next, and when. -/
structure Job where
  source : Source
  attempt : Nat
  due : Nat

/-- A pass under way. -/
structure Pass where
  waiting : List Source
  running : List Job := []
  finished : List SourceStatus := []

namespace Pass

/-- What becomes of a list in one step. -/
inductive Turn where
  | goesOn (job : Job)
  | ends (status : SourceStatus)

/-- Ends the work on a list that was had: its rules go into the set. -/
def contribute (f : Fetcher) (s : Source) (o : Outcome) (text : List Char) (st : Stock) :
    Turn × Stock :=
  let batch := Batch.ofList (FilterList.ofText text)
  let counts : RuleSet.Counts := ⟨batch.domains.length, batch.patterns.length⟩
  (.ends ⟨s, some o, st.files.modified? (f.cachePath s), counts⟩,
    { st with rules := st.rules.apply batch })

/-- Ends the work on a list that could not be downloaded. -/
def giveUp (f : Fetcher) (s : Source) (st : Stock) : Turn × Stock :=
  match st.files.readText? (f.cachePath s) with
  | some text => contribute f s .staleFallback text st
  | none => (.ends { source := s, outcome := some .failed,
                      updated := st.files.modified? (f.cachePath s) }, st)

/-- Takes a list into work: it is had from the cache, or will be downloaded at once. -/
def begin (f : Fetcher) (now : Moment) (s : Source) (st : Stock) : Turn × Stock :=
  let fresh :=
    if Cache.needsRefresh st.files now.wall (f.cachePath s) then none
    else st.files.readText? (f.cachePath s)
  match fresh with
  | some text => contribute f s .cached text st
  | none => (.goesOn ⟨s, 1, now.timer⟩, st)

/-- Makes the next attempt at a download. -/
def attempt (f : Fetcher) (now : Moment) (j : Job) (st : Stock) : Turn × Stock :=
  let (answer, web) := st.web.call now.timer j.source.url
  let st := { st with web := web }
  match answer with
  | .ok text =>
    let (files, _) := Cache.store st.files now.wall f.folder (f.cachePath j.source) text
    contribute f j.source .downloaded text { st with files := files }
  | .error e =>
    if e.isTransient && j.attempt < Fetcher.attempts then
      (.goesOn ⟨j.source, j.attempt + 1, now.timer + j.attempt * Fetcher.backoff⟩, st)
    else giveUp f j.source st

/-- Puts a list where its turn leaves it. -/
def place (p : Pass) : Turn → Pass
  | .goesOn j => { p with running := p.running ++ [j] }
  | .ends s => { p with finished := p.finished ++ [s] }

/-- The job that is due first, and the others. -/
def earliest? : List Job → Option (Job × List Job)
  | [] => none
  | j :: js =>
    match earliest? js with
    | none => some (j, [])
    | some (k, rest) => if j.due ≤ k.due then some (j, js) else some (k, j :: rest)

/-- A pass over all lists, before its first step. -/
def start (f : Fetcher) : Pass := { waiting := f.sources }

def isDone (p : Pass) : Bool := p.waiting.isEmpty && p.running.isEmpty

/-- When the next step is due; at once while lists wait and there is room for them. -/
def due? (f : Fetcher) (now : Nat) (p : Pass) : Option Nat :=
  if !p.waiting.isEmpty && p.running.length < f.limit then some now
  else (earliest? p.running).map fun (j, _) => max now j.due

/-- Does what is due first. -/
def step (f : Fetcher) (now : Moment) (p : Pass) (st : Stock) : Pass × Stock :=
  match p.waiting with
  | s :: waiting =>
    if p.running.length < f.limit then
      let (turn, st) := begin f now s st
      (({ p with waiting := waiting } : Pass).place turn, st)
    else next st
  | [] => next st
where
  /-- Makes the attempt that is due first. -/
  next (st : Stock) : Pass × Stock :=
    match earliest? p.running with
    | some (j, running) =>
      let (turn, st) := attempt f now j st
      (({ p with running := running } : Pass).place turn, st)
    | none => (p, st)

/-- What is known of the lists after the pass, in the order of their names. -/
def statuses (p : Pass) : List SourceStatus := sortBy (·.source.name) p.finished

end Pass

end AdFilter
