import AdFilter.Log.Event

/-!
# The decision log

Every decision that is wanted goes to all sinks. A sink takes its entries when it comes to it; until
then they wait in a buffer of its own, and an entry that finds the buffer full is lost to that sink
and to no other.
-/

namespace AdFilter

/-- What the settings say about the log. -/
structure LogSettings where
  enable : Bool := true
  level : List Char := "info".toList
  format : List Char := "text".toList
  /-- whether decisions that block are wanted -/
  logBlocked : Bool := true
  /-- whether the others are wanted -/
  logAllowed : Bool := false
  /-- the names of the sinks -/
  sinks : List (List Char) := ["console".toList]
deriving Repr, DecidableEq

/-- Where entries go. -/
inductive SinkKind where
  | console (format : LogEvent.Format)
  /-- entries are kept as they are -/
  | collector
deriving Repr, DecidableEq

/-- The kind of sink that a setting names; there is none but the console. -/
def SinkKind.ofName? (s : LogSettings) (name : List Char) : Option SinkKind :=
  if name = "console".toList then some (console (.ofName s.format)) else none

/-- A sink with the entries that wait for it. -/
structure Sink where
  kind : SinkKind
  waiting : List LogEntry := []
deriving Repr, DecidableEq

namespace Sink

/-- How many entries may wait. -/
def capacity : Nat := 1000

/-- Gives an entry to a sink, unless its buffer is full. -/
def push (s : Sink) (e : LogEntry) : Sink :=
  if s.waiting.length < capacity then { s with waiting := s.waiting ++ [e] } else s

/-- What a sink shows of the entries that wait for it. -/
def shows (s : Sink) : List LogEvent :=
  match s.kind with
  | .console format => s.waiting.map (.ofEntry format)
  | .collector => []

/-- What a sink keeps of the entries that wait for it. -/
def keeps (s : Sink) : List LogEntry :=
  match s.kind with
  | .console _ => []
  | .collector => s.waiting

end Sink

/-- The log: its settings and its sinks. -/
structure Logger where
  settings : LogSettings
  sinks : List Sink

/-- What sinks have done with their entries. -/
structure Delivery where
  /-- what the consoles have shown -/
  shown : List LogEvent := []
  /-- what the collectors have kept -/
  kept : List LogEntry := []
deriving Repr, DecidableEq

namespace Logger

/-- The log that settings describe, with further sinks behind those they name. -/
def ofSettings (s : LogSettings) (more : List SinkKind := []) : Logger where
  settings := s
  sinks := (s.sinks.filterMap (SinkKind.ofName? s) ++ more).map ({ kind := · })

/-- Whether an entry with this action is wanted. -/
def wants (l : Logger) (a : Action) : Bool :=
  l.settings.enable && !l.sinks.isEmpty &&
    if a.isBlock then l.settings.logBlocked else l.settings.logAllowed

/-- Gives an entry to all sinks, if it is wanted. -/
def log (l : Logger) (e : LogEntry) : Logger :=
  if l.wants e.action then { l with sinks := l.sinks.map (·.push e) } else l

/-- Lets every sink take the entries that wait for it, one sink after the other. -/
def deliver (l : Logger) : Logger × Delivery :=
  ({ l with sinks := l.sinks.map ({ · with waiting := [] }) },
    { shown := l.sinks.flatMap Sink.shows, kept := l.sinks.flatMap Sink.keeps })

end Logger

end AdFilter
