import AdFilter.Log.Logger

/-!
# How entries come to the sinks

A call of the log offers its entry to one sink after the other, and waits for none of them. Every
sink takes what waits for it in its own time, also between two offers of one call. `Fanout.Move`
lists what may come next, and `Fanout.Run` collects what happens. `Logger.log` and `Logger.deliver`
are among the runs (`Fanout.Run.called`, `Fanout.Run.delivered`).

What a sink has got is read off the run: `Sink.Served` relates it to the calls of the log, and to
what the sink would get if it were the only one (`Sink.serve`). Each move keeps it true, and
`Fanout.fanout_spec` collects what comes of it.
-/

namespace AdFilter

/-- What happens at a sink. -/
inductive SinkEvent where
  /-- an entry is offered to it, and there is room for it or not -/
  | offered (e : LogEntry) (room : Bool)
  /-- it takes the first entry that waits for it -/
  | took (e : LogEntry)
deriving Repr, DecidableEq

namespace SinkEvent

def offered? : SinkEvent → Option LogEntry
  | offered e _ => some e
  | took _ => none

/-- The entry that is offered, if there is room for it. -/
def accepted? : SinkEvent → Option LogEntry
  | offered e room => if room then some e else none
  | took _ => none

def taken? : SinkEvent → Option LogEntry
  | offered _ _ => none
  | took e => some e

variable {xs : List SinkEvent}

theorem accepted_sublist (xs : List SinkEvent) :
    (xs.filterMap accepted?).Sublist (xs.filterMap offered?) := by
  induction xs with
  | nil => exact List.Sublist.refl _
  | cons x xs ih =>
    rcases x with ⟨e, _ | _⟩ | e
    · exact ih.cons e
    · exact ih.cons_cons e
    · exact ih

/-- Where nothing is taken, all that happens is that entries are offered. -/
theorem map_offered?_of_quiet (h : xs.filterMap taken? = []) :
    xs.map offered? = (xs.filterMap offered?).map some := by
  induction xs with
  | nil => rfl
  | cons x xs ih =>
    cases x with
    | offered e room => exact congrArg (some e :: ·) (ih h)
    | took e => cases h

end SinkEvent

/-- What happens to a log. -/
inductive FanoutEvent where
  /-- it is called with an entry -/
  | called (e : LogEntry)
  | sink (i : Nat) (x : SinkEvent)
deriving Repr, DecidableEq

namespace FanoutEvent

def called? : FanoutEvent → Option LogEntry
  | called e => some e
  | sink _ _ => none

def atSink? (i : Nat) : FanoutEvent → Option SinkEvent
  | called _ => none
  | sink j x => if j = i then some x else none

end FanoutEvent

/-- What happens to a log, in the order in which it happens. -/
abbrev FanoutLog := List FanoutEvent

namespace FanoutLog

variable {log more : FanoutLog} {x : FanoutEvent} {i : Nat} {l : Logger}

/-- The entries with which the log was called. -/
def calls (log : FanoutLog) : List LogEntry := log.filterMap FanoutEvent.called?

/-- Those of them that are wanted. -/
def wanted (l : Logger) (log : FanoutLog) : List LogEntry := log.calls.filter (l.wants ·.action)

/-- What has happened at one of the sinks. -/
def atSink (log : FanoutLog) (i : Nat) : List SinkEvent := log.filterMap (FanoutEvent.atSink? i)

def offered (log : FanoutLog) (i : Nat) : List LogEntry :=
  (log.atSink i).filterMap SinkEvent.offered?

def accepted (log : FanoutLog) (i : Nat) : List LogEntry :=
  (log.atSink i).filterMap SinkEvent.accepted?

def taken (log : FanoutLog) (i : Nat) : List LogEntry := (log.atSink i).filterMap SinkEvent.taken?

/-- What comes to a sink: an entry is offered, or it is time to take one. -/
def schedule (log : FanoutLog) (i : Nat) : List (Option LogEntry) :=
  (log.atSink i).map SinkEvent.offered?

@[simp] theorem calls_append : (log ++ more).calls = log.calls ++ more.calls :=
  List.filterMap_append

@[simp] theorem wanted_append : (log ++ more).wanted l = log.wanted l ++ more.wanted l := by
  rw [wanted, calls_append, List.filter_append, ← wanted, ← wanted]

theorem wanted_congr {l' : Logger} (h : ∀ a, l'.wants a = l.wants a) :
    log.wanted l' = log.wanted l := by
  rw [wanted, wanted]
  simp only [h]

@[simp] theorem atSink_append : (log ++ more).atSink i = log.atSink i ++ more.atSink i :=
  List.filterMap_append

@[simp] theorem offered_append : (log ++ more).offered i = log.offered i ++ more.offered i := by
  rw [offered, atSink_append, List.filterMap_append, ← offered, ← offered]

@[simp] theorem taken_append : (log ++ more).taken i = log.taken i ++ more.taken i := by
  rw [taken, atSink_append, List.filterMap_append, ← taken, ← taken]

theorem atSink_of_none (h : x.atSink? i = none) : atSink [x] i = [] := List.filterMap_cons_none h

theorem atSink_self (y : SinkEvent) : atSink [.sink i y] i = [y] :=
  List.filterMap_cons_some (if_pos rfl)

end FanoutLog

namespace Sink

variable {s : Sink} {e : LogEntry}

def hasRoom (s : Sink) : Bool := decide (s.waiting.length < capacity)

/-- What a sink has taken, and the sink, after an entry is offered or it is time to take one. -/
def serveNext : List LogEntry × Sink → Option LogEntry → List LogEntry × Sink
  | (taken, s), some e => (taken, s.push e)
  | (taken, s), none => match s.waiting with
    | [] => (taken, s)
    | e :: rest => (taken ++ [e], { s with waiting := rest })

/-- What a sink takes that is left to itself, and how it is then. -/
def serve (s : Sink) (schedule : List (Option LogEntry)) : List LogEntry × Sink :=
  schedule.foldl serveNext ([], s)

theorem serve_append (s : Sink) (schedule more : List (Option LogEntry)) :
    s.serve (schedule ++ more) = more.foldl serveNext (s.serve schedule) := List.foldl_append

theorem serve_map_some (s : Sink) (es : List LogEntry) :
    s.serve (es.map some) = ([], es.foldl push s) := by
  induction es generalizing s with
  | nil => rfl
  | cons e es ih => exact ih (s.push e)

/-- What is offered is put behind what waits, if there is room for it. -/
theorem waiting_push :
    (s.push e).waiting = s.waiting ++ (SinkEvent.offered e s.hasRoom).accepted?.toList := by
  rw [push, SinkEvent.accepted?, hasRoom]
  by_cases hroom : s.waiting.length < capacity
  · rw [if_pos hroom, if_pos (decide_eq_true hroom)]
    rfl
  · rw [if_neg hroom, if_neg (by rwa [decide_eq_true_eq])]
    exact (List.append_nil _).symm

theorem kind_push : (s.push e).kind = s.kind := by
  rw [push]
  split <;> rfl

theorem length_waiting_push_le (h : s.waiting.length ≤ capacity) :
    (s.push e).waiting.length ≤ capacity := by
  rw [push]
  split
  · rename_i hroom
    rw [List.length_append, List.length_singleton]
    exact hroom
  · exact h

/-- A sink that takes nothing gets the first of the entries, as many as there is room for. -/
theorem waiting_foldl_push (s : Sink) (es : List LogEntry) :
    (es.foldl push s).waiting = s.waiting ++ es.take (capacity - s.waiting.length) := by
  induction es generalizing s with
  | nil => rw [List.take_nil, List.append_nil, List.foldl_nil]
  | cons e es ih =>
    rw [List.foldl_cons, ih, push]
    split
    · rename_i hroom
      obtain ⟨n, hn⟩ := Nat.exists_eq_add_of_lt hroom
      have hleft : capacity - s.waiting.length = n + 1 := by omega
      have hnext : capacity - (s.waiting ++ [e]).length = n := by
        rw [List.length_append, List.length_singleton]
        omega
      rw [hleft, hnext, List.take_succ_cons, List.append_assoc, List.singleton_append]
    · rename_i hfull
      rw [Nat.sub_eq_zero_of_le (Nat.le_of_not_lt hfull), List.take_zero, List.take_zero]

end Sink

namespace Logger

variable {l : Logger} {i : Nat} {s : Sink}

def withSink (l : Logger) (i : Nat) (s : Sink) : Logger := { l with sinks := l.sinks.set i s }

/-- An entry with the sink whose turn it is, if there is one. -/
def onward (l : Logger) (e : LogEntry) (i : Nat) : Option (LogEntry × Nat) :=
  if i < l.sinks.length then some (e, i) else none

@[simp] theorem length_sinks_withSink : (l.withSink i s).sinks.length = l.sinks.length :=
  List.length_set

/-- What is wanted depends on the settings, and on whether there are sinks. -/
theorem wants_congr {l' : Logger} (hsettings : l'.settings = l.settings)
    (hlength : l'.sinks.length = l.sinks.length) (a : Action) : l'.wants a = l.wants a := by
  have hempty : l'.sinks.isEmpty = l.sinks.isEmpty := by
    rw [Bool.eq_iff_iff, List.isEmpty_iff_length_eq_zero, List.isEmpty_iff_length_eq_zero, hlength]
  rw [wants, wants, hsettings, hempty]

theorem onward_congr {l' : Logger} (hlength : l'.sinks.length = l.sinks.length) (e : LogEntry)
    (i : Nat) : l'.onward e i = l.onward e i := by
  rw [onward, onward, hlength]

theorem lt_of_onward {e e' : LogEntry} {j : Nat} (h : l.onward e i = some (e', j)) :
    j < l.sinks.length := by
  rw [onward] at h
  split at h
  · rename_i hlt
    rw [← (Prod.mk.inj (Option.some.inj h)).2]
    exact hlt
  · cases h

theorem getElem?_withSink_self (h : i < l.sinks.length) :
    (l.withSink i s).sinks[i]? = some s := List.getElem?_set_self h

theorem getElem?_withSink_ne {j : Nat} (h : j ≠ i) :
    (l.withSink j s).sinks[i]? = l.sinks[i]? := List.getElem?_set_ne h

theorem waiting_of_mem_ofSettings {settings : LogSettings} {more : List SinkKind}
    (h : s ∈ (ofSettings settings more).sinks) : s.waiting = [] := by
  obtain ⟨kind, -, rfl⟩ := List.mem_map.mp h
  rfl

/-! The sinks one after the other -/

variable {settings : LogSettings} {before after : List Sink} {s' : Sink} {e : LogEntry}

theorem getElem?_append_cons :
    (Logger.mk settings (before ++ s :: after)).sinks[before.length]? = some s := by
  rw [List.getElem?_append_right (Nat.le_refl _), Nat.sub_self, List.getElem?_cons_zero]

theorem withSink_append_cons :
    (Logger.mk settings (before ++ s :: after)).withSink before.length s' =
      ⟨settings, (before ++ [s']) ++ after⟩ := by
  rw [withSink, List.set_append_right _ _ (Nat.le_refl _), Nat.sub_self, List.set_cons_zero,
    List.append_assoc, List.singleton_append]

/-- How the entry of a call comes to sinks that are numbered from some number on. -/
def offersFrom (e : LogEntry) (i : Nat) (sinks : List Sink) : FanoutLog :=
  (sinks.zipIdx i).map fun (s, j) => .sink j (.offered e s.hasRoom)

/-- What happens when the log is called and no sink takes anything meanwhile. -/
def offers (l : Logger) (e : LogEntry) : FanoutLog :=
  .called e :: if l.wants e.action then offersFrom e 0 l.sinks else []

/-- How sinks that are numbered from some number on take all that waits for them. -/
def takesFrom (i : Nat) (sinks : List Sink) : FanoutLog :=
  (sinks.zipIdx i).flatMap fun (s, j) => s.waiting.map fun e => .sink j (.took e)

/-- What happens when all sinks take all that waits for them. -/
def takes (l : Logger) : FanoutLog := takesFrom 0 l.sinks

theorem calls_offers : (l.offers e).calls = [e] := by
  have hnone : (offersFrom e 0 l.sinks).calls = [] := by
    rw [FanoutLog.calls, offersFrom, List.filterMap_map]
    exact List.filterMap_eq_nil_iff.mpr fun _ _ => rfl
  rw [offers]
  split
  · exact congrArg (e :: ·) hnone
  · rfl

theorem calls_takes : l.takes.calls = [] := by
  refine List.filterMap_eq_nil_iff.mpr fun x hx => ?_
  obtain ⟨a, -, hx⟩ := List.mem_flatMap.mp hx
  obtain ⟨e, -, rfl⟩ := List.mem_map.mp hx
  rfl

theorem taken_offers : (l.offers e).taken i = [] := by
  refine List.filterMap_eq_nil_iff.mpr fun y hy => ?_
  obtain ⟨x, hx, hsink⟩ := List.mem_filterMap.mp hy
  rcases List.mem_cons.mp hx with rfl | hx
  · cases hsink
  · split at hx
    · obtain ⟨⟨s, j⟩, -, rfl⟩ := List.mem_map.mp hx
      rw [FanoutEvent.atSink?] at hsink
      split at hsink
      · rw [← Option.some.inj hsink]
        rfl
      · cases hsink
    · cases hx

end Logger

/-- A log in use. -/
structure Fanout where
  logger : Logger
  /-- the entry of the call that is under way, and the sink that it comes to next -/
  call : Option (LogEntry × Nat) := none

namespace Fanout

/-- What may come next. -/
inductive Move : Fanout → FanoutEvent → Fanout → Prop
  | call {l e} :
      Move ⟨l, none⟩ (.called e) ⟨l, if l.wants e.action then l.onward e 0 else none⟩
  /-- the call that is under way comes to a sink -/
  | offer {l e i s} (sink_eq : l.sinks[i]? = some s) :
      Move ⟨l, some (e, i)⟩ (.sink i (.offered e s.hasRoom))
        ⟨l.withSink i (s.push e), l.onward e (i + 1)⟩
  /-- a sink takes an entry, whether a call is under way or not -/
  | take {l call i s e rest} (sink_eq : l.sinks[i]? = some s) (waiting_eq : s.waiting = e :: rest) :
      Move ⟨l, call⟩ (.sink i (.took e)) ⟨l.withSink i { s with waiting := rest }, call⟩

/-- A run of a log, with what has happened so far. -/
inductive Run (t₀ : Fanout) : FanoutLog → Fanout → Prop
  | start : Run t₀ [] t₀
  | move {log t x t'} (run : Run t₀ log t) (move : Move t x t') : Run t₀ (log ++ [x]) t'

/-- The entry of the call that is under way, if it is still to come to a sink. -/
def pending (t : Fanout) (i : Nat) : List LogEntry :=
  match t.call with
  | some (e, j) => if j ≤ i then [e] else []
  | none => []

variable {t₀ t t' : Fanout} {log : FanoutLog} {x : FanoutEvent} {l : Logger} {e : LogEntry}
  {i j : Nat} {s : Sink}

theorem pending_none : pending ⟨l, none⟩ i = [] := rfl

theorem pending_some : pending ⟨l, some (e, j)⟩ i = if j ≤ i then [e] else [] := rfl

theorem pending_onward (hi : i < l.sinks.length) (l' : Logger) :
    pending ⟨l', l.onward e j⟩ i = if j ≤ i then [e] else [] := by
  rw [pending, Logger.onward]
  by_cases hj : j < l.sinks.length
  · rw [if_pos hj]
  · rw [if_neg hj, if_neg (by omega)]

end Fanout

/-! ## What the logger does is among the runs -/

namespace Fanout.Run

variable {t₀ : Fanout} {log : FanoutLog} {l : Logger} {e : LogEntry} {s : Sink}
  {call : Option (LogEntry × Nat)} {settings : LogSettings} {before after : List Sink}

/-- A call that has come to some of the sinks comes to the others. -/
theorem offersFrom (before : List Sink) (h : Run t₀ log
    ⟨⟨settings, before ++ after⟩, Logger.onward ⟨settings, before ++ after⟩ e before.length⟩) :
    Run t₀ (log ++ Logger.offersFrom e before.length after)
      ⟨⟨settings, before ++ after.map (·.push e)⟩, none⟩ := by
  induction after generalizing before log with
  | nil =>
    rw [List.append_nil, Logger.onward, if_neg (Nat.lt_irrefl _)] at h
    rw [Logger.offersFrom, List.zipIdx_nil, List.map_nil, List.map_nil, List.append_nil,
      List.append_nil]
    exact h
  | cons s after ih =>
    have honward : Logger.onward ⟨settings, before ++ s :: after⟩ e (before.length + 1) =
        Logger.onward ⟨settings, (before ++ [s.push e]) ++ after⟩ e
          (before ++ [s.push e]).length := by
      rw [List.length_append, List.length_singleton]
      refine Logger.onward_congr ?_ e _
      rw [List.append_assoc, List.length_append, List.length_append]
      rfl
    have hlt : before.length < (before ++ s :: after).length := by
      rw [List.length_append, List.length_cons]
      omega
    rw [Logger.onward, if_pos hlt] at h
    have hnext := h.move (.offer Logger.getElem?_append_cons)
    rw [Logger.withSink_append_cons, honward] at hnext
    have hothers := ih _ hnext
    rw [List.length_append, List.length_singleton, List.append_assoc, List.append_assoc,
      List.singleton_append, List.singleton_append] at hothers
    rw [Logger.offersFrom, List.zipIdx_cons, List.map_cons, List.map_cons]
    exact hothers

/-- The log is called, and no sink takes anything meanwhile. -/
theorem called (h : Run t₀ log ⟨l, none⟩) (e : LogEntry) :
    Run t₀ (log ++ l.offers e) ⟨l.log e, none⟩ := by
  have hcall := h.move (.call (e := e))
  rw [Logger.offers, Logger.log]
  split
  · rename_i hwants
    rw [if_pos hwants] at hcall
    have hoffers := hcall.offersFrom []
    rw [List.append_assoc, List.singleton_append] at hoffers
    exact hoffers
  · rename_i hwants
    rw [if_neg hwants] at hcall
    exact hcall

/-- A sink takes all that waits for it. -/
theorem drain (h : Run t₀ log ⟨⟨settings, before ++ s :: after⟩, call⟩) :
    Run t₀ (log ++ s.waiting.map fun e => .sink before.length (.took e))
      ⟨⟨settings, (before ++ [{ s with waiting := [] }]) ++ after⟩, call⟩ := by
  obtain ⟨kind, waiting⟩ := s
  induction waiting generalizing log with
  | nil =>
    rw [List.map_nil, List.append_nil, List.append_assoc, List.singleton_append]
    exact h
  | cons e waiting ih =>
    have hnext := h.move (.take Logger.getElem?_append_cons rfl)
    rw [Logger.withSink_append_cons, List.append_assoc, List.singleton_append] at hnext
    have hothers := ih hnext
    rw [List.append_assoc, List.singleton_append] at hothers
    exact hothers

theorem takesFrom (before : List Sink) (h : Run t₀ log ⟨⟨settings, before ++ after⟩, call⟩) :
    Run t₀ (log ++ Logger.takesFrom before.length after)
      ⟨⟨settings, before ++ after.map ({ · with waiting := [] })⟩, call⟩ := by
  induction after generalizing before log with
  | nil =>
    rw [Logger.takesFrom, List.zipIdx_nil, List.flatMap_nil, List.map_nil, List.append_nil]
    exact h
  | cons s after ih =>
    have hothers := ih _ h.drain
    rw [List.length_append, List.length_singleton, List.append_assoc, List.append_assoc,
      List.singleton_append] at hothers
    rw [Logger.takesFrom, List.zipIdx_cons, List.flatMap_cons, List.map_cons]
    exact hothers

/-- Every sink takes all that waits for it. -/
theorem delivered (h : Run t₀ log ⟨l, call⟩) : Run t₀ (log ++ l.takes) ⟨l.deliver.1, call⟩ :=
  h.takesFrom []

/-- The log is called again and again, and no sink takes anything meanwhile. -/
theorem exists_calledAll (h : Run t₀ log ⟨l, none⟩) (es : List LogEntry) :
    ∃ more, Run t₀ (log ++ more) ⟨es.foldl Logger.log l, none⟩ ∧ more.calls = es ∧
      ∀ i, more.taken i = [] := by
  induction es generalizing log l with
  | nil => exact ⟨[], by rwa [List.append_nil], rfl, fun _ => rfl⟩
  | cons e es ih =>
    obtain ⟨more, hrun, hcalls, hquiet⟩ := ih (h.called e)
    refine ⟨l.offers e ++ more, ?_, ?_, fun i => ?_⟩
    · rw [← List.append_assoc]
      exact hrun
    · rw [FanoutLog.calls_append, Logger.calls_offers, hcalls, List.singleton_append]
    · rw [FanoutLog.taken_append, Logger.taken_offers, hquiet, List.append_nil]

end Fanout.Run

/-! ## What a sink gets -/

namespace Sink

/-- What is true of a sink to which something has happened since it was another one. -/
structure Became (first : Sink) (xs : List SinkEvent) (s : Sink) : Prop where
  kind_eq : s.kind = first.kind
  serve_eq : first.serve (xs.map SinkEvent.offered?) = (xs.filterMap SinkEvent.taken?, s)
  account : first.waiting ++ xs.filterMap SinkEvent.accepted? =
    xs.filterMap SinkEvent.taken? ++ s.waiting
  length_le : first.waiting.length ≤ capacity → s.waiting.length ≤ capacity

namespace Became

variable {first s : Sink} {xs : List SinkEvent} {e : LogEntry} {rest : List LogEntry}

theorem refl (s : Sink) : s.Became [] s where
  kind_eq := rfl
  serve_eq := rfl
  account := List.append_nil _
  length_le hle := hle

theorem offered (h : first.Became xs s) (e : LogEntry) :
    first.Became (xs ++ [.offered e s.hasRoom]) (s.push e) where
  kind_eq := (kind_push).trans h.kind_eq
  serve_eq := by
    rw [List.map_append, serve_append, h.serve_eq, List.filterMap_append]
    exact congrArg (·, s.push e) (List.append_nil _).symm
  account := by
    have hnone : [SinkEvent.offered e s.hasRoom].filterMap SinkEvent.taken? = [] := rfl
    rw [List.filterMap_append, ← List.append_assoc, h.account, waiting_push, List.filterMap_append,
      hnone, List.append_nil, List.append_assoc]
    rfl
  length_le hle := length_waiting_push_le (h.length_le hle)

theorem took (h : first.Became xs s) (hwaiting : s.waiting = e :: rest) :
    first.Became (xs ++ [.took e]) { s with waiting := rest } where
  kind_eq := h.kind_eq
  serve_eq := by
    have hnext (taken : List LogEntry) :
        serveNext (taken, s) none = (taken ++ [e], { s with waiting := rest }) := by
      rw [serveNext, hwaiting]
    rw [List.map_append, serve_append, h.serve_eq, List.filterMap_append]
    exact hnext _
  account := by
    have hone : [SinkEvent.took e].filterMap SinkEvent.taken? = [e] := rfl
    have hnone : [SinkEvent.took e].filterMap SinkEvent.accepted? = [] := rfl
    rw [List.filterMap_append, hnone, List.append_nil, h.account, hwaiting, List.filterMap_append,
      hone, List.append_assoc, List.singleton_append]
  length_le hle := by
    have hshorter := h.length_le hle
    rw [hwaiting] at hshorter
    exact Nat.le_of_succ_le hshorter

/-- A sink that takes nothing gets the first of the entries, as many as there is room for. -/
theorem waiting_eq_of_quiet (h : first.Became xs s) (hquiet : xs.filterMap SinkEvent.taken? = []) :
    s.waiting = first.waiting ++
      (xs.filterMap SinkEvent.offered?).take (capacity - first.waiting.length) := by
  have hserve := h.serve_eq
  rw [SinkEvent.map_offered?_of_quiet hquiet, serve_map_some, hquiet] at hserve
  rw [← (Prod.mk.inj hserve).2, waiting_foldl_push]

end Became

end Sink

namespace Fanout

/-- What is true of a sink after a run, if it was another one before. -/
structure Served (t₀ : Fanout) (log : FanoutLog) (t : Fanout) (i : Nat) (first s : Sink) :
    Prop where
  sink_eq : t.logger.sinks[i]? = some s
  became : first.Became (log.atSink i) s
  offers : t₀.pending i ++ log.wanted t₀.logger = log.offered i ++ t.pending i

variable {t₀ t t' : Fanout} {log rest : FanoutLog} {x : FanoutEvent} {i : Nat} {first s : Sink}

/-- Something happens elsewhere. -/
theorem Served.elsewhere (h : Served t₀ log t i first s) (hx : x.atSink? i = none)
    (hsink : t'.logger.sinks[i]? = some s)
    (hpending : t.pending i ++ FanoutLog.wanted t₀.logger [x] = t'.pending i) :
    Served t₀ (log ++ [x]) t' i first s where
  sink_eq := hsink
  became := by
    rw [FanoutLog.atSink_append, FanoutLog.atSink_of_none hx, List.append_nil]
    exact h.became
  offers := by
    have hnone : FanoutLog.offered [x] i = [] := by
      rw [FanoutLog.offered, FanoutLog.atSink_of_none hx, List.filterMap_nil]
    rw [FanoutLog.wanted_append, ← List.append_assoc, h.offers, List.append_assoc, hpending,
      FanoutLog.offered_append, hnone, List.append_nil]

/-- Something happens at the sink. -/
theorem Served.here (h : Served t₀ log t i first s) {y : SinkEvent} {s' : Sink}
    (hsink : t'.logger.sinks[i]? = some s') (hbecame : first.Became (log.atSink i ++ [y]) s')
    (hpending : t.pending i = (y.offered?).toList ++ t'.pending i) :
    Served t₀ (log ++ [.sink i y]) t' i first s' where
  sink_eq := hsink
  became := by
    rw [FanoutLog.atSink_append, FanoutLog.atSink_self]
    exact hbecame
  offers := by
    have hnone : FanoutLog.wanted t₀.logger [.sink i y] = [] := rfl
    have hone : FanoutLog.offered [.sink i y] i = (y.offered?).toList := by
      rw [FanoutLog.offered, FanoutLog.atSink_self]
      cases y <;> rfl
    rw [FanoutLog.wanted_append, hnone, List.append_nil, h.offers, hpending,
      FanoutLog.offered_append, hone, List.append_assoc]

/-- Whatever comes next is taken account of at every sink. -/
theorem Served.move (h : Served t₀ log t i first s)
    (hwants : ∀ a, t.logger.wants a = t₀.logger.wants a) (hmove : Move t x t') :
    ∃ s', Served t₀ (log ++ [x]) t' i first s' := by
  have hsink := h.sink_eq
  have hi := (List.getElem?_eq_some_iff.mp hsink).1
  cases hmove with
  | @call l e =>
    refine ⟨s, h.elsewhere rfl hsink ?_⟩
    have hone : FanoutLog.wanted t₀.logger [.called e] = if l.wants e.action then [e] else [] := by
      rw [hwants]
      exact List.filter_cons
    rw [pending_none, List.nil_append, hone]
    split
    · rw [pending_onward hi l, if_pos (Nat.zero_le _)]
    · rfl
  | @offer l e j s' hs' =>
    by_cases hj : j = i
    · subst hj
      obtain rfl := Option.some.inj (hs'.symm.trans hsink)
      refine ⟨_, h.here (Logger.getElem?_withSink_self hi) (h.became.offered e) ?_⟩
      rw [pending_some, if_pos (Nat.le_refl _), pending_onward hi, if_neg (Nat.not_succ_le_self _)]
      rfl
    · refine ⟨s, h.elsewhere (if_neg hj) ((Logger.getElem?_withSink_ne hj).trans hsink) ?_⟩
      have hnone : FanoutLog.wanted t₀.logger [.sink j (.offered e s'.hasRoom)] = [] := rfl
      have hnext : j + 1 ≤ i ↔ j ≤ i := ⟨Nat.le_of_succ_le, fun hle => Nat.lt_of_le_of_ne hle hj⟩
      rw [hnone, List.append_nil, pending_some, pending_onward hi]
      simp only [hnext]
  | @take l call j s' e rest hs' hwaiting =>
    by_cases hj : j = i
    · subst hj
      obtain rfl := Option.some.inj (hs'.symm.trans hsink)
      exact ⟨_, h.here (Logger.getElem?_withSink_self hi) (h.became.took hwaiting) rfl⟩
    · refine ⟨s, h.elsewhere (if_neg hj) ((Logger.getElem?_withSink_ne hj).trans hsink) ?_⟩
      exact List.append_nil _

/-- A move changes neither the settings nor the number of sinks. -/
theorem Move.frame (h : Move t x t') : t'.logger.settings = t.logger.settings ∧
    t'.logger.sinks.length = t.logger.sinks.length := by
  cases h with
  | call => exact ⟨rfl, rfl⟩
  | offer => exact ⟨rfl, Logger.length_sinks_withSink⟩
  | take => exact ⟨rfl, Logger.length_sinks_withSink⟩

namespace Run

theorem frame (h : Run t₀ log t) : t.logger.settings = t₀.logger.settings ∧
    t.logger.sinks.length = t₀.logger.sinks.length := by
  induction h with
  | start => exact ⟨rfl, rfl⟩
  | move run move ih => exact ⟨move.frame.1.trans ih.1, move.frame.2.trans ih.2⟩

theorem wants_eq (h : Run t₀ log t) (a : Action) : t.logger.wants a = t₀.logger.wants a :=
  Logger.wants_congr h.frame.1 h.frame.2 a

theorem exists_served (h : Run t₀ log t) (hfirst : t₀.logger.sinks[i]? = some first) :
    ∃ s, Served t₀ log t i first s := by
  induction h with
  | start => exact ⟨first, hfirst, .refl first, List.append_nil _⟩
  | move run move ih =>
    obtain ⟨s, hs⟩ := ih
    exact hs.move run.wants_eq move

/-- What has happened did so by a move in the course of the run. -/
theorem exists_move (h : Run t₀ log t) {before : FanoutLog} (hlog : before ++ [x] <+: log) :
    ∃ u v, Run t₀ before u ∧ Move u x v := by
  induction h with
  | start =>
    have hnil := List.prefix_nil.mp hlog
    exact absurd hnil (List.append_ne_nil_of_right_ne_nil _ (List.cons_ne_nil _ _))
  | move run move ih =>
    rcases List.prefix_concat_iff.mp hlog with hlast | hbefore
    · obtain ⟨rfl, rfl⟩ := List.append_singleton_inj.mp hlast
      exact ⟨_, _, run, move⟩
    · exact ih hbefore

/-- A call that is under way comes to a sink, which it does not wait for. -/
theorem exists_offer (h : Run t₀ log t) (hcall : t₀.call = none) {e : LogEntry} {j : Nat}
    (ht : t.call = some (e, j)) : ∃ room t', Move t (.sink j (.offered e room)) t' := by
  have hlt : j < t.logger.sinks.length := by
    induction h with
    | start =>
      rw [hcall] at ht
      cases ht
    | move run move ih =>
      cases move with
      | @call l e' =>
        by_cases hwants : l.wants e'.action
        · rw [if_pos hwants] at ht
          exact Logger.lt_of_onward ht
        · rw [if_neg hwants] at ht
          cases ht
      | @offer l e' i s hs =>
        rw [Logger.length_sinks_withSink]
        exact Logger.lt_of_onward ht
      | take hs hwaiting =>
        rw [Logger.length_sinks_withSink]
        exact ih ht
  obtain ⟨l, call⟩ := t
  obtain rfl : call = some (e, j) := ht
  exact ⟨_, _, .offer (List.getElem?_eq_getElem hlt)⟩

end Run

theorem pending_of_none (hcall : t.call = none) : t.pending i = [] := by rw [pending, hcall]

/-- A sink whose queue began empty has room as long as fewer entries wait than may. -/
theorem Run.room_of_offered {l : Logger} (h : Run ⟨l, none⟩ log t)
    (hempty : ∀ first ∈ l.sinks, first.waiting = []) {before : FanoutLog} {e : LogEntry}
    {room : Bool}
    (hlog : before ++ [.sink i (.offered e room)] <+: log) :
    ∃ u held, Run ⟨l, none⟩ before u ∧ u.logger.sinks[i]? = some held ∧
      (room = false ↔ held.waiting.length = Sink.capacity) := by
  obtain ⟨u, v, hrun, hmove⟩ := h.exists_move hlog
  cases hmove with
  | @offer l' e i held hheld =>
    have hi := (List.getElem?_eq_some_iff.mp hheld).1
    obtain ⟨first, hfirst⟩ : ∃ first, l.sinks[i]? = some first :=
      ⟨_, List.getElem?_eq_getElem (by rwa [hrun.frame.2] at hi)⟩
    obtain ⟨s, hserved⟩ := hrun.exists_served hfirst
    obtain rfl := Option.some.inj (hheld.symm.trans hserved.sink_eq)
    have hle := hserved.became.length_le
      (by rw [hempty first (List.mem_of_getElem? hfirst)]; exact Nat.zero_le _)
    refine ⟨_, held, hrun, hheld, ?_⟩
    rw [Sink.hasRoom, decide_eq_false_iff_not]
    omega

/-- With whatever settings and sinks, and whenever the sinks take what waits for them: each sink is
offered the entries that are wanted, in the order of the calls, and keeps those for which there is
room in its own queue. It gets them as if it were the only sink. While it takes nothing, it gets the
first of the entries that are wanted, as many as there is room for. -/
theorem fanout_spec {settings : LogSettings} {more : List SinkKind}
    (h : Run ⟨.ofSettings settings more, none⟩ log t) :
    let l := Logger.ofSettings settings more
    t.logger.sinks.length = l.sinks.length ∧
      (∀ e i, t.call = some (e, i) → ∃ room t', Move t (.sink i (.offered e room)) t') ∧
      ∀ i s, t.logger.sinks[i]? = some s →
        (log.taken i ++ s.waiting).Sublist (log.wanted l) ∧
        log.offered i ++ t.pending i = log.wanted l ∧
        log.taken i ++ s.waiting = log.accepted i ∧
        (∀ before e room, before ++ [.sink i (.offered e room)] <+: log →
          ∃ u held, Run ⟨l, none⟩ before u ∧ u.logger.sinks[i]? = some held ∧
            (room = false ↔ held.waiting.length = 1000)) ∧
        Sink.serve { kind := s.kind } (log.schedule i) = (log.taken i, s) ∧
        ∀ rest t', Run t rest t' → t.call = none → t'.call = none → rest.taken i = [] →
          ∃ s', t'.logger.sinks[i]? = some s' ∧
            s'.waiting = s.waiting ++ (rest.wanted l).take (1000 - s.waiting.length) := by
  intro l
  refine ⟨h.frame.2, fun e i => h.exists_offer rfl, fun i s hs => ?_⟩
  have hi := (List.getElem?_eq_some_iff.mp hs).1
  obtain ⟨first, hfirst⟩ : ∃ first, l.sinks[i]? = some first :=
    ⟨_, List.getElem?_eq_getElem (by rwa [h.frame.2] at hi)⟩
  have hempty := Logger.waiting_of_mem_ofSettings (List.mem_of_getElem? hfirst)
  obtain ⟨s', hserved⟩ := h.exists_served hfirst
  obtain rfl := Option.some.inj (hs.symm.trans hserved.sink_eq)
  have haccount : log.accepted i = log.taken i ++ s.waiting := by
    have hall := hserved.became.account
    rw [hempty, List.nil_append] at hall
    exact hall
  have hoffers : log.wanted l = log.offered i ++ t.pending i := hserved.offers
  refine ⟨?_, hoffers.symm, haccount.symm, fun before e room hlog =>
    h.room_of_offered (fun _ => Logger.waiting_of_mem_ofSettings) hlog, ?_, ?_⟩
  · rw [← haccount, hoffers]
    exact (SinkEvent.accepted_sublist _).trans (List.sublist_append_left _ _)
  · have hfresh : first = { kind := s.kind } := by
      rw [hserved.became.kind_eq, ← hempty]
    rw [← hfresh]
    exact hserved.became.serve_eq
  · intro rest t' hrest hcall hcall' hquiet
    obtain ⟨s', hnext⟩ := hrest.exists_served hs
    have hwaiting := hnext.became.waiting_eq_of_quiet hquiet
    have hrestOffers := hnext.offers
    rw [pending_of_none hcall, pending_of_none hcall', List.nil_append, List.append_nil,
      FanoutLog.wanted_congr h.wants_eq] at hrestOffers
    refine ⟨s', hnext.sink_eq, ?_⟩
    rw [hrestOffers]
    exact hwaiting

/-- Of more entries than there is room for, the first are kept. -/
theorem fanout_spec_of_overflow : ∃ log t s,
    Run ⟨.ofSettings {} [.collector], none⟩ log t ∧
    log.calls = List.replicate 1001 ⟨[], .blocked, none, 0⟩ ∧ t.logger.sinks[1]? = some s ∧
    s.waiting = List.replicate 1000 ⟨[], .blocked, none, 0⟩ := by
  have hstart : Run ⟨.ofSettings {} [.collector], none⟩ [] _ := .start
  obtain ⟨log, hrun, hcalls, hquiet⟩ :=
    hstart.exists_calledAll (List.replicate 1001 ⟨[], .blocked, none, 0⟩)
  obtain ⟨-, -, hsinks⟩ := fanout_spec hstart
  obtain ⟨-, -, -, -, -, hnext⟩ := hsinks 1 ⟨.collector, []⟩ rfl
  obtain ⟨s, hs, hwaiting⟩ := hnext log _ hrun rfl rfl (hquiet 1)
  refine ⟨_, _, s, hrun, hcalls, hs, ?_⟩
  rw [hwaiting, FanoutLog.wanted, hcalls, List.filter_replicate, if_pos (by decide),
    List.take_replicate]
  rfl

end Fanout

end AdFilter
