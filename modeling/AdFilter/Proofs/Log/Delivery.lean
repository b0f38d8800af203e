import AdFilter.Proofs.Log.Fanout

/-!
# What comes out of the log

Consoles show the entries that they take, and collectors keep them. `Logger.HasNoted` relates what
has come out of a log to the entries with which it was called: there is a run that was called with
these entries, in their order, and in which the sinks have taken what has come out. It stays true
when the log is called again, when the sinks take what waits, and when something is shown that is no
decision.
-/

namespace AdFilter

/-- What a sink shows of an entry that it takes. -/
def SinkKind.shown : SinkKind → LogEntry → List LogEvent
  | console format, e => [.ofEntry format e]
  | collector, _ => []

/-- What a sink keeps of an entry that it takes. -/
def SinkKind.kept : SinkKind → LogEntry → List LogEntry
  | console _, _ => []
  | collector, e => [e]

theorem Sink.shows_eq (s : Sink) : s.shows = s.waiting.flatMap s.kind.shown := by
  obtain ⟨kind, waiting⟩ := s
  cases kind with
  | console format => exact List.map_eq_flatMap
  | collector => exact (List.flatMap_eq_nil_iff.mpr fun _ _ => rfl).symm

theorem Sink.keeps_eq (s : Sink) : s.keeps = s.waiting.flatMap s.kind.kept := by
  obtain ⟨kind, waiting⟩ := s
  cases kind with
  | console format => exact (List.flatMap_eq_nil_iff.mpr fun _ _ => rfl).symm
  | collector => exact (List.flatMap_singleton' waiting).symm

/-- Whether something that is shown is a decision. -/
def LogEvent.isDecision (x : LogEvent) : Bool := x.target = "decision".toList

theorem LogEvent.isDecision_ofEntry (format : Format) (e : LogEntry) :
    (ofEntry format e).isDecision = true := by
  cases format <;> exact decide_eq_true rfl

namespace FanoutLog

variable {α : Type} {f : SinkKind → LogEntry → List α} {kinds : List SinkKind}
  {log more : FanoutLog}

/-- What the sinks do with the entries that they take, if the sinks are of these kinds. -/
def given (f : SinkKind → LogEntry → List α) (kinds : List SinkKind) (log : FanoutLog) : List α :=
  log.flatMap fun
    | .sink i (.took e) => (kinds[i]?.map (f · e)).getD []
    | _ => []

theorem given_append : (log ++ more).given f kinds = log.given f kinds ++ more.given f kinds :=
  List.flatMap_append

/-- Whatever sinks show is a decision. -/
theorem filter_given_shown :
    (log.given SinkKind.shown kinds).filter LogEvent.isDecision =
      log.given SinkKind.shown kinds := by
  refine List.filter_eq_self.mpr fun x hx => ?_
  obtain ⟨y, -, hx⟩ := List.mem_flatMap.mp hx
  split at hx
  · rename_i i e
    generalize kinds[i]? = kind at hx
    rcases kind with _ | format | _
    · cases hx
    · rw [List.mem_singleton.mp hx]
      exact LogEvent.isDecision_ofEntry format e
    · cases hx
  · cases hx

end FanoutLog

namespace Logger

variable {α : Type} {f : SinkKind → LogEntry → List α} {l : Logger} {e : LogEntry}

def kinds (l : Logger) : List SinkKind := l.sinks.map Sink.kind

theorem kinds_log : (l.log e).kinds = l.kinds := by
  rw [log]
  split
  · rw [kinds, kinds, List.map_map]
    exact List.map_congr_left fun s _ => Sink.kind_push
  · rfl

theorem kinds_deliver : l.deliver.1.kinds = l.kinds := by
  rw [kinds, kinds, deliver, List.map_map]
  rfl

theorem given_offers (kinds : List SinkKind) : (l.offers e).given f kinds = [] := by
  refine List.flatMap_eq_nil_iff.mpr fun x hx => ?_
  rcases List.mem_cons.mp hx with rfl | hx
  · rfl
  · split at hx
    · obtain ⟨s, -, rfl⟩ := List.mem_map.mp hx
      rfl
    · cases hx

theorem given_takesFrom (before after : List Sink) :
    (takesFrom before.length after).given f ((before ++ after).map Sink.kind) =
      after.flatMap fun s => s.waiting.flatMap (f s.kind) := by
  induction after generalizing before with
  | nil => rfl
  | cons s after ih =>
    have hothers := ih (before ++ [s])
    rw [List.length_append, List.length_singleton, List.append_assoc, List.singleton_append]
      at hothers
    have hkind : ((before ++ s :: after).map Sink.kind)[before.length]? = some s.kind := by
      rw [List.getElem?_map, List.getElem?_append_right (Nat.le_refl _), Nat.sub_self]
      rfl
    have hself : FanoutLog.given f ((before ++ s :: after).map Sink.kind)
        (s.waiting.map fun e => .sink before.length (.took e)) = s.waiting.flatMap (f s.kind) := by
      rw [FanoutLog.given, List.flatMap_map]
      simp only [hkind]
      rfl
    rw [takesFrom, List.zipIdx_cons, List.flatMap_cons, FanoutLog.given_append, hself,
      List.flatMap_cons, ← hothers, takesFrom]

/-- What comes out of a log when all sinks take all that waits for them. -/
theorem deliver_snd (l : Logger) : l.deliver.2 =
    ⟨l.takes.given SinkKind.shown l.kinds, l.takes.given SinkKind.kept l.kinds⟩ := by
  have hshown := given_takesFrom (f := SinkKind.shown) [] l.sinks
  have hkept := given_takesFrom (f := SinkKind.kept) [] l.sinks
  have hshows : l.sinks.flatMap Sink.shows = l.takes.given SinkKind.shown l.kinds :=
    (congrArg (l.sinks.flatMap ·) (funext Sink.shows_eq)).trans hshown.symm
  have hkeeps : l.sinks.flatMap Sink.keeps = l.takes.given SinkKind.kept l.kinds :=
    (congrArg (l.sinks.flatMap ·) (funext Sink.keeps_eq)).trans hkept.symm
  rw [deliver, hshows, hkeeps]

/-- What is true of a log that was another one when it was called with some entries, one after the
other, and of what has come out since. -/
def HasNoted (l : Logger) (es : List LogEntry) (out : Delivery) (l' : Logger) : Prop :=
  ∃ log, Fanout.Run ⟨l, none⟩ log ⟨l', none⟩ ∧ log.calls = es ∧ l'.kinds = l.kinds ∧
    out.shown.filter LogEvent.isDecision = log.given SinkKind.shown l.kinds ∧
    out.kept = log.given SinkKind.kept l.kinds

namespace HasNoted

variable {l' : Logger} {es : List LogEntry} {out : Delivery} {x : LogEvent}

theorem refl (l : Logger) : l.HasNoted [] {} l := ⟨[], .start, rfl, rfl, rfl, rfl⟩

theorem log (h : l.HasNoted es out l') (e : LogEntry) : l.HasNoted (es ++ [e]) out (l'.log e) := by
  obtain ⟨log, hrun, hcalls, hkinds, hshown, hkept⟩ := h
  refine ⟨_, hrun.called e, ?_, kinds_log.trans hkinds, ?_, ?_⟩
  · rw [FanoutLog.calls_append, hcalls, calls_offers]
  · rw [FanoutLog.given_append, given_offers, List.append_nil, hshown]
  · rw [FanoutLog.given_append, given_offers, List.append_nil, hkept]

theorem deliver (h : l.HasNoted es out l') :
    l.HasNoted es ⟨out.shown ++ l'.deliver.2.shown, out.kept ++ l'.deliver.2.kept⟩
      l'.deliver.1 := by
  obtain ⟨log, hrun, hcalls, hkinds, hshown, hkept⟩ := h
  refine ⟨_, hrun.delivered, ?_, kinds_deliver.trans hkinds, ?_, ?_⟩
  · rw [FanoutLog.calls_append, hcalls, calls_takes, List.append_nil]
  · rw [FanoutLog.given_append, List.filter_append, hshown, deliver_snd, hkinds,
      FanoutLog.filter_given_shown]
  · rw [FanoutLog.given_append, hkept, deliver_snd, hkinds]

theorem reported (h : l.HasNoted es out l') (hx : x.isDecision = false) :
    l.HasNoted es { out with shown := out.shown ++ [x] } l' := by
  obtain ⟨log, hrun, hcalls, hkinds, hshown, hkept⟩ := h
  refine ⟨log, hrun, hcalls, hkinds, ?_, hkept⟩
  have hnone : [x].filter LogEvent.isDecision = [] := List.filter_cons_of_neg (by rw [hx]; decide)
  rw [List.filter_append, hnone, List.append_nil, hshown]

end HasNoted

end Logger

end AdFilter
