import AdFilter.Proofs.Engine.Operation
import AdFilter.Proofs.Rule.NormalForm

/-!
# Decisions after any run

What a check answers after any run of an engine is read off the history of the run: the critical
tables first, then the stored domains, then the offered patterns. `check_eq_iff_firstMatch` says so
for every run and every text that may be asked about.
-/

namespace AdFilter

open Text

/-! ## The first match -/

/-- All stages that look at a request: those of the fixed tables, then those of a history. -/
def cascade (history : List RuleChange) : List Stage :=
  Stage.critical ++ Stage.stored (Stored history) (offered history)

/-- What has to be answered about a text. While blocking is active and the text is an address, the
first stage that has a reason decides; otherwise there is no reason. -/
def FirstMatch (history : List RuleChange) (active : Bool) (url : List Char) (o : Option Reason) :
    Prop :=
  match active, Request.ofText? url with
  | true, some r => FirstStage (cascade history) r o
  | _, _ => o = none

/-- The judgement by rules is the first match by the history that the rules come from. -/
theorem Engine.reason?_eq_iff_firstMatch (e : Engine) {history : List RuleChange}
    (hrules : e.rules = RuleSet.ofHistory history) (url : List Char) (o : Option Reason) :
    e.reason? url = o ↔ FirstMatch history true url o := by
  unfold FirstMatch
  rw [Engine.reason?]
  rcases hr : Request.ofText? url with _ | r
  · exact eq_comm
  · -- the critical tables do not hang on the history, and the rules are what it makes of them
    have hstored : Follows (e.rules.reason? r)
        (Stage.stored (Stored history) (offered history)) r := by
      rw [hrules]
      exact follows_history (Request.ne_nil_of_isBelow hr)
    exact (follows_critical r).or hstored o

namespace System

/-- The changes of a run from the very beginning, the first rules among them. -/
def fullHistory (s : System) (ops : List Operation) : List RuleChange :=
  firstChange :: s.history ops

theorem rules_eq_fullHistory {settings : Settings} {files : Files} {web : Web} {clock : Clock}
    {logger : Option Logger} {reporter : Option Reporter} (ops : List Operation) :
    ((build settings files web clock logger reporter).performAll ops).engine.rules =
      RuleSet.ofHistory ((build settings files web clock logger reporter).fullHistory ops) := by
  rw [performAll_rules, build_rules, ← RuleSet.changeAll_append]
  rfl

/-- The answer of a check after a run is the first match by the history of the run. -/
theorem check_eq_iff_firstMatch (settings : Settings) (files : Files) (web : Web) (clock : Clock)
    (logger : Option Logger) (reporter : Option Reporter) (ops : List Operation)
    (url : List Char) (o : Option Reason) :
    let start := build settings files web clock logger reporter
    let s := start.performAll ops
    (s.check url).1 = o ↔
      FirstMatch (start.fullHistory ops) s.isActive url o := by
  intro start s
  have hrules : s.engine.rules = RuleSet.ofHistory (start.fullHistory ops) :=
    rules_eq_fullHistory ops
  have hcheck : (s.check url).1 = s.engine.decide? s.clock.now url := rfl
  rw [hcheck, Engine.decide?, isActive]
  rcases s.engine.toggle.isActive s.clock.now with _ | _
  · exact eq_comm
  · rw [if_pos rfl]
    exact s.engine.reason?_eq_iff_firstMatch hrules url o

end System

end AdFilter
