import AdFilter.Fetch.Pass
import AdFilter.Proofs.Rule.History

/-!
# What a pass brings in

A step of a refresh pass may bring in the text of one list: from the cache, from the network, or
from an older file that has to do. `Pass.stepText?` tells which text that is, and `Pass.step_rules`
that its rules, and nothing else, go into the set.
-/

namespace AdFilter

namespace Pass

/-- The text that a list has when it is taken into work: that of a file that is young enough. -/
def beginText? (f : Fetcher) (now : Moment) (s : Source) (st : Stock) : Option (List Char) :=
  if Cache.needsRefresh st.files now.wall (f.cachePath s) then none
  else st.files.readText? (f.cachePath s)

/-- The text that an attempt comes by: the answer, or, when no attempt is left, that of the file. -/
def attemptText? (f : Fetcher) (now : Moment) (j : Job) (st : Stock) : Option (List Char) :=
  match (st.web.call now.timer j.source.url).1 with
  | .ok text => some text
  | .error e =>
    if e.isTransient && j.attempt < Fetcher.attempts then none
    else st.files.readText? (f.cachePath j.source)

/-- The text that the attempt due first comes by. -/
def nextText? (f : Fetcher) (now : Moment) (p : Pass) (st : Stock) : Option (List Char) :=
  (earliest? p.running).bind fun (j, _) => attemptText? f now j st

/-- The text that a step comes by. -/
def stepText? (f : Fetcher) (now : Moment) (p : Pass) (st : Stock) : Option (List Char) :=
  match p.waiting with
  | s :: _ => if p.running.length < f.limit then beginText? f now s st else nextText? f now p st
  | [] => nextText? f now p st

/-- The changes to the rules that a step makes. -/
def stepChanges (f : Fetcher) (now : Moment) (p : Pass) (st : Stock) : List RuleChange :=
  ((stepText? f now p st).map fun text => .apply (FilterList.ofText text)).toList

/-- The set with the rules of a text in it, if there is one. -/
def withText (s : RuleSet) : Option (List Char) → RuleSet
  | some text => s.apply (Batch.ofList (FilterList.ofText text))
  | none => s

theorem giveUp_rules (f : Fetcher) (s : Source) (st : Stock) :
    (giveUp f s st).2.rules = withText st.rules (st.files.readText? (f.cachePath s)) := by
  rw [giveUp]
  rcases st.files.readText? (f.cachePath s) with _ | text <;> rfl

theorem begin_rules (f : Fetcher) (now : Moment) (s : Source) (st : Stock) :
    (begin f now s st).2.rules = withText st.rules (beginText? f now s st) := by
  rw [begin, beginText?]
  rcases (if Cache.needsRefresh st.files now.wall (f.cachePath s) then none
    else st.files.readText? (f.cachePath s)) with _ | text <;> rfl

theorem attempt_rules (f : Fetcher) (now : Moment) (j : Job) (st : Stock) :
    (attempt f now j st).2.rules = withText st.rules (attemptText? f now j st) := by
  rw [attempt, attemptText?]
  rcases st.web.call now.timer j.source.url with ⟨answer, web⟩
  rcases answer with e | text
  · dsimp only
    split
    · rfl
    · exact giveUp_rules f j.source { st with web := web }
  · rfl

theorem next_rules (f : Fetcher) (now : Moment) (p : Pass) (st : Stock) :
    (step.next f now p st).2.rules = withText st.rules (nextText? f now p st) := by
  rw [step.next, nextText?]
  rcases earliest? p.running with _ | ⟨j, running⟩
  · rfl
  · exact attempt_rules f now j st

/-- A step puts the rules of the text that it comes by into the set. -/
theorem step_rules (f : Fetcher) (now : Moment) (p : Pass) (st : Stock) :
    (step f now p st).2.rules = st.rules.changeAll (stepChanges f now p st) := by
  have hstep : (step f now p st).2.rules = withText st.rules (stepText? f now p st) := by
    -- a list that waits is taken into work while there is room, and otherwise a call is made
    rw [step, stepText?]
    rcases p.waiting with _ | ⟨s, waiting⟩
    · exact next_rules f now p st
    · dsimp only
      split
      · exact begin_rules f now s st
      · exact next_rules f now p st
  rw [hstep, stepChanges]
  rcases stepText? f now p st with _ | text <;> rfl

end Pass

end AdFilter
