import AdFilter.Proofs.Engine.Decision

/-!
# Verdicts on navigations after any run

A navigation is judged by the same first match as a request, and where no rule matches by the words
in its address. Whether blocking is on, pauses or what time it is does not count: the switch only
decides whether requests are told what navigations are told (`System.navigate_spec`).
-/

namespace AdFilter

open Text

/-- What has to become of a navigation by a history. Where no stage has a reason, the first of the
words that is in the address decides, whether the address can be read or not. -/
def IsVerdict (history : List RuleChange) (url : List Char) : Verdict → Prop
  | .suppress (.blocked r) => FirstMatch history true url (some r)
  | .suppress (.popupIndicator i) =>
    FirstMatch history true url none ∧ IsFirst (· <:+: lower url) BuiltIn.popupIndicators i
  | .redirect =>
    FirstMatch history true url none ∧ ∀ i ∈ BuiltIn.popupIndicators, ¬ i <:+: lower url

theorem popupIndicator?_eq_some_iff {url i : List Char} :
    popupIndicator? url = some i ↔ IsFirst (· <:+: lower url) BuiltIn.popupIndicators i := by
  rw [popupIndicator?, find?_eq_some_iff_isFirst]
  simp only [occursIn_iff]

theorem popupIndicator?_eq_none_iff {url : List Char} :
    popupIndicator? url = none ↔ ∀ i ∈ BuiltIn.popupIndicators, ¬ i <:+: lower url := by
  rw [popupIndicator?, List.find?_eq_none]
  simp only [occursIn_iff]

namespace Engine

variable {e : Engine} {url : List Char}

theorem verdict_eq_blocked_iff {r : Reason} :
    e.verdict url = .suppress (.blocked r) ↔ e.reason? url = some r := by
  rw [verdict]
  rcases e.reason? url with _ | w
  · rcases popupIndicator? url with _ | i
    · simp
    · simp
  · simp

theorem verdict_eq_popupIndicator_iff {i : List Char} :
    e.verdict url = .suppress (.popupIndicator i) ↔
      e.reason? url = none ∧ popupIndicator? url = some i := by
  rw [verdict]
  rcases e.reason? url with _ | w
  · rcases popupIndicator? url with _ | j
    · simp
    · simp
  · simp

theorem verdict_eq_redirect_iff :
    e.verdict url = .redirect ↔ e.reason? url = none ∧ popupIndicator? url = none := by
  rw [verdict]
  rcases e.reason? url with _ | w
  · rcases popupIndicator? url with _ | j
    · simp
    · simp
  · simp

/-- The judgement on a navigation is the verdict by the history that the rules come from. -/
theorem verdict_eq_iff_isVerdict {history : List RuleChange}
    (hrules : e.rules = RuleSet.ofHistory history) (v : Verdict) :
    e.verdict url = v ↔ IsVerdict history url v := by
  have hreason := e.reason?_eq_iff_firstMatch hrules url
  rcases v with (r | i) | _
  · rw [verdict_eq_blocked_iff, hreason, IsVerdict]
  · rw [verdict_eq_popupIndicator_iff, hreason, popupIndicator?_eq_some_iff, IsVerdict]
  · rw [verdict_eq_redirect_iff, hreason, popupIndicator?_eq_none_iff, IsVerdict]

/-- A request is told what blocks the navigation to its address, while blocking is active. -/
theorem decide?_eq_some_iff {now : Nat} {r : Reason} :
    e.decide? now url = some r ↔
      e.toggle.isActive now = true ∧ e.verdict url = .suppress (.blocked r) := by
  rw [decide?, Option.ite_none_right_eq_some, verdict_eq_blocked_iff]

end Engine

/-- After any run, a navigation gets the verdict by the history of the run. It would get the same
with any other switch and at any other time, and a check gives a reason just if blocking is active
and the navigation is blocked for that reason. -/
theorem System.navigate_spec (settings : Settings) (files : Files) (web : Web) (clock : Clock)
    (logger : Option Logger) (reporter : Option Reporter) (ops : List Operation)
    (url : List Char) :
    let start := build settings files web clock logger reporter
    let s := start.performAll ops
    (∀ v, (s.navigate url).1 = v ↔ IsVerdict (start.fullHistory ops) url v) ∧
      (∀ (toggle : Toggle) (time : Clock),
        ((({ s with clock := time } : System).withToggle toggle).navigate url).1 =
          (s.navigate url).1) ∧
      ∀ r, (s.check url).1 = some r ↔
        s.isActive = true ∧ (s.navigate url).1 = .suppress (.blocked r) := by
  intro start s
  have hrules : s.engine.rules = RuleSet.ofHistory (start.fullHistory ops) :=
    rules_eq_fullHistory ops
  refine ⟨fun v => Engine.verdict_eq_iff_isVerdict hrules v, ?_, fun r => ?_⟩
  · -- the verdict looks at the rules only
    intro toggle time
    rfl
  · exact Engine.decide?_eq_some_iff

end AdFilter
