import AdFilter.Proofs.Engine.Decision
import AdFilter.Proofs.Rule.Finding

/-!
# The table of critical domains is a fast path

The critical domains are looked up in a table of their own, and they are in the set from the start.
As long as none of them is removed, the table finds no host that the set would not find: where it
answers, the set answers with the host or a domain above it (`System.reason?_of_criticalDomain`).
So the step of the cascade that looks at the table could be left out without a request or a
navigation faring otherwise (`System.fastPath_spec`).
-/

namespace AdFilter

open Text

/-! ## The cascade without the table -/

/-- The critical marker that blocks a request. -/
def markerReason? (r : Request) : Option Reason :=
  (BuiltIn.criticalMarkers.find? (occursIn · r.url)).map .criticalMarker

namespace Engine

/-- The rule that blocks an address, the table of critical domains left out. -/
def plainReason? (e : Engine) (url : List Char) : Option Reason := do
  let r ← Request.ofText? url
  (markerReason? r).or (e.rules.reason? r)

/-- Why a request is blocked now, the table left out. -/
def plainDecide? (e : Engine) (now : Nat) (url : List Char) : Option Reason :=
  if e.toggle.isActive now then e.plainReason? url else none

/-- What becomes of a navigation, the table left out. -/
def plainVerdict (e : Engine) (url : List Char) : Verdict :=
  match e.plainReason? url with
  | some r => .suppress (.blocked r)
  | none => match popupIndicator? url with
    | some i => .suppress (.popupIndicator i)
    | none => .redirect

end Engine

/-- Whether an operation does not remove a critical domain. -/
def Operation.SparesCritical (op : Operation) : Prop :=
  match op with
  | .change (.removeDomain d) => normalDomain d ∉ BuiltIn.criticalDomains
  | _ => True

/-! ## What the table finds -/

variable {r : Request} {d : List Char}

/-- The table names a domain that is in it and that the host belongs to. -/
theorem belongsTo_of_criticalReason? (h : criticalReason? r = some (.criticalDomain d)) :
    r.host ≠ [] ∧ d ∈ BuiltIn.criticalDomains ∧ BelongsTo r.host d := by
  rcases (follows_critical r _).mp h with ⟨w, ⟨x, rfl, hhost, hfirst⟩, hw⟩ | ⟨-, hrest⟩
  · cases hw
    obtain ⟨before, after, hsplit, hbelongs, -⟩ := hfirst
    refine ⟨hhost, ?_, hbelongs⟩
    rw [hsplit]
    exact List.mem_append_right _ (List.mem_cons_self ..)
  · -- a marker is no domain
    rcases hrest with ⟨w, ⟨m, rfl, -⟩, hw⟩ | ⟨-, hnone⟩
    · cases hw
    · cases hnone

/-- Where the table has no answer, the critical rules are the markers. -/
theorem criticalReason?_cases (r : Request) :
    (∃ d, criticalReason? r = some (.criticalDomain d)) ∨
      criticalReason? r = markerReason? r := by
  rw [criticalReason?, markerReason?]
  rcases (if r.host.isEmpty then none
    else BuiltIn.criticalDomains.find? (isSameOrSubdomain r.host)) with _ | d
  · exact Or.inr rfl
  · exact Or.inl ⟨d, rfl⟩

theorem lower_of_mem_criticalDomains : ∀ d ∈ BuiltIn.criticalDomains, lower d = d := by
  decide

theorem ne_nil_of_mem_criticalDomains : ∀ d ∈ BuiltIn.criticalDomains, d ≠ [] := by
  decide

/-- A set that holds all critical domains answers with a domain where the table does. -/
theorem RuleSet.reason?_of_criticalDomain {s : RuleSet}
    (hs : ∀ d ∈ BuiltIn.criticalDomains, d ∈ s.domains)
    (h : criticalReason? r = some (.criticalDomain d)) :
    s.reason? r = some .domain ∨ ∃ p, s.reason? r = some (.subdomain p) := by
  obtain ⟨hhost, hd, hbelongs⟩ := belongsTo_of_criticalReason? h
  have hsome : (s.domainReason? r).isSome = true := by
    rw [isSome_domainReason?_iff]
    rcases hbelongs with heq | hbelow
    · exact Or.inl ⟨hhost, heq ▸ hs d hd⟩
    · exact Or.inr ⟨d, hs d hd, ne_nil_of_mem_criticalDomains d hd, hbelow⟩
  obtain ⟨w, hw⟩ := Option.isSome_iff_exists.mp hsome
  rw [reason?_eq_or, hw, Option.some_or]
  exact (domainReason?_cases hw).imp (congrArg some) fun ⟨p, hp⟩ => ⟨p, congrArg some hp⟩

/-- The judgement of such a set and of the markers blocks the same requests with the table and
without. -/
theorem RuleSet.isSome_plain {s : RuleSet} (hs : ∀ d ∈ BuiltIn.criticalDomains, d ∈ s.domains)
    (r : Request) :
    ((markerReason? r).or (s.reason? r)).isSome =
      ((criticalReason? r).or (s.reason? r)).isSome := by
  rcases criticalReason?_cases r with ⟨d, hd⟩ | hmarker
  · -- the table has an answer, and so has the set
    have hset : (s.reason? r).isSome = true := by
      rcases reason?_of_criticalDomain hs hd with h | ⟨p, h⟩ <;> rw [h] <;> rfl
    rw [Option.isSome_or, Option.isSome_or, hset, Bool.or_true, Bool.or_true]
  · rw [hmarker]

namespace Engine

variable {e : Engine} {url : List Char}

theorem isSome_plainReason? (he : ∀ d ∈ BuiltIn.criticalDomains, d ∈ e.rules.domains) :
    (e.plainReason? url).isSome = (e.reason? url).isSome := by
  rw [plainReason?, reason?]
  rcases Request.ofText? url with _ | r
  · rfl
  · exact RuleSet.isSome_plain he r

theorem isSome_plainDecide? (he : ∀ d ∈ BuiltIn.criticalDomains, d ∈ e.rules.domains)
    (now : Nat) : (e.plainDecide? now url).isSome = (e.decide? now url).isSome := by
  rw [plainDecide?, decide?]
  split
  · exact isSome_plainReason? he
  · rfl

theorem isSuppressed_plainVerdict (he : ∀ d ∈ BuiltIn.criticalDomains, d ∈ e.rules.domains) :
    (e.plainVerdict url).isSuppressed = (e.verdict url).isSuppressed := by
  have hsame : (e.plainReason? url).isSome = (e.reason? url).isSome := isSome_plainReason? he
  rw [plainVerdict, verdict]
  rcases hplain : e.plainReason? url with _ | w
  · have hnone : e.reason? url = none := by
      rwa [hplain, Option.isSome_none, eq_comm, Option.isSome_eq_false_iff,
        Option.isNone_iff_eq_none] at hsame
    cases popupIndicator? url <;> simp only [hnone]
  · obtain ⟨v, hsome⟩ : ∃ v, e.reason? url = some v := by
      rwa [hplain, Option.isSome_some, eq_comm, Option.isSome_iff_exists] at hsame
    simp only [hsome, Verdict.isSuppressed]

end Engine

/-! ## Any run -/

namespace System

/-- The critical domains are stored by any history that begins with the first rules and removes none
of them. -/
theorem stored_critical {history : List RuleChange} {d : List Char}
    (hd : d ∈ BuiltIn.criticalDomains) (hkept : ∀ c ∈ history, ¬ c.Removes d) :
    Stored (firstChange :: history) d :=
  ⟨[], firstChange, history, rfl, ⟨d, hd, lower_of_mem_criticalDomains d hd⟩, hkept⟩

/-- An operation that spares the critical domains makes no change that removes one. -/
theorem not_removes_of_sparesCritical {s : System} {ops : List Operation}
    (hops : ∀ op ∈ ops, op.SparesCritical) {d : List Char} (hd : d ∈ BuiltIn.criticalDomains) :
    ∀ c ∈ s.history ops, ¬ c.Removes d := by
  intro c hc hremoves
  rcases isLoad_of_mem_history hc with hop | rfl | ⟨text, rfl | rfl⟩
  · -- made by hand: it can only be a removal of another domain
    have hspares := hops _ hop
    cases c with
    | removeDomain x =>
      have hx : normalDomain x = d := hremoves
      exact hspares (hx ▸ hd)
    | addDomain x => cases hremoves
    | addPattern source => cases hremoves
    | apply l => cases hremoves
  · cases hremoves
  · cases hremoves
  · cases hremoves

/-- After any run that spares them, all critical domains are in the set. -/
theorem mem_domains_of_critical (settings : Settings) (files : Files) (web : Web) (clock : Clock)
    (logger : Option Logger) (reporter : Option Reporter) {ops : List Operation}
    (hops : ∀ op ∈ ops, op.SparesCritical) :
    ∀ d ∈ BuiltIn.criticalDomains, d ∈ ((build settings files web clock logger
      reporter).performAll ops).engine.rules.domains := by
  intro d hd
  rw [rules_eq_fullHistory, RuleSet.mem_ofHistory]
  exact stored_critical hd (not_removes_of_sparesCritical hops hd)

/-- After any run that removes no critical domain, the set answers with a domain to every request to
which the table of critical domains has an answer. Without the table the same requests would be
blocked, and the same navigations dropped. -/
theorem fastPath_spec (settings : Settings) (files : Files) (web : Web) (clock : Clock)
    (logger : Option Logger) (reporter : Option Reporter) {ops : List Operation}
    (hops : ∀ op ∈ ops, op.SparesCritical) :
    let s := (build settings files web clock logger reporter).performAll ops
    (∀ r d, criticalReason? r = some (.criticalDomain d) →
      s.engine.rules.reason? r = some .domain ∨
        ∃ p, s.engine.rules.reason? r = some (.subdomain p)) ∧
    ∀ url, (s.engine.plainDecide? s.clock.now url).isSome = (s.check url).1.isSome ∧
      (s.engine.plainVerdict url).isSuppressed = (s.navigate url).1.isSuppressed := by
  intro s
  have hs := mem_domains_of_critical settings files web clock logger reporter hops
  exact ⟨fun r d h => RuleSet.reason?_of_criticalDomain hs h,
    fun url => ⟨Engine.isSome_plainDecide? hs _, Engine.isSuppressed_plainVerdict hs⟩⟩

/-- Other domains may be removed, also one that is above a critical domain. -/
theorem fastPath_spec_of_removal :
    let s := (build {} {} { otherwise := .status 404 }
      { wall := fun t => t, steady := id }).performAll
        [.change (.addDomain "net".toList), .change (.removeDomain "net".toList), .refresh]
    ∀ url, (s.engine.plainDecide? s.clock.now url).isSome = (s.check url).1.isSome := by
  intro s url
  have hops : ∀ op ∈ [Operation.change (.addDomain "net".toList),
      .change (.removeDomain "net".toList), .refresh], op.SparesCritical := by
    intro op hop
    simp only [List.mem_cons, List.not_mem_nil, or_false] at hop
    rcases hop with rfl | rfl | rfl
    · exact trivial
    · have hother : normalDomain "net".toList ∉ BuiltIn.criticalDomains := by
        decide
      exact hother
    · exact trivial
  have hspec := fastPath_spec {} {} { otherwise := .status 404 }
    { wall := fun t => t, steady := id } none none hops
  exact (hspec.2 url).1

end System

end AdFilter
