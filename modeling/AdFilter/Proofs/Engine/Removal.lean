import AdFilter.Proofs.Engine.Decision
import AdFilter.Proofs.Engine.Persistence

/-!
# After a domain is removed

No record is kept of what was removed: a domain that the user removes stays out of the set until a
list that names it is loaded again, from the user's overrides, the built-in rules or the text of a
remote list. `System.removeDomain_spec` says so for whatever happens after the removal, and
`System.check_of_reloaded` is a list whose next pass brings the domain back.
-/

namespace AdFilter

open Text

/-- Whether a list names a domain. -/
def FilterList.Names (l : FilterList) (d : List Char) : Prop := ∃ x ∈ l.domains, lower x = d

instance (l : FilterList) (d : List Char) : Decidable (l.Names d) :=
  inferInstanceAs (Decidable (∃ x ∈ l.domains, lower x = d))

/-- The list of a change that applies one. -/
def RuleChange.list? : RuleChange → Option FilterList
  | .apply l => some l
  | _ => none

/-- Whether an operation neither puts a domain in by hand nor removes it. -/
def Operation.LeavesAlone (op : Operation) (d : List Char) : Prop :=
  match op with
  | .change c => ¬ c.Puts d ∧ ¬ c.Removes d
  | _ => True

/-! ## Judging a host that is stored or not -/

/-- The critical rules have reasons of their own. -/
theorem criticalReason?_ne_domain (r : Request) : criticalReason? r ≠ some .domain := by
  rw [criticalReason?]
  rcases (if r.host.isEmpty then none
    else BuiltIn.criticalDomains.find? (isSameOrSubdomain r.host)) with _ | d
  · rw [Ne, Option.map_eq_some_iff]
    rintro ⟨m, -, hm⟩
    cases hm
  · intro h
    cases h

namespace System

variable {s : System}

/-- A check names the host itself if it is stored and no critical rule comes first. -/
theorem check_eq_domain_iff {url : List Char} {r : Request} (hr : Request.ofText? url = some r) :
    (s.check url).1 = some .domain ↔ s.isActive = true ∧ criticalReason? r = none ∧
      r.host ≠ [] ∧ r.host ∈ s.engine.rules.domains := by
  have hcheck : (s.check url).1 = s.engine.decide? s.clock.now url := rfl
  rw [hcheck, Engine.decide?, isActive, ← RuleSet.reason?_eq_domain_iff]
  rcases s.engine.toggle.isActive s.clock.now with _ | _
  · simp
  · rw [if_pos rfl, Engine.reason?, hr, Option.bind_eq_bind, Option.bind_some]
    rcases hcritical : criticalReason? r with _ | w
    · simp
    · rw [Option.some_or]
      constructor
      · intro h
        rw [h] at hcritical
        exact absurd hcritical (criticalReason?_ne_domain r)
      · rintro ⟨-, hnone, -⟩
        cases hnone

/-! ## What is loaded -/

/-- The lists that operations load, one after the other. -/
def loaded (s : System) (ops : List Operation) : List FilterList :=
  (s.history ops).filterMap RuleChange.list?

theorem mem_loaded {ops : List Operation} {l : FilterList} :
    l ∈ s.loaded ops ↔ .apply l ∈ s.history ops := by
  rw [loaded, List.mem_filterMap]
  constructor
  · rintro ⟨c, hc, hl⟩
    cases c with
    | apply k =>
      cases hl
      exact hc
    | addDomain x => cases hl
    | removeDomain x => cases hl
    | addPattern source => cases hl
  · intro h
    exact ⟨_, h, rfl⟩

/-- Nothing but a list puts a domain back that is left alone, and nothing removes it. -/
theorem puts_and_removes_of_leavesAlone {ops : List Operation} {d : List Char}
    (hops : ∀ op ∈ ops, op.LeavesAlone d) :
    ((∃ c ∈ s.history ops, c.Puts d) ↔ ∃ l ∈ s.loaded ops, l.Names d) ∧
      ∀ c ∈ s.history ops, ¬ c.Removes d := by
  constructor
  · constructor
    · rintro ⟨c, hc, hputs⟩
      rcases isLoad_of_mem_history hc with hop | rfl | ⟨text, rfl | rfl⟩
      · exact absurd hputs (hops _ hop).1
      · exact ⟨_, mem_loaded.mpr hc, hputs⟩
      · exact ⟨_, mem_loaded.mpr hc, hputs⟩
      · exact ⟨_, mem_loaded.mpr hc, hputs⟩
    · rintro ⟨l, hl, hnames⟩
      exact ⟨_, mem_loaded.mp hl, hnames⟩
  · intro c hc
    rcases isLoad_of_mem_history hc with hop | hload
    · exact (hops _ hop).2
    · rcases hload with rfl | ⟨text, rfl | rfl⟩ <;> exact id

/-- After its removal a domain is stored if a list loaded since names it, as long as it is left
alone by hand. -/
theorem mem_domains_after_removal (settings : Settings) (files : Files) (web : Web) (clock : Clock)
    (logger : Option Logger) (reporter : Option Reporter) (before after : List Operation)
    {d : List Char} (hafter : ∀ op ∈ after, op.LeavesAlone (normalDomain d)) :
    let s := (build settings files web clock logger reporter).performAll before
    let t := s.perform (.change (.removeDomain d))
    normalDomain d ∈ (t.performAll after).engine.rules.domains ↔
      ∃ l ∈ t.loaded after, l.Names (normalDomain d) := by
  intro s t
  have hs : s.engine.rules = RuleSet.ofHistory _ := rules_eq_fullHistory before
  have ht : t.engine.rules = s.engine.rules.change (.removeDomain d) := rfl
  have hrules := performAll_rules t after
  rw [ht, hs, ← RuleSet.ofHistory_concat, RuleSet.ofHistory, ← RuleSet.changeAll_append,
    ← RuleSet.ofHistory] at hrules
  obtain ⟨hputs, hremoves⟩ := puts_and_removes_of_leavesAlone (s := t) hafter
  rw [hrules, RuleSet.mem_ofHistory, stored_append, stored_iff_exists_puts hremoves, hputs]
  -- right after the removal the domain is not stored
  rw [or_iff_left_iff_imp, stored_concat]
  rintro ⟨hputs | ⟨-, hkept⟩, -⟩
  · cases hputs
  · exact absurd rfl hkept

/-- What becomes of a domain after it is removed, whatever happens next but to that domain by hand.
A check of an address with this host names the host itself if, and only if, a list that was loaded
since names it and no critical rule comes first; every such list was loaded by the engine itself or
applied by hand. As long as no list has named the domain, the address is blocked only by a critical
rule, a domain above the host, or a pattern. -/
theorem removeDomain_spec (settings : Settings) (files : Files) (web : Web) (clock : Clock)
    (logger : Option Logger) (reporter : Option Reporter) (before after : List Operation)
    {d : List Char} (hafter : ∀ op ∈ after, op.LeavesAlone (normalDomain d))
    {url : List Char} {r : Request} (hr : Request.ofText? url = some r)
    (hhost : r.host = normalDomain d) :
    let s := (build settings files web clock logger reporter).performAll before
    let t := s.perform (.change (.removeDomain d))
    let u := t.performAll after
    ((u.check url).1 = some .domain ↔ u.isActive = true ∧ criticalReason? r = none ∧
      normalDomain d ≠ [] ∧ ∃ l ∈ t.loaded after, l.Names (normalDomain d)) ∧
    (∀ l ∈ t.loaded after, (RuleChange.apply l).IsLoad ∨ .change (.apply l) ∈ after) ∧
    ((∀ l ∈ t.loaded after, ¬ l.Names (normalDomain d)) →
      (u.blocks url = true ↔ u.isActive = true ∧ ((criticalReason? r).isSome = true ∨
        (∃ p ∈ u.engine.rules.domains, p ≠ [] ∧ IsBelow r.host p) ∨
        ∃ p ∈ u.engine.rules.patterns, p.pattern.occursIn r.url = true))) := by
  intro s t u
  have hmem : r.host ∈ u.engine.rules.domains ↔ ∃ l ∈ t.loaded after, l.Names (normalDomain d) := by
    rw [hhost]
    exact mem_domains_after_removal settings files web clock logger reporter before after hafter
  refine ⟨?_, ?_, ?_⟩
  · rw [check_eq_domain_iff hr, hmem, hhost]
  · intro l hl
    exact (isLoad_of_mem_history (mem_loaded.mp hl)).symm
  · intro hnone
    have hgone : r.host ∉ u.engine.rules.domains := by
      rw [hmem]
      rintro ⟨l, hl, hnames⟩
      exact hnone l hl hnames
    rw [blocks_iff]
    constructor
    · rintro ⟨hactive, q, hq, hreason⟩
      rw [hr] at hq
      cases hq
      refine ⟨hactive, hreason.imp_right fun hrules => ?_⟩
      rcases RuleSet.isSome_reason?_iff.mp hrules with ⟨-, hstored⟩ | hother
      · exact absurd hstored hgone
      · exact hother
    · rintro ⟨hactive, hreason⟩
      exact ⟨hactive, r, hr, hreason.imp_right fun h => RuleSet.isSome_reason?_iff.mpr (Or.inr h)⟩

/-- An engine with one remote list, which names a single domain. -/
def subscribed : System :=
  build { sources := [("ads".toList, "https://lists.example/ads.txt".toList)] } {}
    { pending := [("https://lists.example/ads.txt".toList,
        [.ok "0.0.0.0 shop.example.org".toList])]
      otherwise := .status 404 }
    { wall := fun t => t, steady := id }

/-- The same after the list has come in and the user has removed the domain. -/
def unsubscribed : System :=
  (subscribed.perform .refresh).perform (.change (.removeDomain "shop.example.org".toList))

theorem ofText?_shop : Request.ofText? "https://shop.example.org/x".toList =
    some ⟨"shop.example.org".toList, "https://shop.example.org/x".toList⟩ := by
  decide +kernel

/-- While the list cannot be had, the domain stays out of the set, whatever else is done. -/
theorem removeDomain_spec_of_failed :
    let after := [.setEnabled false, .surround {} { otherwise := .unexpected [] }, .refresh,
      .setEnabled true]
    ((unsubscribed.performAll after).check "https://shop.example.org/x".toList).1 ≠
      some .domain := by
  intro after
  have hafter : ∀ op ∈ after, op.LeavesAlone (normalDomain "shop.example.org".toList) := by
    intro op hop
    simp only [after, List.mem_cons, List.not_mem_nil, or_false] at hop
    rcases hop with rfl | rfl | rfl | rfl <;> exact trivial
  have hloaded : unsubscribed.loaded after = [] := by
    decide +kernel
  obtain ⟨hdomain, -, -⟩ := removeDomain_spec _ _ _ _ none none [.refresh] after hafter ofText?_shop
    (by decide)
  intro hcheck
  obtain ⟨-, -, -, l, hl, -⟩ := hdomain.mp hcheck
  have hl : l ∈ unsubscribed.loaded after := hl
  rw [hloaded] at hl
  cases hl

/-- The next pass takes the list from the cache and brings the domain back. -/
theorem check_of_reloaded :
    ((unsubscribed.performAll [.refresh]).check "https://shop.example.org/x".toList).1 =
      some .domain := by
  have hafter : ∀ op ∈ [Operation.refresh],
      op.LeavesAlone (normalDomain "shop.example.org".toList) := by
    intro op hop
    rw [List.mem_singleton.mp hop]
    exact trivial
  have hmem := (mem_domains_after_removal _ _ _ _ none none [.refresh] [.refresh] hafter).mpr
    (by decide +kernel : ∃ l ∈ unsubscribed.loaded [.refresh], l.Names _)
  exact (check_eq_domain_iff ofText?_shop).mpr
    ⟨by decide +kernel, by decide +kernel, List.cons_ne_nil _ _, hmem⟩

end System

end AdFilter
