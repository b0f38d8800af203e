import AdFilter.Proofs.Rule.Finding

/-!
# The walk along the parents of a host

A host is cut behind one dot after the other until nothing is left, and the first part that is
stored is named. That is the test of single domains, `isSameOrSubdomain`, made for all of them at
once: the walk comes to every text that the test accepts, but for the host itself, the longest
first (`mem_parentDomains_iff`). `RuleSet.parents_spec` says what a set answers by that test, dots
at the ends of a host and next to each other included.
-/

namespace AdFilter

variable {host d : List Char}

/-- What is below a domain is what the test accepts, but for the domain itself. -/
theorem isBelow_iff : IsBelow host d ↔ d ≠ host ∧ isSameOrSubdomain host d = true := by
  rw [isSameOrSubdomain_iff, BelongsTo]
  constructor
  · intro h
    refine ⟨?_, Or.inr h⟩
    rintro rfl
    exact Nat.lt_irrefl _ h.length_lt
  · rintro ⟨hne, rfl | h⟩
    · exact absurd rfl hne
    · exact h

/-- The walk comes to all that the test accepts, and to nothing else. -/
theorem mem_parentDomains_iff :
    d ∈ parentDomains host ↔ d ≠ [] ∧ d ≠ host ∧ isSameOrSubdomain host d = true := by
  rw [mem_parentDomains, isBelow_iff]

namespace RuleSet

variable {s : RuleSet} {r : Request}

/-- A domain is named as being above a host if the host itself is not stored and no longer one is
above it. -/
theorem domainReason?_eq_subdomain_iff {p : List Char} :
    s.domainReason? r = some (.subdomain p) ↔ ¬ (r.host ≠ [] ∧ r.host ∈ s.domains) ∧
      IsLongest (fun d => d ≠ [] ∧ d ∈ s.domains ∧ IsBelow r.host d) p := by
  have hfind : (parentDomains r.host).find? s.domains.contains = some p ↔
      IsLongest (fun d => d ≠ [] ∧ d ∈ s.domains ∧ IsBelow r.host d) p := by
    simp only [find?_parentDomains_eq_some_iff, List.contains_iff_mem]
  rw [← domainReason?_eq_domain_iff, ← hfind, domainReason?]
  split
  · simp
  · simp [Option.map_eq_some_iff]

/-- No domain is a reason if the host is not stored and none above it is. -/
theorem domainReason?_eq_none_iff : s.domainReason? r = none ↔
    ¬ (r.host ≠ [] ∧ r.host ∈ s.domains) ∧ ∀ d ∈ s.domains, d ≠ [] → ¬ IsBelow r.host d := by
  rw [← Option.not_isSome_iff_eq_none, isSome_domainReason?_iff, not_or]
  simp only [not_exists, not_and]

/-- A reason is one of the patterns if the domains have none. -/
theorem forall_pattern_iff : (∀ w, s.reason? r = some w → ∃ source, w = .pattern source) ↔
    s.domainReason? r = none := by
  constructor
  · intro h
    rcases hd : s.domainReason? r with _ | w
    · rfl
    · have hw := (reason?_eq_some_iff_domainReason? (domainReason?_cases hd)).mpr hd
      obtain ⟨source, rfl⟩ := h w hw
      rcases domainReason?_cases hd with hw | ⟨d, hw⟩ <;> cases hw
  · intro hnone w hw
    rw [reason?_eq_or, hnone, Option.none_or] at hw
    obtain ⟨p, -, -, rfl⟩ := patternReason?_eq_some hw
    exact ⟨p.source, rfl⟩

/-- What a set of domains that are not empty answers for a host that is not empty, wherever dots
stand in them: the host if it is stored; else the longest of the others that the test accepts; and
no domain if it accepts none. -/
theorem parents_spec (hs : ∀ d ∈ s.domains, d ≠ []) (hhost : r.host ≠ []) :
    (s.reason? r = some .domain ↔ r.host ∈ s.domains) ∧
    (∀ p, s.reason? r = some (.subdomain p) ↔ r.host ∉ s.domains ∧
      IsLongest (fun d => d ∈ s.domains ∧ d ≠ r.host ∧ isSameOrSubdomain r.host d = true) p) ∧
    ((∀ w, s.reason? r = some w → ∃ source, w = .pattern source) ↔
      ∀ d ∈ s.domains, isSameOrSubdomain r.host d = false) := by
  have hstored : (r.host ≠ [] ∧ r.host ∈ s.domains) ↔ r.host ∈ s.domains := and_iff_right hhost
  refine ⟨?_, fun p => ?_, ?_⟩
  · rw [reason?_eq_domain_iff, hstored]
  · -- an empty domain, to which the walk does not come, is not stored
    have hsame : ∀ d, (d ≠ [] ∧ d ∈ s.domains ∧ IsBelow r.host d) ↔
        (d ∈ s.domains ∧ d ≠ r.host ∧ isSameOrSubdomain r.host d = true) := by
      intro d
      rw [isBelow_iff]
      exact ⟨fun h => h.2, fun h => ⟨hs d h.1, h⟩⟩
    rw [reason?_eq_some_iff_domainReason? (Or.inr ⟨p, rfl⟩), domainReason?_eq_subdomain_iff,
      hstored]
    simp only [hsame]
  · rw [forall_pattern_iff, domainReason?_eq_none_iff, hstored]
    constructor
    · rintro ⟨hnot, habove⟩ d hd
      rw [Bool.eq_false_iff, ne_eq, isSameOrSubdomain_iff]
      rintro (rfl | hbelow)
      · exact hnot hd
      · exact habove d hd (hs d hd) hbelow
    · intro h
      refine ⟨fun hmem => ?_, fun d hd _ hbelow => ?_⟩
      · have hself := h _ hmem
        rw [Bool.eq_false_iff, ne_eq, isSameOrSubdomain_iff] at hself
        exact hself (Or.inl rfl)
      · rw [isBelow_iff, h d hd] at hbelow
        exact Bool.false_ne_true hbelow.2

/-- Dots next to each other and at the end of the host. Behind the first dot stands a domain that
begins with a dot itself, and it is named before the shorter one; the dot alone, also stored, is not
above the host, as no other dot stands in front of it. -/
theorem parents_spec_of_dots :
    let s : RuleSet := { domains := [".".toList, "b.".toList, ".b.".toList] }
    let r : Request := ⟨"a..b.".toList, "x://a..b./".toList⟩
    (∀ d ∈ s.domains, d ≠ []) ∧ r.host ≠ [] ∧ isSameOrSubdomain r.host ".".toList = false ∧
      s.reason? r = some (.subdomain ".b.".toList) := by
  intro s r
  have hs : ∀ d ∈ s.domains, d ≠ [] := by decide
  have hhost : r.host ≠ [] := by decide
  obtain ⟨-, hsubdomain, -⟩ := parents_spec hs hhost
  refine ⟨hs, hhost, by decide, (hsubdomain _).mpr ⟨by decide, ?_, ?_⟩⟩
  · decide
  · rintro y ⟨hy, -⟩
    revert y
    decide

end RuleSet

end AdFilter
