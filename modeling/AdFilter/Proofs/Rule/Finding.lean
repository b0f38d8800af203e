import AdFilter.Proofs.Rule.Cascade
import Mathlib.Data.List.Find

/-!
# What a set finds

The search for the rule that blocks a request has two halves (`RuleSet.reason?_eq_or`): the domains
of the set are looked at, and if none of them applies, its patterns. What the first half finds
depends only on which of the domains that the host belongs to are in the set
(`RuleSet.domainReason?_congr`).
-/

namespace AdFilter

namespace RuleSet

variable {s t : RuleSet} {r : Request}

/-- The reason that the domains of a set have: the host itself, or the nearest domain above it. -/
def domainReason? (s : RuleSet) (r : Request) : Option Reason :=
  if !r.host.isEmpty && s.domains.contains r.host then some .domain
  else ((parentDomains r.host).find? s.domains.contains).map .subdomain

/-- The reason that the patterns of a set have: the first one that occurs in the address. -/
def patternReason? (s : RuleSet) (r : Request) : Option Reason :=
  (s.patterns.find? fun p => p.pattern.occursIn r.url).map (.pattern ·.source)

theorem reason?_eq_or (s : RuleSet) (r : Request) :
    s.reason? r = (s.domainReason? r).or (s.patternReason? r) := by
  rw [reason?, domainReason?]
  split
  · rfl
  · rcases (parentDomains r.host).find? s.domains.contains with _ | d <;> rfl

theorem domainReason?_congr (h : ∀ d, BelongsTo r.host d → (d ∈ s.domains ↔ d ∈ t.domains)) :
    s.domainReason? r = t.domainReason? r := by
  have hcontains : ∀ d, BelongsTo r.host d → s.domains.contains d = t.domains.contains d := by
    intro d hd
    rw [Bool.eq_iff_iff, List.contains_iff_mem, List.contains_iff_mem]
    exact h d hd
  have hparents : (parentDomains r.host).find? s.domains.contains =
      (parentDomains r.host).find? t.domains.contains :=
    List.find?_congr fun d hd => hcontains d (Or.inr (mem_parentDomains.mp hd).2)
  rw [domainReason?, domainReason?, hcontains _ (Or.inl rfl), hparents]

/-- Where two sets have the same domains for a host, and the same patterns, they judge the same. -/
theorem reason?_congr (h : ∀ d, BelongsTo r.host d → (d ∈ s.domains ↔ d ∈ t.domains))
    (hpatterns : s.patterns = t.patterns) : s.reason? r = t.reason? r := by
  rw [reason?_eq_or, reason?_eq_or, domainReason?_congr h, patternReason?, patternReason?,
    hpatterns]

/-! ## The domains -/

theorem domainReason?_eq_domain_iff :
    s.domainReason? r = some .domain ↔ r.host ≠ [] ∧ r.host ∈ s.domains := by
  rw [domainReason?]
  split
  · rename_i h
    simp only [Bool.and_eq_true, Bool.not_eq_true', List.isEmpty_eq_false_iff,
      List.contains_iff_mem] at h
    exact iff_of_true rfl h
  · rename_i h
    simp only [Bool.and_eq_true, Bool.not_eq_true', List.isEmpty_eq_false_iff,
      List.contains_iff_mem] at h
    refine iff_of_false (fun hreason => ?_) h
    obtain ⟨d, -, hd⟩ := Option.map_eq_some_iff.mp hreason
    cases hd

/-- A domain that is named as being above the host is in the set. -/
theorem mem_of_domainReason? {d : List Char} (h : s.domainReason? r = some (.subdomain d)) :
    d ∈ s.domains ∧ d ≠ [] ∧ IsBelow r.host d := by
  rw [domainReason?] at h
  split at h
  · cases h
  · obtain ⟨e, he, hed⟩ := Option.map_eq_some_iff.mp h
    cases hed
    exact ⟨List.contains_iff_mem.mp (List.find?_some he),
      mem_parentDomains.mp (List.mem_of_find?_eq_some he)⟩

theorem domainReason?_cases {w : Reason} (h : s.domainReason? r = some w) :
    w = .domain ∨ ∃ d, w = .subdomain d := by
  rw [domainReason?] at h
  split at h
  · exact Or.inl (Option.some.inj h).symm
  · obtain ⟨d, -, rfl⟩ := Option.map_eq_some_iff.mp h
    exact Or.inr ⟨d, rfl⟩

theorem isSome_domainReason?_iff : (s.domainReason? r).isSome = true ↔
    (r.host ≠ [] ∧ r.host ∈ s.domains) ∨ ∃ d ∈ s.domains, d ≠ [] ∧ IsBelow r.host d := by
  constructor
  · intro h
    obtain ⟨w, hw⟩ := Option.isSome_iff_exists.mp h
    rcases domainReason?_cases hw with rfl | ⟨d, rfl⟩
    · exact Or.inl (domainReason?_eq_domain_iff.mp hw)
    · exact Or.inr ⟨d, mem_of_domainReason? hw⟩
  · rintro (h | ⟨d, hmem, hd⟩)
    · rw [domainReason?_eq_domain_iff.mpr h]
      rfl
    · rw [domainReason?]
      split
      · rfl
      · rw [Option.isSome_map, List.find?_isSome]
        exact ⟨d, mem_parentDomains.mpr hd, List.contains_iff_mem.mpr hmem⟩

/-! ## The patterns -/

theorem patternReason?_eq_some {w : Reason} (h : s.patternReason? r = some w) :
    ∃ p ∈ s.patterns, p.pattern.occursIn r.url = true ∧ w = .pattern p.source := by
  obtain ⟨p, hp, rfl⟩ := Option.map_eq_some_iff.mp h
  have hoccurs := List.find?_some hp
  exact ⟨p, List.mem_of_find?_eq_some hp, hoccurs, rfl⟩

theorem isSome_patternReason?_iff : (s.patternReason? r).isSome = true ↔
    ∃ p ∈ s.patterns, p.pattern.occursIn r.url = true := by
  rw [patternReason?, Option.isSome_map, List.find?_isSome]

/-! ## Both -/

/-- The reasons that the domains have are never those of patterns. -/
theorem reason?_eq_some_iff_domainReason? {w : Reason} (hw : w = .domain ∨ ∃ d, w = .subdomain d) :
    s.reason? r = some w ↔ s.domainReason? r = some w := by
  rw [reason?_eq_or]
  rcases hd : s.domainReason? r with _ | v
  · rw [Option.none_or]
    refine iff_of_false (fun hreason => ?_) (Option.some_ne_none w ·.symm)
    obtain ⟨p, -, -, rfl⟩ := patternReason?_eq_some hreason
    rcases hw with hw | ⟨d, hw⟩ <;> cases hw
  · rw [Option.some_or]

theorem reason?_eq_domain_iff : s.reason? r = some .domain ↔ r.host ≠ [] ∧ r.host ∈ s.domains := by
  rw [reason?_eq_some_iff_domainReason? (Or.inl rfl), domainReason?_eq_domain_iff]

/-- Whether some rule blocks a request: a domain that is its host, one that is above it, or a
pattern in its address. -/
theorem isSome_reason?_iff :
    (s.reason? r).isSome = true ↔
      (r.host ≠ [] ∧ r.host ∈ s.domains) ∨
        (∃ d ∈ s.domains, d ≠ [] ∧ IsBelow r.host d) ∨
        ∃ p ∈ s.patterns, p.pattern.occursIn r.url = true := by
  rw [reason?_eq_or, Option.isSome_or, Bool.or_eq_true, isSome_domainReason?_iff,
    isSome_patternReason?_iff, or_assoc]

end RuleSet

end AdFilter
