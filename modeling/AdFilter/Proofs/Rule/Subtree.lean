import AdFilter.Proofs.Rule.Loading

/-!
# A domain and what is below it

To add a domain, or to remove it, makes a difference only to hosts that belong to its normal form:
the host of that name, and those below it (`RuleSet.reason?_withDomain`,
`RuleSet.reason?_removeDomain`). Such a host is blocked for a domain once the domain is added; and
when it is removed, by what else covers the host. `RuleSet.subtree_spec` puts it together.
-/

namespace AdFilter

open Text

section

variable {host d : List Char}

/-- What belongs to a normal form does not end in a dot, as no normal form does. -/
theorem getLast?_of_belongsTo (hne : normalDomain d ≠ []) (h : BelongsTo host (normalDomain d)) :
    host.getLast? ≠ some '.' := by
  rcases h with rfl | ⟨front, rfl⟩
  · exact getLast?_normalDomain d
  · rw [List.getLast?_append_cons, List.getLast?_cons_of_ne_nil hne]
    exact getLast?_normalDomain d

theorem BelongsTo.ne_nil (h : BelongsTo host d) (hne : d ≠ []) : host ≠ [] := by
  rcases h with rfl | ⟨front, rfl⟩
  · exact hne
  · exact List.append_ne_nil_of_right_ne_nil _ (List.cons_ne_nil _ _)

/-- Only what ends in a dot is below the empty domain. -/
theorem ne_nil_of_isBelow (hhost : host.getLast? ≠ some '.') (h : IsBelow host d) : d ≠ [] := by
  rintro rfl
  obtain ⟨front, rfl⟩ := h
  exact hhost (List.getLast?_concat ..)

end

namespace RuleSet

variable {s : RuleSet} {d : List Char} {r : Request}

/-- A host that does not end in a dot is blocked by the domains that it belongs to, and by the
patterns. -/
theorem isSome_reason?_iff_belongsTo (hne : r.host ≠ []) (hhost : r.host.getLast? ≠ some '.') :
    (s.reason? r).isSome = true ↔
      (∃ x ∈ s.domains, BelongsTo r.host x) ∨
        ∃ p ∈ s.patterns, p.pattern.occursIn r.url = true := by
  rw [isSome_reason?_iff, ← or_assoc]
  refine or_congr ⟨?_, ?_⟩ Iff.rfl
  · rintro (⟨-, hmem⟩ | ⟨x, hmem, -, hbelow⟩)
    · exact ⟨r.host, hmem, Or.inl rfl⟩
    · exact ⟨x, hmem, Or.inr hbelow⟩
  · rintro ⟨x, hmem, hsame | hbelow⟩
    · rw [← hsame] at hmem
      exact Or.inl ⟨hne, hmem⟩
    · exact Or.inr ⟨x, hmem, ne_nil_of_isBelow hhost hbelow, hbelow⟩

/-- To add a domain makes no difference to a host that does not belong to it. -/
theorem reason?_addDomain_of_not_belongsTo (hne : normalDomain d ≠ [])
    (h : ¬ BelongsTo r.host (normalDomain d)) : (s.addDomain d).reason? r = s.reason? r := by
  rw [addDomain_of_ne_nil s hne]
  exact reason?_withDomain h

/-- A host that belongs to a domain is blocked for a domain once that one is added. -/
theorem reason?_addDomain_of_belongsTo (hne : normalDomain d ≠ [])
    (h : BelongsTo r.host (normalDomain d)) :
    (s.addDomain d).reason? r = some .domain ∨
      ∃ x, (s.addDomain d).reason? r = some (.subdomain x) := by
  have hmem : normalDomain d ∈ (s.addDomain d).domains := mem_addDomain.mpr (Or.inl ⟨rfl, hne⟩)
  have hsome : ((s.addDomain d).domainReason? r).isSome = true := by
    rw [isSome_domainReason?_iff]
    rcases h with hsame | hbelow
    · rw [← hsame] at hmem hne
      exact Or.inl ⟨hne, hmem⟩
    · exact Or.inr ⟨_, hmem, hne, hbelow⟩
  obtain ⟨w, hw⟩ := Option.isSome_iff_exists.mp hsome
  have hreason := (reason?_eq_some_iff_domainReason? (domainReason?_cases hw)).mpr hw
  rcases domainReason?_cases hw with rfl | ⟨x, rfl⟩
  · exact Or.inl hreason
  · exact Or.inr ⟨x, hreason⟩

/-- To remove a domain makes no difference to a host that does not belong to it. -/
theorem reason?_removeDomain (h : ¬ BelongsTo r.host (normalDomain d)) :
    (s.removeDomain d).reason? r = s.reason? r := by
  refine reason?_congr (fun x hx => List.mem_erase_of_ne ?_) rfl
  rintro rfl
  exact h hx

/-- What is left for a host that belongs to a domain that is removed: the other domains that it
belongs to, and the patterns. -/
theorem isSome_reason?_removeDomain (hs : s.domains.Nodup) (hne : normalDomain d ≠ [])
    (h : BelongsTo r.host (normalDomain d)) :
    ((s.removeDomain d).reason? r).isSome = true ↔
      (∃ x ∈ s.domains, x ≠ normalDomain d ∧ BelongsTo r.host x) ∨
        ∃ p ∈ s.patterns, p.pattern.occursIn r.url = true := by
  rw [isSome_reason?_iff_belongsTo (h.ne_nil hne) (getLast?_of_belongsTo hne h)]
  simp only [mem_removeDomain hs, removeDomain_patterns, and_assoc, ne_comm]

/-- A new domain that is removed again leaves no trace. -/
theorem removeDomain_addDomain (hne : normalDomain d ≠ []) (hnew : normalDomain d ∉ s.domains) :
    (s.addDomain d).removeDomain d = s := by
  have hdomains : (s.domains.insert (normalDomain d)).erase (normalDomain d) = s.domains := by
    rw [List.insert_of_not_mem hnew, List.erase_cons_head]
  rw [addDomain_of_ne_nil s hne, removeDomain, withDomain, hdomains]

/-- What it means for requests that a domain is added to a set, or removed from it, whatever their
hosts. Hosts that do not belong to it are judged as before. Those that do are blocked for a domain
once it is added; once it is removed, it is never named, and they are blocked just if another stored
domain that they belong to covers them, or a pattern. To remove what was added undoes it. -/
theorem subtree_spec (hs : s.domains.Nodup) (hne : normalDomain d ≠ []) :
    (∀ r : Request, BelongsTo r.host (normalDomain d) →
      (s.addDomain d).reason? r = some .domain ∨
        ∃ x, (s.addDomain d).reason? r = some (.subdomain x)) ∧
    (∀ r : Request, ¬ BelongsTo r.host (normalDomain d) →
      (s.addDomain d).reason? r = s.reason? r ∧ (s.removeDomain d).reason? r = s.reason? r) ∧
    (∀ r : Request, r.host = normalDomain d → (s.removeDomain d).reason? r ≠ some .domain) ∧
    (∀ r : Request, (s.removeDomain d).reason? r ≠ some (.subdomain (normalDomain d))) ∧
    (∀ r : Request, BelongsTo r.host (normalDomain d) →
      (((s.removeDomain d).reason? r).isSome = true ↔
        (∃ x ∈ s.domains, x ≠ normalDomain d ∧ BelongsTo r.host x) ∨
          ∃ p ∈ s.patterns, p.pattern.occursIn r.url = true)) ∧
    (normalDomain d ∉ s.domains → (s.addDomain d).removeDomain d = s) := by
  have hgone : normalDomain d ∉ (s.removeDomain d).domains := hs.not_mem_erase
  refine ⟨fun r => reason?_addDomain_of_belongsTo hne,
    fun r h => ⟨reason?_addDomain_of_not_belongsTo hne h, reason?_removeDomain h⟩,
    fun r hhost hreason => ?_, fun r hreason => ?_, fun r => isSome_reason?_removeDomain hs hne,
    removeDomain_addDomain hne⟩
  · have hmem := (reason?_eq_domain_iff.mp hreason).2
    rw [hhost] at hmem
    exact hgone hmem
  · have hfound := (reason?_eq_some_iff_domainReason? (Or.inr ⟨_, rfl⟩)).mp hreason
    exact hgone (mem_of_domainReason? hfound).1

/-- A domain with another one above it: when it is removed, however it is written, the one above
still covers its hosts. -/
theorem subtree_spec_of_nested :
    let s := ofHistory [.addDomain "example.org".toList, .addDomain "ads.example.org".toList]
    let d := " Ads.Example.ORG. ".toList
    let r : Request := ⟨"x.ads.example.org".toList, "https://x.ads.example.org/".toList⟩
    s.domains.Nodup ∧ normalDomain d ≠ [] ∧
      s.reason? r = some (.subdomain "ads.example.org".toList) ∧
      ((s.removeDomain d).reason? r).isSome = true ∧
      (s.removeDomain d).reason? r ≠ some (.subdomain "ads.example.org".toList) := by
  intro s d r
  have hs : s.domains.Nodup := (Valid.ofHistory _).domains_nodup
  have hnormal : normalDomain d = "ads.example.org".toList := by decide
  have hne : normalDomain d ≠ [] := by
    rw [hnormal]
    decide
  obtain ⟨-, -, -, hnamed, hcovered, -⟩ := subtree_spec hs hne
  have hnamed := hnamed r
  have hcovered := hcovered r
  rw [hnormal] at hnamed hcovered
  refine ⟨hs, hne, by decide, ?_, hnamed⟩
  refine (hcovered (Or.inr ⟨"x".toList, by decide⟩)).mpr (Or.inl ?_)
  exact ⟨"example.org".toList, by decide, by decide,
    Or.inr ⟨"x.ads".toList, by decide⟩⟩

end RuleSet

end AdFilter
