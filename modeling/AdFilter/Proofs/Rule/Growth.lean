import AdFilter.Proofs.Rule.Finding
import AdFilter.Proofs.Rule.History

/-!
# Sets that grow

All changes but the removal of a domain only add rules, and what a set blocks, a set with more
rules blocks as well, if not always for the same reason.
-/

namespace AdFilter

namespace RuleSet

/-- Whether all rules of one set are in another, patterns in their places. -/
def Within (s t : RuleSet) : Prop := s.domains ⊆ t.domains ∧ s.patterns <+: t.patterns

variable {s t u : RuleSet}

theorem Within.refl (s : RuleSet) : s.Within s := ⟨List.Subset.refl _, List.prefix_rfl⟩

theorem Within.trans (hst : s.Within t) (htu : t.Within u) : s.Within u :=
  ⟨List.Subset.trans hst.1 htu.1, hst.2.trans htu.2⟩

/-- What a set blocks, a set with more rules blocks as well. -/
theorem Within.isSome_reason? (h : s.Within t) {r : Request} (hs : (s.reason? r).isSome = true) :
    (t.reason? r).isSome = true := by
  rw [isSome_reason?_iff] at hs ⊢
  rcases hs with ⟨hne, hmem⟩ | ⟨d, hmem, hd⟩ | ⟨p, hmem, hp⟩
  · exact Or.inl ⟨hne, h.1 hmem⟩
  · exact Or.inr (Or.inl ⟨d, h.1 hmem, hd⟩)
  · exact Or.inr (Or.inr ⟨p, h.2.subset hmem, hp⟩)

theorem within_insertPattern (s : RuleSet) (p : PatternRule) : s.Within (s.insertPattern p) := by
  rw [insertPattern]
  split
  · exact Within.refl s
  · exact ⟨List.Subset.refl _, List.prefix_append _ _⟩

theorem within_foldl_insertPattern (s : RuleSet) (ps : List PatternRule) :
    s.Within (ps.foldl insertPattern s) := by
  induction ps generalizing s with
  | nil => exact Within.refl s
  | cons p ps ih => exact (within_insertPattern s p).trans (ih _)

theorem within_apply (s : RuleSet) (b : Batch) : s.Within (s.apply b) := by
  have hdomains : s.Within
      { s with domains := b.domains.foldl (fun ds d => ds.insert d) s.domains } :=
    ⟨fun _ hd => mem_foldl_insert.mpr (Or.inl hd), List.prefix_rfl⟩
  exact hdomains.trans (within_foldl_insertPattern _ _)

end RuleSet

/-- Whether a change removes nothing. -/
def RuleChange.Adds (c : RuleChange) : Prop :=
  match c with
  | .removeDomain _ => False
  | _ => True

namespace RuleSet

variable {s : RuleSet}

theorem within_change {c : RuleChange} (h : c.Adds) : s.Within (s.change c) := by
  cases c with
  | addDomain d =>
    have hpatterns : (s.change (.addDomain d)).patterns = s.patterns := addDomain_patterns s d
    exact ⟨fun _ hd => mem_addDomain.mpr (Or.inr hd), hpatterns ▸ List.prefix_rfl⟩
  | removeDomain d => cases h
  | addPattern source =>
    rw [change, addPattern?]
    rcases PatternRule.ofSource? source with _ | p
    · exact Within.refl s
    · exact within_insertPattern s p
  | apply l => exact within_apply s _

theorem within_changeAll {history : List RuleChange} (h : ∀ c ∈ history, c.Adds) :
    s.Within (s.changeAll history) := by
  induction history generalizing s with
  | nil => exact Within.refl s
  | cons c history ih =>
    have hc := within_change (s := s) (h c (List.mem_cons_self ..))
    exact hc.trans (ih fun e he => h e (List.mem_cons_of_mem _ he))

end RuleSet

end AdFilter
