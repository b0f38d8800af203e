import AdFilter.Proofs.Rule.Finding
import AdFilter.Proofs.Rule.Union
import Mathlib.Tactic.Tauto

/-!
# The order in which lists arrive

Lists are put into a set of rules as they arrive, and of patterns with the same source the first one
is kept. As every list reads a source in the same way, the sets that come about by the same lists
hold the same rules, in whatever order the lists arrive and however often each of them does
(`RuleSet.alike_changeAll`). Only the places of the patterns differ, and with them the pattern that
is named where several match (`RuleSet.Alike.reason?_cases`).
-/

namespace AdFilter

namespace RuleSet

/-- Whether two sets hold the same rules, their order aside. -/
structure Alike (s t : RuleSet) : Prop where
  mem_domains : ∀ d, d ∈ s.domains ↔ d ∈ t.domains
  mem_patterns : ∀ p, p ∈ s.patterns ↔ p ∈ t.patterns

variable {s t : RuleSet} {p q : PatternRule}

/-! ## Patterns in a set with lists put in -/

/-- A source writes one pattern only. -/
theorem eq_of_source_eq (hp : PatternRule.ofSource? p.source = some p)
    (hq : PatternRule.ofSource? q.source = some q) (h : p.source = q.source) : p = q := by
  rw [h, hq] at hp
  exact (Option.some.inj hp).symm

theorem mem_patterns_insertPattern :
    q ∈ (s.insertPattern p).patterns ↔ q ∈ s.patterns ∨ (q = p ∧ p.source ∉ s.sources) := by
  have hmem : s.hasSource p.source = true ↔ p.source ∈ s.sources :=
    hasSource_iff.trans List.mem_map.symm
  rw [insertPattern]
  by_cases h : s.hasSource p.source = true
  · rw [if_pos h]
    exact (or_iff_left fun hq => hq.2 (hmem.mp h)).symm
  · rw [if_neg h, List.mem_append, List.mem_singleton]
    exact or_congr Iff.rfl (and_iff_left (mt hmem.mpr h)).symm

/-- Of patterns that are put in one after the other, those stay whose sources were not there at the
beginning. -/
theorem mem_patterns_foldl_insertPattern {ps : List PatternRule}
    (hps : ∀ p ∈ ps, PatternRule.ofSource? p.source = some p) :
    q ∈ (ps.foldl insertPattern s).patterns ↔
      q ∈ s.patterns ∨ (q ∈ ps ∧ q.source ∉ s.sources) := by
  induction ps generalizing s with
  | nil => simp
  | cons p ps ih =>
    have hrest := fun x hx => hps x (List.mem_cons_of_mem _ hx)
    rw [List.foldl_cons, ih hrest, mem_patterns_insertPattern, mem_sources_insertPattern, not_or,
      List.mem_cons]
    constructor
    · rintro ((hq | ⟨rfl, hnew⟩) | ⟨hq, hnew, -⟩)
      · exact Or.inl hq
      · exact Or.inr ⟨Or.inl rfl, hnew⟩
      · exact Or.inr ⟨Or.inr hq, hnew⟩
    · rintro (hq | ⟨rfl | hq, hnew⟩)
      · exact Or.inl (Or.inl hq)
      · exact Or.inl (Or.inr ⟨rfl, hnew⟩)
      · -- what has the source of the first pattern is the first pattern
        by_cases hsource : q.source = p.source
        · obtain rfl := eq_of_source_eq (hrest q hq) (hps p (List.mem_cons_self ..)) hsource
          exact Or.inl (Or.inr ⟨rfl, hnew⟩)
        · exact Or.inr ⟨hq, hnew, hsource⟩

theorem mem_patterns_change_apply {l : FilterList} : q ∈ (s.change (.apply l)).patterns ↔
    q ∈ s.patterns ∨ (q ∈ (Batch.ofList l).patterns ∧ q.source ∉ s.sources) :=
  mem_patterns_foldl_insertPattern fun _ hp => Batch.ofSource?_of_mem hp

/-- The patterns are those from before and those of the lists whose sources were not there. -/
theorem mem_patterns_changeAll {ls : List FilterList} :
    q ∈ (s.changeAll (ls.map .apply)).patterns ↔
      q ∈ s.patterns ∨ (q.source ∉ s.sources ∧ ∃ l ∈ ls, q ∈ (Batch.ofList l).patterns) := by
  induction ls generalizing s with
  | nil => simp
  | cons l ls ih =>
    have hsources : q.source ∈ (s.change (.apply l)).sources ↔ q.source ∈ s.sources ∨
        ∃ p ∈ (Batch.ofList l).patterns, p.source = q.source := mem_sources_foldl_insertPattern
    rw [List.map_cons, changeAll_cons, ih, mem_patterns_change_apply, hsources, not_or]
    simp only [List.mem_cons, exists_eq_or_imp]
    constructor
    · rintro ((hq | ⟨hq, hnew⟩) | ⟨⟨hnew, -⟩, hlater⟩)
      · exact Or.inl hq
      · exact Or.inr ⟨hnew, Or.inl hq⟩
      · exact Or.inr ⟨hnew, Or.inr hlater⟩
    · rintro (hq | ⟨hnew, hq | hlater⟩)
      · exact Or.inl (Or.inl hq)
      · exact Or.inl (Or.inr ⟨hq, hnew⟩)
      · -- a pattern with this source in the first list is the same one
        by_cases hfirst : ∃ p ∈ (Batch.ofList l).patterns, p.source = q.source
        · obtain ⟨p, hp, hsource⟩ := hfirst
          obtain ⟨k, -, hq⟩ := hlater
          obtain rfl := eq_of_source_eq (Batch.ofSource?_of_mem hp) (Batch.ofSource?_of_mem hq)
            hsource
          exact Or.inl (Or.inr ⟨hp, hnew⟩)
        · exact Or.inr ⟨⟨hnew, hfirst⟩, hlater⟩

/-- The same lists make the same rules, in whatever order they arrive and however often. -/
theorem alike_changeAll (s : RuleSet) {ls ks : List FilterList} (h : ∀ l, l ∈ ls ↔ l ∈ ks) :
    (s.changeAll (ls.map .apply)).Alike (s.changeAll (ks.map .apply)) := by
  refine ⟨fun d => ?_, fun p => ?_⟩
  · rw [mem_domains_changeAll, mem_domains_changeAll]
    simp only [h]
  · rw [mem_patterns_changeAll, mem_patterns_changeAll]
    simp only [h]

/-! ## Judging by sets that hold the same rules -/

namespace Alike

theorem mem_sources (h : s.Alike t) (source : List Char) :
    source ∈ s.sources ↔ source ∈ t.sources := by
  simp only [sources, List.mem_map, h.mem_patterns]

/-- Two sets that hold the same rules have the same reason for a request, or both have a pattern
that they hold and that matches. -/
theorem reason?_cases (h : s.Alike t) (r : Request) :
    s.reason? r = t.reason? r ∨
      ∃ p q, p ∈ s.patterns ∧ q ∈ s.patterns ∧ p.pattern.occursIn r.url = true ∧
        q.pattern.occursIn r.url = true ∧ s.reason? r = some (.pattern p.source) ∧
        t.reason? r = some (.pattern q.source) := by
  have hdomains : s.domainReason? r = t.domainReason? r :=
    domainReason?_congr fun d _ => h.mem_domains d
  have hpatterns : (s.patternReason? r).isSome = true ↔ (t.patternReason? r).isSome = true := by
    rw [isSome_patternReason?_iff, isSome_patternReason?_iff]
    simp only [h.mem_patterns]
  rw [reason?_eq_or, reason?_eq_or, hdomains]
  rcases t.domainReason? r with _ | w
  · rw [Option.none_or, Option.none_or]
    rcases hs : s.patternReason? r with _ | v <;> rcases ht : t.patternReason? r with _ | w
    · exact Or.inl rfl
    · rw [hs, ht] at hpatterns
      exact absurd (hpatterns.mpr rfl) Bool.false_ne_true
    · rw [hs, ht] at hpatterns
      exact absurd (hpatterns.mp rfl) Bool.false_ne_true
    · obtain ⟨p, hp, hpr, rfl⟩ := patternReason?_eq_some hs
      obtain ⟨q, hq, hqr, rfl⟩ := patternReason?_eq_some ht
      exact Or.inr ⟨p, q, hp, (h.mem_patterns q).mpr hq, hpr, hqr, rfl, rfl⟩
  · exact Or.inl rfl

/-- What is true of the same reason and of any two patterns is true of the reasons that two sets
with the same rules have. -/
theorem of_reasons (h : s.Alike t) (r : Request) {P : Option Reason → Option Reason → Prop}
    (hsame : ∀ o, P o o) (hpatterns : ∀ x y, P (some (.pattern x)) (some (.pattern y))) :
    P (s.reason? r) (t.reason? r) := by
  rcases h.reason?_cases r with heq | ⟨p, q, -, -, -, -, hs, ht⟩
  · rw [heq]
    exact hsame _
  · rw [hs, ht]
    exact hpatterns _ _

end Alike

/-- The same lists make the same set of domains and of sources, in whatever order they arrive and
however often each of them does. The two sets block the same requests, for reasons of the same kind;
a reason that names a domain is the same; and where the reasons differ, each is a pattern that both
sets hold and that matches. -/
theorem arrival_spec (s : RuleSet) {ls ks : List FilterList} (h : ∀ l, l ∈ ls ↔ l ∈ ks) :
    let a := s.changeAll (ls.map .apply)
    let b := s.changeAll (ks.map .apply)
    (∀ d, d ∈ a.domains ↔ d ∈ b.domains) ∧
      (∀ source, source ∈ a.sources ↔ source ∈ b.sources) ∧
      ∀ r, (a.reason? r).isSome = (b.reason? r).isSome ∧
        (a.reason? r).map Reason.kind = (b.reason? r).map Reason.kind ∧
        (a.reason? r = some .domain ↔ b.reason? r = some .domain) ∧
        (∀ d, a.reason? r = some (.subdomain d) ↔ b.reason? r = some (.subdomain d)) ∧
        (a.reason? r ≠ b.reason? r → ∃ p q : PatternRule,
          (p ∈ a.patterns ∧ p ∈ b.patterns ∧ p.pattern.occursIn r.url = true) ∧
          (q ∈ a.patterns ∧ q ∈ b.patterns ∧ q.pattern.occursIn r.url = true) ∧
          a.reason? r = some (.pattern p.source) ∧ b.reason? r = some (.pattern q.source)) := by
  intro a b
  have halike : a.Alike b := alike_changeAll s h
  refine ⟨halike.mem_domains, halike.mem_sources, fun r => ⟨?_, ?_, ?_, fun d => ?_, fun hne => ?_⟩⟩
  · exact halike.of_reasons r (P := fun v w => v.isSome = w.isSome) (fun _ => rfl) fun _ _ => rfl
  · exact halike.of_reasons r (P := fun v w => v.map Reason.kind = w.map Reason.kind)
      (fun _ => rfl) fun _ _ => rfl
  · exact halike.of_reasons r (P := fun v w => v = some .domain ↔ w = some .domain)
      (fun _ => Iff.rfl) (by simp)
  · exact halike.of_reasons r (P := fun v w => v = some (.subdomain d) ↔ w = some (.subdomain d))
      (fun _ => Iff.rfl) (by simp)
  · rcases halike.reason?_cases r with heq | ⟨p, q, hp, hq, hpr, hqr, ha, hb⟩
    · exact absurd heq hne
    · exact ⟨p, q, ⟨hp, (halike.mem_patterns p).mp hp, hpr⟩,
        ⟨hq, (halike.mem_patterns q).mp hq, hqr⟩, ha, hb⟩

/-- Two lists, once in one order and once in the other, with the second list twice: an address that
two patterns match is blocked for a reason of the same kind, but not by the same pattern. -/
theorem arrival_spec_of_repeated :
    let ads : FilterList := ⟨["ads.example.org".toList], ["ads".toList]⟩
    let banners : FilterList := ⟨[], ["banner".toList]⟩
    let r : Request := ⟨"x.org".toList, "https://x.org/ads/banner".toList⟩
    let a := ({} : RuleSet).changeAll ([ads, banners].map .apply)
    let b := ({} : RuleSet).changeAll ([banners, ads, banners].map .apply)
    (∀ l, l ∈ [ads, banners] ↔ l ∈ [banners, ads, banners]) ∧
      (a.reason? r).map Reason.kind = (b.reason? r).map Reason.kind ∧
      a.reason? r = some (.pattern "ads".toList) ∧
      b.reason? r = some (.pattern "banner".toList) := by
  intro ads banners r a b
  have hsame : ∀ l, l ∈ [ads, banners] ↔ l ∈ [banners, ads, banners] := by
    intro l
    simp only [List.mem_cons, List.not_mem_nil, or_false]
    tauto
  obtain ⟨-, -, hreasons⟩ := arrival_spec {} hsame
  obtain ⟨-, hkind, -⟩ := hreasons r
  exact ⟨hsame, hkind, by decide, by decide⟩

end RuleSet

end AdFilter
