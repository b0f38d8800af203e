import AdFilter.Proofs.Rule.Cascade
import Mathlib.Data.List.Induction
import Mathlib.Data.List.Nodup

/-!
# The history of a set of rules

A set of rules is the outcome of the changes made to it. `RuleChange` lists the four kinds, and
`Stored` and `offered` read off a history, without running it, what the set must hold in the end:

* a domain is stored if some change put it in and none removed it since (`mem_ofHistory`);
* the patterns are those of the offered sources that write one, each once, in the order of the
  first offer, so that the search for the first match is a search among the offers
  (`find?_changeAll`).

`RuleSet.Valid` is what every change preserves.
-/

namespace AdFilter

open Text

/-- A change to a set of rules. -/
inductive RuleChange where
  | addDomain (d : List Char)
  | removeDomain (d : List Char)
  | addPattern (source : List Char)
  /-- all rules of a list at once -/
  | apply (list : FilterList)
deriving Repr, DecidableEq

namespace RuleSet

/-- Makes one change. -/
def change (s : RuleSet) : RuleChange → RuleSet
  | .addDomain d => s.addDomain d
  | .removeDomain d => s.removeDomain d
  | .addPattern source => (s.addPattern? source).getD s
  | .apply l => s.apply (Batch.ofList l)

/-- Makes changes one after the other. -/
def changeAll (s : RuleSet) (history : List RuleChange) : RuleSet := history.foldl change s

@[simp] theorem changeAll_nil (s : RuleSet) : s.changeAll [] = s := rfl

@[simp] theorem changeAll_cons (s : RuleSet) (c : RuleChange) (h : List RuleChange) :
    s.changeAll (c :: h) = (s.change c).changeAll h := rfl

@[simp] theorem changeAll_append (s : RuleSet) (g h : List RuleChange) :
    s.changeAll (g ++ h) = (s.changeAll g).changeAll h := List.foldl_append

/-- The set that a history makes out of nothing. -/
def ofHistory (history : List RuleChange) : RuleSet := ({} : RuleSet).changeAll history

@[simp] theorem ofHistory_concat (history : List RuleChange) (c : RuleChange) :
    ofHistory (history ++ [c]) = (ofHistory history).change c := changeAll_append _ _ _

end RuleSet

/-! ## Reading a history -/

namespace RuleChange

/-- Whether a change puts a domain in. The user's domains come in their normal form, unless that is
empty, and those of lists in lower case. -/
def Puts (c : RuleChange) (d : List Char) : Prop :=
  match c with
  | .addDomain x => normalDomain x = d ∧ d ≠ []
  | .apply l => ∃ x ∈ l.domains, lower x = d
  | _ => False

/-- Whether a change removes a domain, if it is there. -/
def Removes (c : RuleChange) (d : List Char) : Prop :=
  match c with
  | .removeDomain x => normalDomain x = d
  | _ => False

/-- The sources of patterns that a change offers. -/
def sources : RuleChange → List (List Char)
  | .addPattern source => [source]
  | .apply l => l.patterns
  | _ => []

end RuleChange

/-- A domain is stored after a history if some change put it in and none removed it since. -/
def Stored (history : List RuleChange) (d : List Char) : Prop :=
  ∃ before c after, history = before ++ c :: after ∧ c.Puts d ∧ ∀ r ∈ after, ¬ r.Removes d

/-- The sources that were offered in the course of a history, the earliest first. -/
def offered (history : List RuleChange) : List (List Char) := history.flatMap RuleChange.sources

theorem not_stored_nil (d : List Char) : ¬ Stored [] d := by
  rintro ⟨before, c, after, h, -⟩
  exact List.cons_ne_nil _ _ (List.append_eq_nil_iff.mp h.symm).2

/-- The last change either puts a domain in, or leaves it in if it does not remove it. -/
theorem stored_concat {history : List RuleChange} {c : RuleChange} {d : List Char} :
    Stored (history ++ [c]) d ↔ c.Puts d ∨ (Stored history d ∧ ¬ c.Removes d) := by
  constructor
  · rintro ⟨before, e, after, hsplit, hputs, hafter⟩
    -- the change that puts the domain in is the last one, or there is a last one behind it
    rcases List.eq_nil_or_concat after with rfl | ⟨init, l, rfl⟩
    · obtain ⟨-, he⟩ := List.append_inj' hsplit rfl
      rw [(List.cons.inj he).1]
      exact Or.inl hputs
    · rw [List.concat_eq_append] at hsplit hafter
      rw [← List.cons_append, ← List.append_assoc] at hsplit
      obtain ⟨hhistory, hl⟩ := List.append_inj' hsplit rfl
      have hlast := hafter l (List.mem_append_right _ (List.mem_singleton_self l))
      rw [← (List.cons.inj hl).1] at hlast
      refine Or.inr ⟨⟨before, e, init, hhistory, hputs, ?_⟩, hlast⟩
      intro r hr
      exact hafter r (List.mem_append_left _ hr)
  · rintro (hputs | ⟨⟨before, e, after, rfl, hputs, hafter⟩, hlast⟩)
    · exact ⟨history, c, [], rfl, hputs, by simp⟩
    · refine ⟨before, e, after ++ [c], by simp, hputs, ?_⟩
      intro r hr
      rcases List.mem_append.mp hr with hr | hr
      · exact hafter r hr
      · rw [List.mem_singleton.mp hr]
        exact hlast

/-- Of two histories, one after the other, the second decides if it puts a domain in or removes it,
and otherwise the first. -/
theorem stored_append {g h : List RuleChange} {d : List Char} :
    Stored (g ++ h) d ↔ Stored h d ∨ (Stored g d ∧ ∀ r ∈ h, ¬ r.Removes d) := by
  induction h using List.reverseRecOn with
  | nil => simp [not_stored_nil]
  | append_singleton h c ih =>
    rw [← List.append_assoc, stored_concat, stored_concat, ih]
    simp only [List.forall_mem_append, List.forall_mem_singleton]
    constructor
    · rintro (hputs | ⟨hstored | ⟨hg, hh⟩, hc⟩)
      · exact Or.inl (Or.inl hputs)
      · exact Or.inl (Or.inr ⟨hstored, hc⟩)
      · exact Or.inr ⟨hg, hh, hc⟩
    · rintro ((hputs | ⟨hstored, hc⟩) | ⟨hg, hh, hc⟩)
      · exact Or.inl hputs
      · exact Or.inr ⟨Or.inl hstored, hc⟩
      · exact Or.inr ⟨Or.inr ⟨hg, hh⟩, hc⟩

/-- Where nothing removes a domain, it is stored if some change puts it in. -/
theorem stored_iff_exists_puts {history : List RuleChange} {d : List Char}
    (h : ∀ c ∈ history, ¬ c.Removes d) : Stored history d ↔ ∃ c ∈ history, c.Puts d := by
  constructor
  · rintro ⟨before, c, after, rfl, hputs, -⟩
    exact ⟨c, by simp, hputs⟩
  · rintro ⟨c, hc, hputs⟩
    obtain ⟨before, after, rfl⟩ := List.append_of_mem hc
    exact ⟨before, c, after, rfl, hputs, fun r hr => h r (by simp [hr])⟩

/-! ## Single changes -/

/-- What is true of every set of rules that comes about by changes: nothing is there twice, and each
pattern is the one that its source writes. -/
structure RuleSet.Valid (s : RuleSet) : Prop where
  domains_nodup : s.domains.Nodup
  sources_nodup : (s.patterns.map (·.source)).Nodup
  ofSource?_source : ∀ p ∈ s.patterns, PatternRule.ofSource? p.source = some p

theorem PatternRule.source_of_ofSource? {source : List Char} {p : PatternRule}
    (h : PatternRule.ofSource? source = some p) : p.source = source := by
  rw [PatternRule.ofSource?, Option.map_eq_some_iff] at h
  obtain ⟨q, -, rfl⟩ := h
  rfl

/-- The pattern that a source writes is the one that its own source writes. -/
theorem PatternRule.ofSource?_source {source : List Char} {p : PatternRule}
    (h : PatternRule.ofSource? source = some p) : PatternRule.ofSource? p.source = some p := by
  rw [source_of_ofSource? h]
  exact h

/-- The patterns of a batch are those that its sources write. -/
theorem Batch.ofSource?_of_mem {l : FilterList} {p : PatternRule}
    (h : p ∈ (Batch.ofList l).patterns) : PatternRule.ofSource? p.source = some p := by
  obtain ⟨source, -, hp⟩ := List.mem_filterMap.mp h
  exact PatternRule.ofSource?_source hp

theorem mem_foldl_insert {ds es : List (List Char)} {d : List Char} :
    d ∈ es.foldl (fun ds e => ds.insert e) ds ↔ d ∈ ds ∨ d ∈ es := by
  induction es generalizing ds with
  | nil => simp
  | cons e es ih =>
    rw [List.foldl_cons, ih, List.mem_insert_iff, List.mem_cons]
    constructor
    · rintro ((rfl | h) | h)
      · exact Or.inr (Or.inl rfl)
      · exact Or.inl h
      · exact Or.inr (Or.inr h)
    · rintro (h | rfl | h)
      · exact Or.inl (Or.inr h)
      · exact Or.inl (Or.inl rfl)
      · exact Or.inr h

theorem nodup_foldl_insert {ds : List (List Char)} (es : List (List Char)) (h : ds.Nodup) :
    (es.foldl (fun ds e => ds.insert e) ds).Nodup := by
  induction es generalizing ds with
  | nil => exact h
  | cons e es ih => exact ih h.insert

namespace RuleSet

variable {s : RuleSet}

theorem hasSource_iff {source : List Char} :
    s.hasSource source = true ↔ ∃ p ∈ s.patterns, p.source = source := by
  rw [hasSource, List.contains_iff_mem, s.known_perm.mem_iff, List.mem_map]

@[simp] theorem insertPattern_domains (s : RuleSet) (p : PatternRule) :
    (s.insertPattern p).domains = s.domains := by
  rw [insertPattern]
  split <;> rfl

@[simp] theorem foldl_insertPattern_domains (s : RuleSet) (ps : List PatternRule) :
    (ps.foldl insertPattern s).domains = s.domains := by
  induction ps generalizing s with
  | nil => rfl
  | cons p ps ih => rw [List.foldl_cons, ih, insertPattern_domains]

@[simp] theorem addDomain_patterns (s : RuleSet) (d : List Char) :
    (s.addDomain d).patterns = s.patterns := by
  rw [addDomain]
  split <;> rfl

@[simp] theorem removeDomain_patterns (s : RuleSet) (d : List Char) :
    (s.removeDomain d).patterns = s.patterns := rfl

theorem mem_addDomain {d x : List Char} :
    x ∈ (s.addDomain d).domains ↔ (normalDomain d = x ∧ x ≠ []) ∨ x ∈ s.domains := by
  rw [addDomain]
  split
  · rename_i h
    rw [List.isEmpty_iff] at h
    constructor
    · exact Or.inr
    · rintro (⟨rfl, hne⟩ | hx)
      · exact absurd h hne
      · exact hx
  · rename_i h
    rw [List.isEmpty_iff] at h
    rw [List.mem_insert_iff]
    constructor
    · rintro (rfl | hx)
      · exact Or.inl ⟨rfl, h⟩
      · exact Or.inr hx
    · rintro (⟨rfl, -⟩ | hx)
      · exact Or.inl rfl
      · exact Or.inr hx

theorem mem_removeDomain (hs : s.domains.Nodup) {d x : List Char} :
    x ∈ (s.removeDomain d).domains ↔ x ∈ s.domains ∧ normalDomain d ≠ x := by
  rw [removeDomain, hs.mem_erase_iff, ne_comm, and_comm]

theorem mem_apply {b : Batch} {x : List Char} :
    x ∈ (s.apply b).domains ↔ x ∈ s.domains ∨ x ∈ b.domains := by
  rw [apply, foldl_insertPattern_domains]
  exact mem_foldl_insert

/-- A pattern is put behind the others, or it is there already, so that no search can tell. -/
theorem find?_insertPattern (hs : s.Valid) {p : PatternRule}
    (hp : PatternRule.ofSource? p.source = some p) (f : PatternRule → Bool) :
    (s.insertPattern p).patterns.find? f = (s.patterns ++ [p]).find? f := by
  rw [insertPattern]
  split
  · rename_i h
    obtain ⟨q, hq, hsource⟩ := hasSource_iff.mp h
    -- the pattern with this source is the same one
    have hqp : q = p := by
      have := hs.ofSource?_source q hq
      rw [hsource, hp] at this
      exact (Option.some.inj this).symm
    rw [List.find?_append]
    -- if the search gets as far as the end, it has already passed by that pattern
    rcases hfind : s.patterns.find? f with _ | r
    · have hfq := List.find?_eq_none.mp hfind q hq
      rw [hqp] at hfq
      simp [hfq]
    · rfl
  · rfl

namespace Valid

theorem empty : ({} : RuleSet).Valid :=
  ⟨List.nodup_nil, List.nodup_nil, fun _ hp => absurd hp (List.not_mem_nil)⟩

/-- The same patterns with other domains. -/
theorem withDomains (hs : s.Valid) {ds : List (List Char)} (h : ds.Nodup) :
    ({ s with domains := ds } : RuleSet).Valid :=
  ⟨h, hs.sources_nodup, hs.ofSource?_source⟩

theorem addDomain (hs : s.Valid) (d : List Char) : (s.addDomain d).Valid := by
  rw [RuleSet.addDomain]
  split
  · exact hs
  · exact hs.withDomains hs.domains_nodup.insert

theorem removeDomain (hs : s.Valid) (d : List Char) : (s.removeDomain d).Valid :=
  hs.withDomains (hs.domains_nodup.erase _)

theorem insertPattern (hs : s.Valid) {p : PatternRule}
    (hp : PatternRule.ofSource? p.source = some p) : (s.insertPattern p).Valid := by
  rw [RuleSet.insertPattern]
  split
  · exact hs
  · rename_i h
    rw [hasSource_iff, not_exists] at h
    refine ⟨hs.domains_nodup, ?_, ?_⟩
    · rw [List.map_append, List.nodup_append]
      refine ⟨hs.sources_nodup, by simp, ?_⟩
      intro a ha b hb
      obtain ⟨q, hq, rfl⟩ := List.mem_map.mp ha
      rw [List.map_singleton, List.mem_singleton] at hb
      rw [hb]
      exact fun heq => h q ⟨hq, heq⟩
    · intro q hq
      rcases List.mem_append.mp hq with hq | hq
      · exact hs.ofSource?_source q hq
      · rw [List.mem_singleton.mp hq]
        exact hp

theorem insertPatterns (hs : s.Valid) {ps : List PatternRule}
    (hps : ∀ p ∈ ps, PatternRule.ofSource? p.source = some p) :
    (ps.foldl RuleSet.insertPattern s).Valid := by
  induction ps generalizing s with
  | nil => exact hs
  | cons p ps ih =>
    refine ih (hs.insertPattern (hps p (List.mem_cons_self ..))) ?_
    intro q hq
    exact hps q (List.mem_cons_of_mem _ hq)

theorem apply (hs : s.Valid) (l : FilterList) : (s.apply (Batch.ofList l)).Valid := by
  refine insertPatterns (hs.withDomains (nodup_foldl_insert _ hs.domains_nodup)) ?_
  intro p hp
  exact Batch.ofSource?_of_mem hp

theorem change (hs : s.Valid) (c : RuleChange) : (s.change c).Valid := by
  cases c with
  | addDomain d => exact hs.addDomain d
  | removeDomain d => exact hs.removeDomain d
  | addPattern source =>
    rw [RuleSet.change, addPattern?]
    rcases hp : PatternRule.ofSource? source with _ | p
    · exact hs
    · exact hs.insertPattern (PatternRule.ofSource?_source hp)
  | apply l => exact hs.apply l

theorem changeAll (hs : s.Valid) (h : List RuleChange) : (s.changeAll h).Valid := by
  induction h generalizing s with
  | nil => exact hs
  | cons c h ih => exact ih (hs.change c)

theorem ofHistory (history : List RuleChange) : (RuleSet.ofHistory history).Valid :=
  empty.changeAll history

end Valid

theorem mem_change (hs : s.Valid) {c : RuleChange} {d : List Char} :
    d ∈ (s.change c).domains ↔ c.Puts d ∨ (d ∈ s.domains ∧ ¬ c.Removes d) := by
  cases c with
  | addDomain x =>
    rw [change, mem_addDomain]
    simp [RuleChange.Puts, RuleChange.Removes]
  | removeDomain x =>
    rw [change, mem_removeDomain hs.domains_nodup]
    simp [RuleChange.Puts, RuleChange.Removes]
  | addPattern source =>
    have hdomains : (s.change (.addPattern source)).domains = s.domains := by
      rw [change, addPattern?]
      rcases PatternRule.ofSource? source with _ | p
      · rfl
      · exact insertPattern_domains s p
    rw [hdomains]
    simp [RuleChange.Puts, RuleChange.Removes]
  | apply l =>
    rw [change, mem_apply, Batch.ofList, List.mem_map]
    simp [RuleChange.Puts, RuleChange.Removes, or_comm]

/-- After some changes, a set holds the domains that are stored by their history. -/
theorem mem_ofHistory {history : List RuleChange} {d : List Char} :
    d ∈ (ofHistory history).domains ↔ Stored history d := by
  -- from the end: the last change is looked at first
  induction history using List.reverseRecOn with
  | nil => simp [ofHistory, not_stored_nil]
  | append_singleton history c ih =>
    rw [ofHistory_concat, mem_change (Valid.ofHistory history), stored_concat, ih]

theorem find?_insertPatterns (hs : s.Valid) {ps : List PatternRule}
    (hps : ∀ p ∈ ps, PatternRule.ofSource? p.source = some p) (f : PatternRule → Bool) :
    (ps.foldl insertPattern s).patterns.find? f = (s.patterns ++ ps).find? f := by
  -- on the patterns still to come; the set they come to changes on the way and stays valid
  induction ps generalizing s with
  | nil => simp
  | cons p ps ih =>
    have hp := hps p (List.mem_cons_self ..)
    rw [List.foldl_cons, ih (hs.insertPattern hp) fun q hq => hps q (List.mem_cons_of_mem _ hq),
      List.find?_append, find?_insertPattern hs hp, ← List.find?_append, List.append_assoc]
    rfl

/-- A search among the patterns after a change is one among those before it and the offers. -/
theorem find?_change (hs : s.Valid) (c : RuleChange) (f : PatternRule → Bool) :
    (s.change c).patterns.find? f =
      (s.patterns ++ c.sources.filterMap PatternRule.ofSource?).find? f := by
  cases c with
  | addDomain d => simp [change, RuleChange.sources]
  | removeDomain d => simp [change, RuleChange.sources]
  | addPattern source =>
    rw [change, addPattern?, RuleChange.sources]
    rcases hp : PatternRule.ofSource? source with _ | p
    · simp [hp]
    · rw [List.filterMap_cons_some hp]
      exact find?_insertPattern hs (PatternRule.ofSource?_source hp) f
  | apply l =>
    rw [change, apply, RuleChange.sources]
    have hvalid := hs.withDomains (nodup_foldl_insert (Batch.ofList l).domains hs.domains_nodup)
    exact find?_insertPatterns hvalid (fun p hp => Batch.ofSource?_of_mem hp) f

/-- After some changes, a search among the patterns is a search among all that was offered. -/
theorem find?_changeAll (hs : s.Valid) (history : List RuleChange) (f : PatternRule → Bool) :
    (s.changeAll history).patterns.find? f =
      (s.patterns ++ (offered history).filterMap PatternRule.ofSource?).find? f := by
  induction history generalizing s with
  | nil => simp [offered]
  | cons c history ih =>
    rw [changeAll_cons, ih (hs.change c), List.find?_append, find?_change hs, ← List.find?_append,
      List.append_assoc, ← List.filterMap_append]
    rfl

end RuleSet

/-! ## The cascade by the history -/

/-- The first stored pattern that matches is the first offered source that does. -/
theorem find?_offered_eq_some_iff {history : List RuleChange} {r : Request} {w : Reason} :
    ((RuleSet.ofHistory history).patterns.find? fun p => p.pattern.occursIn r.url).map
        (.pattern ·.source) = some w ↔ Stage.pattern (offered history) r w := by
  rw [RuleSet.ofHistory, RuleSet.find?_changeAll RuleSet.Valid.empty, List.nil_append,
    List.find?_filterMap]
  simp only [Stage.pattern, ← find?_sourceMatches_eq_some_iff]
  rw [Option.map_eq_some_iff]
  constructor
  · rintro ⟨p, hp, rfl⟩
    obtain ⟨source, hfind, hsource⟩ := Option.bind_eq_some_iff.mp hp
    rw [PatternRule.source_of_ofSource? hsource]
    exact ⟨source, rfl, hfind⟩
  · rintro ⟨source, rfl, hfind⟩
    rcases hp : PatternRule.ofSource? source with _ | p
    · have hmatch := List.find?_some hfind
      rw [hp] at hmatch
      cases hmatch
    · refine ⟨p, Option.bind_eq_some_iff.mpr ⟨source, hfind, hp⟩, ?_⟩
      rw [PatternRule.source_of_ofSource? hp]

/-- After some changes, the set judges by what their history stores and offers. -/
theorem follows_history {history : List RuleChange} {r : Request}
    (hhost : ∀ d, IsBelow r.host d → d ≠ []) :
    Follows ((RuleSet.ofHistory history).reason? r)
      (Stage.stored (Stored history) (offered history)) r :=
  RuleSet.follows_stored (fun _ => RuleSet.mem_ofHistory) (fun d _ => hhost d)
    (fun _ => find?_offered_eq_some_iff)

end AdFilter
