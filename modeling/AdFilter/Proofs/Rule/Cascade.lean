import AdFilter.Rule.Priority
import AdFilter.Rule.Set
import Mathlib.Data.List.Basic

/-!
# The cascade of rules

What blocks a request, said without the way in which rules are searched. Five *stages* look at a
request one after the other, and the first that has a reason decides:

* a critical domain, then a critical marker, each the first of its table;
* the host itself among the stored domains, then the longest stored domain that the host is below;
* the first pattern, in the order of the sources, that matches the address.

`FirstStage` runs through a list of stages. `follows_critical` and `RuleSet.follows_stored` say that
the two searches of the library find exactly what their stages say.
-/

namespace AdFilter

open Text

/-! ## First and longest -/

/-- The first member of a list that has a property. -/
def IsFirst {α : Type} (p : α → Prop) (xs : List α) (x : α) : Prop :=
  ∃ before after, xs = before ++ x :: after ∧ p x ∧ ∀ y ∈ before, ¬ p y

theorem find?_eq_some_iff_isFirst {α : Type} {p : α → Bool} {xs : List α} {x : α} :
    xs.find? p = some x ↔ IsFirst (p · = true) xs x := by
  rw [List.find?_eq_some_iff_append]
  constructor
  · rintro ⟨hx, before, after, hxs, hbefore⟩
    refine ⟨before, after, hxs, hx, ?_⟩
    intro y hy
    simpa using hbefore y hy
  · rintro ⟨before, after, hxs, hx, hbefore⟩
    refine ⟨hx, before, after, hxs, ?_⟩
    intro y hy
    simpa using hbefore y hy

/-- A text that has a property, and is as long as any other that has it. -/
def IsLongest (p : List Char → Prop) (x : List Char) : Prop :=
  p x ∧ ∀ y, p y → y.length ≤ x.length

/-! ## Domains and what is below them -/

/-- A host is below a domain if it ends in a dot and the domain. -/
def IsBelow (host domain : List Char) : Prop := ('.' :: domain) <:+ host

/-- A host belongs to a domain if it is the domain or is below it. -/
def BelongsTo (host domain : List Char) : Prop := host = domain ∨ IsBelow host domain

theorem isSameOrSubdomain_iff {host domain : List Char} :
    isSameOrSubdomain host domain = true ↔ BelongsTo host domain := by
  simp only [isSameOrSubdomain, Bool.and_eq_true, List.isSuffixOf_iff_suffix]
  constructor
  · rintro ⟨⟨front, rfl⟩, hdot⟩
    rw [List.length_append, Nat.add_sub_cancel, List.take_left' rfl] at hdot
    -- what stands in front of the domain is nothing, or its last character is the dot
    rcases List.eq_nil_or_concat front with rfl | ⟨init, c, rfl⟩
    · exact Or.inl (by simp)
    · rw [List.concat_eq_append, List.getLast?_concat] at hdot
      have hc : c = '.' := by simpa using hdot
      exact Or.inr ⟨init, by simp [hc]⟩
  · rintro (rfl | ⟨init, rfl⟩)
    · exact ⟨List.suffix_refl _, by simp⟩
    · refine ⟨⟨init ++ ['.'], by simp⟩, ?_⟩
      have hlen : (init ++ '.' :: domain).length - domain.length = (init ++ ['.']).length := by
        simp only [List.length_append, List.length_cons, List.length_nil]
        omega
      rw [hlen, show init ++ '.' :: domain = (init ++ ['.']) ++ domain by simp,
        List.take_left' rfl, List.getLast?_concat]
      rfl

/-- The nearest domain above a host is what follows its first dot. -/
theorem isBelow_cons {c : Char} {rest p : List Char} :
    IsBelow (c :: rest) p ↔ (c = '.' ∧ p = rest) ∨ IsBelow rest p := by
  rw [IsBelow, List.suffix_cons_iff, List.cons.injEq]
  simp only [IsBelow, eq_comm]

theorem IsBelow.length_lt {host p : List Char} (h : IsBelow host p) : p.length < host.length := by
  have := h.length_le
  rw [List.length_cons] at this
  omega

theorem not_isBelow_nil {p : List Char} : ¬ IsBelow [] p := by
  intro h
  have := h.length_lt
  simp at this

theorem mem_parentDomains {host p : List Char} :
    p ∈ parentDomains host ↔ p ≠ [] ∧ IsBelow host p := by
  induction host with
  | nil => simp [parentDomains, not_isBelow_nil]
  | cons c rest ih =>
    rw [parentDomains, isBelow_cons]
    by_cases hc : c = '.'
    · rcases rest with _ | ⟨d, rest⟩
      · simp [hc, not_isBelow_nil]
      · rw [if_pos hc, List.isEmpty_cons, if_neg Bool.false_ne_true, List.mem_cons, ih]
        constructor
        · rintro (rfl | ⟨hne, hbelow⟩)
          · exact ⟨List.cons_ne_nil _ _, Or.inl ⟨hc, rfl⟩⟩
          · exact ⟨hne, Or.inr hbelow⟩
        · rintro ⟨hne, ⟨-, rfl⟩ | hbelow⟩
          · exact Or.inl rfl
          · exact Or.inr ⟨hne, hbelow⟩
    · rw [if_neg hc, ih]
      simp [hc]

/-- The parents of a host come the longest first. -/
theorem parentDomains_pairwise (host : List Char) :
    (parentDomains host).Pairwise fun p q => q.length < p.length := by
  induction host with
  | nil => exact List.Pairwise.nil
  | cons c rest ih =>
    rw [parentDomains]
    split
    · split
      · exact List.Pairwise.nil
      · refine List.pairwise_cons.mpr ⟨?_, ih⟩
        intro p hp
        exact (mem_parentDomains.mp hp).2.length_lt
    · exact ih

/-- The first parent with a property is the longest one. -/
theorem find?_parentDomains_eq_some_iff {p : List Char → Bool} {host x : List Char} :
    (parentDomains host).find? p = some x ↔
      IsLongest (fun y => y ≠ [] ∧ p y = true ∧ IsBelow host y) x := by
  rw [find?_eq_some_iff_isFirst]
  constructor
  · rintro ⟨before, after, hsplit, hx, hbefore⟩
    have hmem : x ∈ parentDomains host := by simp [hsplit]
    obtain ⟨hne, hbelow⟩ := mem_parentDomains.mp hmem
    refine ⟨⟨hne, hx, hbelow⟩, ?_⟩
    rintro y ⟨hyne, hy, hybelow⟩
    have hymem := mem_parentDomains.mpr ⟨hyne, hybelow⟩
    rw [hsplit, List.mem_append, List.mem_cons] at hymem
    rcases hymem with hymem | rfl | hymem
    · exact absurd hy (hbefore y hymem)
    · exact Nat.le_refl _
    · -- what comes after `x` is shorter than `x`
      have hsorted := parentDomains_pairwise host
      rw [hsplit] at hsorted
      have htail := (List.pairwise_append.mp hsorted).2.1
      exact Nat.le_of_lt ((List.pairwise_cons.mp htail).1 y hymem)
  · rintro ⟨⟨hne, hx, hbelow⟩, hlongest⟩
    obtain ⟨before, after, hsplit⟩ := List.append_of_mem (mem_parentDomains.mpr ⟨hne, hbelow⟩)
    refine ⟨before, after, hsplit, hx, ?_⟩
    intro y hy hpy
    -- what comes before `x` is longer than `x`
    have hymem : y ∈ parentDomains host := by
      rw [hsplit]
      exact List.mem_append_left _ hy
    obtain ⟨hyne, hybelow⟩ := mem_parentDomains.mp hymem
    have hle := hlongest y ⟨hyne, hpy, hybelow⟩
    have hsorted := parentDomains_pairwise host
    rw [hsplit] at hsorted
    have hlt := (List.pairwise_append.mp hsorted).2.2 y hy x (List.mem_cons_self ..)
    omega

/-! ## Stages -/

/-- A stage of the cascade: for which reasons it blocks a request. -/
abbrev Stage : Type := Request → Reason → Prop

/-- Whether the pattern that a source writes occurs in an address. -/
def SourceMatches (url source : List Char) : Prop :=
  ∃ p, Pattern.ofSource? source = some p ∧ p.occursIn url = true

theorem sourceMatches_iff {url source : List Char} :
    SourceMatches url source ↔
      ((PatternRule.ofSource? source).any fun p => p.pattern.occursIn url) = true := by
  rw [SourceMatches, PatternRule.ofSource?]
  rcases Pattern.ofSource? source with _ | p
  · simp
  · simp

/-- The first source that matches is found by trying them one after the other. -/
theorem find?_sourceMatches_eq_some_iff {url x : List Char} {sources : List (List Char)} :
    (sources.find? fun s => (PatternRule.ofSource? s).any fun p => p.pattern.occursIn url) =
      some x ↔ IsFirst (SourceMatches url) sources x := by
  have hsame : SourceMatches url =
      fun s => ((PatternRule.ofSource? s).any fun p => p.pattern.occursIn url) = true :=
    funext fun _ => propext sourceMatches_iff
  rw [find?_eq_some_iff_isFirst, hsame]

namespace Stage

/-- The first critical domain that the host belongs to. -/
def criticalDomain : Stage := fun r w =>
  ∃ d, w = .criticalDomain d ∧ r.host ≠ [] ∧ IsFirst (BelongsTo r.host) BuiltIn.criticalDomains d

/-- The first critical marker in the address. -/
def criticalMarker : Stage := fun r w =>
  ∃ m, w = .criticalMarker m ∧ IsFirst (· <:+: r.url) BuiltIn.criticalMarkers m

/-- The host itself is stored. -/
def domain (stored : List Char → Prop) : Stage := fun r w =>
  w = .domain ∧ r.host ≠ [] ∧ stored r.host

/-- The longest stored domain that the host is below. -/
def subdomain (stored : List Char → Prop) : Stage := fun r w =>
  ∃ p, w = .subdomain p ∧ IsLongest (fun q => stored q ∧ IsBelow r.host q) p

/-- The first source whose pattern matches the address. -/
def pattern (sources : List (List Char)) : Stage := fun r w =>
  ∃ s, w = .pattern s ∧ IsFirst (SourceMatches r.url) sources s

/-- The stages that look at the fixed tables. -/
def critical : List Stage := [criticalDomain, criticalMarker]

/-- The stages that look at the stored domains and the sources of the patterns. -/
def stored (domains : List Char → Prop) (sources : List (List Char)) : List Stage :=
  [domain domains, subdomain domains, pattern sources]

end Stage

/-- The verdict of the first of some stages that has a reason: that reason, or none if no stage has
one. -/
def FirstStage : List Stage → Request → Option Reason → Prop
  | [], _, o => o = none
  | stage :: rest, r, o =>
    (∃ w, stage r w ∧ o = some w) ∨ ((∀ w, ¬ stage r w) ∧ FirstStage rest r o)

/-- The stages of two lists, one list after the other: the second is asked only if no stage of the
first has a reason. -/
theorem firstStage_append {front back : List Stage} {r : Request} {o : Option Reason} :
    FirstStage (front ++ back) r o ↔
      (o ≠ none ∧ FirstStage front r o) ∨ (FirstStage front r none ∧ FirstStage back r o) := by
  induction front with
  | nil =>
    simp only [List.nil_append, FirstStage]
    constructor
    · intro ho
      exact Or.inr ⟨trivial, ho⟩
    · rintro (⟨hne, rfl⟩ | ⟨-, ho⟩)
      · exact absurd rfl hne
      · exact ho
  | cons stage rest ih =>
    rw [List.cons_append, FirstStage, FirstStage, FirstStage, ih]
    constructor
    · rintro (⟨w, hw, rfl⟩ | ⟨hnone, ⟨hne, ho⟩ | ⟨hrest, ho⟩⟩)
      · exact Or.inl ⟨Option.some_ne_none w, Or.inl ⟨w, hw, rfl⟩⟩
      · exact Or.inl ⟨hne, Or.inr ⟨hnone, ho⟩⟩
      · exact Or.inr ⟨Or.inr ⟨hnone, hrest⟩, ho⟩
    · rintro (⟨hne, ⟨w, hw, rfl⟩ | ⟨hnone, ho⟩⟩ | ⟨⟨w, -, hcases⟩ | ⟨hnone, hrest⟩, ho⟩)
      · exact Or.inl ⟨w, hw, rfl⟩
      · exact Or.inr ⟨hnone, Or.inl ⟨hne, ho⟩⟩
      · cases hcases
      · exact Or.inr ⟨hnone, Or.inr ⟨hrest, ho⟩⟩

/-- A search *follows* some stages on a request if it finds their verdict and no other. -/
def Follows (found : Option Reason) (stages : List Stage) (r : Request) : Prop :=
  ∀ o, found = o ↔ FirstStage stages r o

/-- A search for the reason of one stage. -/
theorem follows_stage {found : Option Reason} {stage : Stage} {r : Request}
    (h : ∀ w, found = some w ↔ stage r w) : Follows found [stage] r := by
  intro o
  rcases o with _ | w
  · simp only [FirstStage, Option.eq_none_iff_forall_ne_some, ne_eq, h]
    simp
  · simp only [FirstStage, h w]
    simp

/-- One search, and where it finds nothing another one. -/
theorem Follows.or {found others : Option Reason} {front back : List Stage} {r : Request}
    (hfront : Follows found front r) (hback : Follows others back r) :
    Follows (found.or others) (front ++ back) r := by
  intro o
  rw [firstStage_append, ← hfront, ← hfront, ← hback]
  rcases found with _ | w
  · rw [Option.none_or]
    constructor
    · intro ho
      exact Or.inr ⟨rfl, ho⟩
    · rintro (⟨hne, rfl⟩ | ⟨-, ho⟩)
      · exact absurd rfl hne
      · exact ho
  · rw [Option.some_or]
    constructor
    · rintro rfl
      exact Or.inl ⟨Option.some_ne_none w, rfl⟩
    · rintro (⟨-, ho⟩ | ⟨hcases, -⟩)
      · exact ho
      · cases hcases

/-! ## The two searches -/

/-- The critical rules follow their two stages. -/
theorem follows_critical (r : Request) : Follows (criticalReason? r) Stage.critical r := by
  have hdomain : Follows
      ((if r.host.isEmpty then none
        else BuiltIn.criticalDomains.find? (isSameOrSubdomain r.host)).map .criticalDomain)
      [Stage.criticalDomain] r := by
    refine follows_stage fun w => ?_
    rw [Option.map_eq_some_iff]
    rcases hhost : r.host with _ | ⟨c, rest⟩
    · simp [Stage.criticalDomain, hhost]
    · simp only [List.isEmpty_cons, Bool.false_eq_true, if_false, find?_eq_some_iff_isFirst,
        isSameOrSubdomain_iff, Stage.criticalDomain, hhost]
      constructor
      · rintro ⟨d, hd, rfl⟩
        exact ⟨d, rfl, List.cons_ne_nil _ _, hd⟩
      · rintro ⟨d, rfl, -, hd⟩
        exact ⟨d, hd, rfl⟩
  have hmarker : Follows
      ((BuiltIn.criticalMarkers.find? (occursIn · r.url)).map .criticalMarker)
      [Stage.criticalMarker] r := by
    refine follows_stage fun w => ?_
    simp only [Option.map_eq_some_iff, find?_eq_some_iff_isFirst, occursIn_iff,
      Stage.criticalMarker]
    constructor
    · rintro ⟨m, hm, rfl⟩
      exact ⟨m, rfl, hm⟩
    · rintro ⟨m, rfl, hm⟩
      exact ⟨m, hm, rfl⟩
  -- the search for a marker counts only where the search for a domain finds nothing
  have hor := hdomain.or hmarker
  rw [criticalReason?]
  rcases hd : (if r.host.isEmpty then none
      else BuiltIn.criticalDomains.find? (isSameOrSubdomain r.host)) with _ | d
  · rw [hd] at hor
    exact hor
  · rw [hd] at hor
    exact hor

/-- A set of rules follows its three stages, for whatever describes its domains and the pattern that
it finds. An empty domain must not count: a walk along the parents of a host never comes to it. -/
theorem RuleSet.follows_stored {s : RuleSet} {r : Request} {domains : List Char → Prop}
    {sources : List (List Char)} (hdomains : ∀ d, d ∈ s.domains ↔ domains d)
    (hbelow : ∀ d, domains d → IsBelow r.host d → d ≠ [])
    (hsources : ∀ w, (s.patterns.find? fun p => p.pattern.occursIn r.url).map (.pattern ·.source) =
      some w ↔ Stage.pattern sources r w) :
    Follows (s.reason? r) (Stage.stored domains sources) r := by
  have hdomain : Follows
      (if !r.host.isEmpty && s.domains.contains r.host then some .domain else none)
      [Stage.domain domains] r := by
    refine follows_stage fun w => ?_
    rw [Option.ite_none_right_eq_some]
    simp only [Bool.and_eq_true, Bool.not_eq_true', List.isEmpty_eq_false_iff,
      List.contains_iff_mem, hdomains, Stage.domain, Option.some.injEq]
    constructor
    · rintro ⟨⟨hne, hmem⟩, rfl⟩
      exact ⟨rfl, hne, hmem⟩
    · rintro ⟨rfl, hne, hmem⟩
      exact ⟨⟨hne, hmem⟩, rfl⟩
  have hparent : Follows (((parentDomains r.host).find? s.domains.contains).map .subdomain)
      [Stage.subdomain domains] r := by
    refine follows_stage fun w => ?_
    simp only [Option.map_eq_some_iff, find?_parentDomains_eq_some_iff, List.contains_iff_mem,
      hdomains, Stage.subdomain]
    -- the walk along the parents leaves out the empty one, which is no stored domain
    have hsame : ∀ q, (q ≠ [] ∧ domains q ∧ IsBelow r.host q) ↔ (domains q ∧ IsBelow r.host q) :=
      fun q => ⟨fun h => h.2, fun h => ⟨hbelow q h.1 h.2, h⟩⟩
    simp only [hsame]
    constructor
    · rintro ⟨p, hp, rfl⟩
      exact ⟨p, rfl, hp⟩
    · rintro ⟨p, rfl, hp⟩
      exact ⟨p, hp, rfl⟩
  have hor := hdomain.or (hparent.or (follows_stage hsources))
  rw [RuleSet.reason?]
  split
  · rename_i h
    rw [if_pos h] at hor
    exact hor
  · rename_i h
    rw [if_neg h] at hor
    rcases hp : (parentDomains r.host).find? s.domains.contains with _ | p
    · rw [hp] at hor
      exact hor
    · rw [hp] at hor
      exact hor

end AdFilter
