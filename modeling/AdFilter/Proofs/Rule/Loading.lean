import AdFilter.Proofs.Rule.Finding
import AdFilter.Proofs.Rule.NormalForm

/-!
# Four ways to load a domain

A domain gets into a set of rules by the user's word, by an anchored line or an address line of a
filter list, or by a line of the user's overrides. The three kinds of lines always do the same
(`ofLine?_anchoredLine`, `ofLine?_sinkLine`, `overrideDomains_eq`). The user's word does the same as
they do unless the domain ends in a dot: a line keeps that dot, and what it stores then matches no
host. `same_addDomain_iff_of_dot` says when the outcome is the same all the same, and `loading_spec`
puts it all together.
-/

namespace AdFilter

open Text

/-! ## Sets that hold the same -/

namespace RuleSet

/-- Whether two sets hold the same rules, the order of the domains aside. -/
def Same (s t : RuleSet) : Prop := (∀ d, d ∈ s.domains ↔ d ∈ t.domains) ∧ s.patterns = t.patterns

/-- The set with one more domain, as it is given. -/
def withDomain (s : RuleSet) (d : List Char) : RuleSet :=
  { s with domains := s.domains.insert d }

variable {s t : RuleSet} {d : List Char}

/-- Sets that hold the same judge the same. -/
theorem Same.reason?_eq (h : Same s t) (r : Request) : s.reason? r = t.reason? r :=
  reason?_congr (fun d _ => h.1 d) h.2

theorem addDomain_of_ne_nil (s : RuleSet) (hne : normalDomain d ≠ []) :
    s.addDomain d = s.withDomain (normalDomain d) := by
  rw [addDomain, if_neg]
  · rfl
  · rw [List.isEmpty_iff]
    exact hne

theorem addDomain_of_nil (s : RuleSet) (hnil : normalDomain d = []) : s.addDomain d = s := by
  rw [addDomain, hnil]
  rfl

theorem mem_withDomain {x : List Char} : x ∈ (s.withDomain d).domains ↔ x = d ∨ x ∈ s.domains :=
  List.mem_insert_iff

/-- A domain that is neither the host nor above it makes no difference. -/
theorem reason?_withDomain {r : Request} (h : ¬ BelongsTo r.host d) :
    (s.withDomain d).reason? r = s.reason? r := by
  refine reason?_congr (fun x hx => ?_) rfl
  rw [mem_withDomain]
  refine or_iff_right ?_
  rintro rfl
  exact h hx

end RuleSet

/-! ## Lines -/

section

variable {d : List Char}

theorem change_apply_singleton (s : RuleSet) (d : List Char) :
    s.change (.apply ⟨[d], []⟩) = s.withDomain (lower d) := rfl

/-- A text of one line that blocks a domain is a list of this one domain. -/
theorem ofText_of_ofLine? {line : List Char} (hne : line ≠ []) (hline : '\n' ∉ line)
    (h : Entry.ofLine? line = some (.domain d)) : FilterList.ofText line = ⟨[d], []⟩ := by
  rw [FilterList.ofText, lines_eq_singleton hne hline, List.filterMap_cons_some h]
  rfl

/-- The line for a domain and all below it. -/
def anchoredLine (d : List Char) : List Char := '|' :: '|' :: d ++ ['^']

/-- The line of a hosts file that makes a domain unreachable. -/
def sinkLine (d : List Char) : List Char := "0.0.0.0".toList ++ ' ' :: d

theorem isBlank_of_mem_anchoredLine (hd : ∀ c ∈ d, isBlank c = false) :
    ∀ c ∈ anchoredLine d, isBlank c = false := by
  intro c hc
  simp only [anchoredLine, List.cons_append, List.mem_cons, List.mem_append, List.not_mem_nil,
    or_false] at hc
  rcases hc with rfl | rfl | hc | rfl
  · rfl
  · rfl
  · exact hd c hc
  · rfl

theorem anchoredDomain?_anchoredLine (hcaret : '^' ∉ d) :
    anchoredDomain? (anchoredLine d) = some d := by
  have htake : (d ++ ['^']).takeWhile (· != '^') = d := by
    rw [List.takeWhile_append_of_pos]
    · exact List.append_nil d
    · intro c hc
      rw [bne_iff_ne]
      rintro rfl
      exact hcaret hc
  have hcontains : (d ++ ['^']).contains '^' = true := by
    rw [List.contains_iff_mem]
    exact List.mem_concat_self
  have hfront : dropFront? ['|', '|'] (anchoredLine d) = some (d ++ ['^']) := rfl
  rw [anchoredDomain?, hfront, Option.bind_eq_bind, Option.bind_some, if_pos hcontains, htake]
  rfl

theorem ofLine?_anchoredLine (hvalid : isValidDomain d = true) (hcaret : '^' ∉ d) :
    Entry.ofLine? (anchoredLine d) = some (.domain (lower d)) := by
  have htrim := trim_eq_self (isBlank_of_mem_anchoredLine (isBlank_of_isValidDomain hvalid))
  rw [Entry.ofLine?, htrim, anchoredDomain?_anchoredLine hcaret, if_neg]
  · exact if_pos hvalid
  · simp [anchoredLine]

theorem sinkLine_eq (d : List Char) :
    sinkLine d = '0' :: '.' :: '0' :: '.' :: '0' :: '.' :: '0' :: ' ' :: d := by
  have haddress : "0.0.0.0".toList = ['0', '.', '0', '.', '0', '.', '0'] := by
    simp
  unfold sinkLine
  rw [haddress]
  rfl

theorem trim_sinkLine (hne : d ≠ []) (hd : ∀ c ∈ d, isBlank c = false) :
    trim (sinkLine d) = sinkLine d := by
  have hstart : trimStart (sinkLine d) = sinkLine d := by
    refine trimStart_eq_self fun c hc => ?_
    rw [sinkLine_eq] at hc
    cases hc
    rfl
  rw [trim, hstart]
  refine dropEndWhile_eq_self_iff.mpr fun c hc => ?_
  unfold sinkLine at hc
  rw [List.getLast?_append_cons, List.getLast?_cons_of_ne_nil hne] at hc
  exact hd c (List.mem_of_getLast? hc)

theorem words_sinkLine (hne : d ≠ []) (hd : ∀ c ∈ d, isBlank c = false) :
    words (sinkLine d) = ["0.0.0.0".toList, d] := by
  unfold sinkLine
  rw [words_append (by decide) (by decide), words_eq_singleton hne hd]

theorem ofLine?_sinkLine (hvalid : isValidDomain d = true) :
    Entry.ofLine? (sinkLine d) = some (.domain (lower d)) := by
  have hne := List.ne_nil_of_mem (mem_of_isValidDomain hvalid)
  have hblank := isBlank_of_isValidDomain hvalid
  have hanchored : anchoredDomain? (sinkLine d) = none := by
    rw [sinkLine_eq]
    rfl
  have hsink : sinkAddresses.any (·.isPrefixOf (sinkLine d)) = true := by
    refine List.any_eq_true.mpr ⟨_, List.mem_cons_self .., ?_⟩
    rw [List.isPrefixOf_iff_prefix]
    exact List.prefix_append ..
  rw [Entry.ofLine?, trim_sinkLine hne hblank, hanchored, if_neg]
  · dsimp only
    rw [if_pos hsink, words_sinkLine hne hblank]
    exact if_pos hvalid
  · simp [sinkLine_eq]

theorem overrideDomains_eq (hvalid : isValidDomain d = true) (hhash : d.head? ≠ some '#') :
    overrideDomains d = [lower d] := by
  have hdot := mem_of_isValidDomain hvalid
  have hne := List.ne_nil_of_mem hdot
  have hblank := isBlank_of_isValidDomain hvalid
  have hfeed : '\n' ∉ d := by
    intro hmem
    have hfalse := hblank _ hmem
    revert hfalse
    decide
  have hline : overrideDomain? d = some (lower d) := by
    rw [overrideDomain?, trim_eq_self hblank, words_eq_singleton hne hblank, if_neg]
    · exact if_pos (List.contains_iff_mem.mpr hdot)
    · simp [hne, hhash]
  rw [overrideDomains, lines_eq_singleton hne hfeed, List.filterMap_cons_some hline]
  rfl

/-! ## The user's word -/

/-- Without a dot at its end, a domain is stored in lower case. -/
theorem normalDomain_eq_lower (hvalid : isValidDomain d = true) (hdot : d.getLast? ≠ some '.') :
    normalDomain d = lower d := by
  rw [normalDomain, trim_eq_self (isBlank_of_isValidDomain hvalid)]
  refine congrArg lower (dropEndWhile_eq_self_iff.mpr fun c hc => ?_)
  rw [beq_eq_false_iff_ne]
  rintro rfl
  exact hdot hc

theorem normalDomain_ne_lower (hdot : d.getLast? = some '.') : normalDomain d ≠ lower d := by
  intro h
  refine getLast?_normalDomain d ?_
  rw [h]
  exact (getLast?_lower_iff isBlankOrDot_dot).mpr hdot

theorem addDomain_eq_withDomain (s : RuleSet) (hvalid : isValidDomain d = true)
    (hdot : d.getLast? ≠ some '.') : s.addDomain d = s.withDomain (lower d) := by
  have hnormal := normalDomain_eq_lower hvalid hdot
  have hne : normalDomain d ≠ [] := by
    rw [hnormal]
    exact fun h => List.ne_nil_of_mem (mem_of_isValidDomain hvalid) (lower_eq_nil_iff.mp h)
  rw [RuleSet.addDomain_of_ne_nil s hne, hnormal]

/-- With a dot at its end, a domain is stored in two forms, without the dot by the user's word and
with it by a line. The outcome is the same only if both are there already. -/
theorem same_addDomain_iff_of_dot (s : RuleSet) (hdot : d.getLast? = some '.') :
    (s.addDomain d).Same (s.withDomain (lower d)) ↔
      (normalDomain d = [] ∨ normalDomain d ∈ s.domains) ∧ lower d ∈ s.domains := by
  have hne := normalDomain_ne_lower hdot
  have hlower : lower d ≠ [] := by
    intro h
    rw [lower_eq_nil_iff.mp h] at hdot
    cases hdot
  constructor
  · rintro ⟨hdomains, -⟩
    constructor
    · -- a new normal form would have to be the other form
      by_contra hnew
      rw [not_or] at hnew
      rcases RuleSet.mem_withDomain.mp ((hdomains _).mp
        (RuleSet.mem_addDomain.mpr (Or.inl ⟨rfl, hnew.1⟩))) with h | h
      · exact hne h
      · exact hnew.2 h
    · rcases RuleSet.mem_addDomain.mp ((hdomains _).mpr
        (RuleSet.mem_withDomain.mpr (Or.inl rfl))) with ⟨h, -⟩ | h
      · exact absurd h hne
      · exact h
  · rintro ⟨hnormal, hmem⟩
    refine ⟨fun x => ?_, RuleSet.addDomain_patterns s d⟩
    rw [RuleSet.mem_addDomain, RuleSet.mem_withDomain]
    constructor
    · rintro (⟨rfl, hx⟩ | hx)
      · exact Or.inr (hnormal.resolve_left hx)
      · exact Or.inr hx
    · rintro (rfl | hx)
      · exact Or.inr hmem
      · exact Or.inr hx

/-- What ends in a dot is no domain of a host, nor above one. -/
theorem not_belongsTo_of_dot {host : List Char} (hhost : host.getLast? ≠ some '.')
    (hdot : d.getLast? = some '.') : ¬ BelongsTo host d := by
  rintro (rfl | ⟨front, rfl⟩)
  · exact hhost hdot
  · refine hhost ?_
    rw [List.getLast?_append_cons, List.getLast?_cons_of_ne_nil, hdot]
    rintro rfl
    cases hdot

/-- Four ways to load a domain. The three kinds of lines make the same set out of any. So does the
user's word if the domain does not end in a dot. If it does, the outcome is the same only if both
forms of the domain are there already; and then the lines make no difference to any request. -/
theorem loading_spec (s : RuleSet) (hvalid : isValidDomain d = true) (hcaret : '^' ∉ d)
    (hhash : d.head? ≠ some '#') :
    s.change (.apply (FilterList.ofText (anchoredLine d))) = s.withDomain (lower d) ∧
      s.change (.apply (FilterList.ofText (sinkLine d))) = s.withDomain (lower d) ∧
      s.change (.apply ⟨overrideDomains d, []⟩) = s.withDomain (lower d) ∧
      ((s.change (.addDomain d)).Same (s.withDomain (lower d)) →
        ∀ r, (s.change (.addDomain d)).reason? r = (s.withDomain (lower d)).reason? r) ∧
      (d.getLast? ≠ some '.' → s.change (.addDomain d) = s.withDomain (lower d)) ∧
      (d.getLast? = some '.' →
        ((s.change (.addDomain d)).Same (s.withDomain (lower d)) ↔
          (normalDomain d = [] ∨ normalDomain d ∈ s.domains) ∧ lower d ∈ s.domains) ∧
        ∀ url r, Request.ofText? url = some r →
          (s.withDomain (lower d)).reason? r = s.reason? r) := by
  have hblank := isBlank_of_isValidDomain hvalid
  -- a list puts its domains in lower case a second time
  have hlisted : s.change (.apply ⟨[lower d], []⟩) = s.withDomain (lower d) := by
    rw [change_apply_singleton, lower_lower]
  have hanchored : '\n' ∉ anchoredLine d := fun h =>
    absurd (isBlank_of_mem_anchoredLine hblank _ h) (by decide)
  have hsink : '\n' ∉ sinkLine d := by
    rw [sinkLine_eq]
    intro h
    simp only [List.mem_cons, Char.reduceEq, false_or] at h
    exact absurd (hblank _ h) (by decide)
  refine ⟨?_, ?_, ?_, RuleSet.Same.reason?_eq, addDomain_eq_withDomain s hvalid, ?_⟩
  · have hne : anchoredLine d ≠ [] := List.cons_ne_nil _ _
    rw [ofText_of_ofLine? hne hanchored (ofLine?_anchoredLine hvalid hcaret)]
    exact hlisted
  · have hne : sinkLine d ≠ [] := by
      rw [sinkLine_eq]
      exact List.cons_ne_nil _ _
    rw [ofText_of_ofLine? hne hsink (ofLine?_sinkLine hvalid)]
    exact hlisted
  · rw [overrideDomains_eq hvalid hhash]
    exact hlisted
  · intro hdot
    refine ⟨same_addDomain_iff_of_dot s hdot, fun url r hr => ?_⟩
    refine RuleSet.reason?_withDomain (not_belongsTo_of_dot (Request.getLast?_host hr) ?_)
    exact (getLast?_lower_iff isBlankOrDot_dot).mpr hdot

end

/-- A host that the user's word blocks, with the dot at the end, and an address line does not. -/
theorem loading_spec_of_dot :
    let d := "ads.example.com.".toList
    let r : Request := ⟨"ads.example.com".toList, "https://ads.example.com/x".toList⟩
    Request.ofText? "https://ads.example.com/x".toList = some r ∧
      (({} : RuleSet).change (.addDomain d)).reason? r = some .domain ∧
      (({} : RuleSet).change (.apply (FilterList.ofText (sinkLine d)))).reason? r = none := by
  intro d r
  have hr : Request.ofText? "https://ads.example.com/x".toList = some r := by
    decide +kernel
  obtain ⟨-, hsink, -, -, -, hdot⟩ := loading_spec ({} : RuleSet) (d := d) (by decide)
    (by decide) (by decide)
  obtain ⟨-, hsame⟩ := hdot (by decide)
  refine ⟨hr, by decide, ?_⟩
  rw [hsink, hsame _ _ hr]
  rfl

end AdFilter
