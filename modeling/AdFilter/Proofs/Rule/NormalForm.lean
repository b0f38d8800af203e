import AdFilter.Proofs.Rule.History
import AdFilter.Proofs.Text.Lower

/-!
# The normal form of stored domains

A domain can be removed under the form in which it is stored, and it is stored in its normal form,
or nearly so. The normal form takes dots off the end once, after white space, so that a text may
end in white space again; and the domains of lists keep their dots. `EndsPlain` tells apart the
domains that are in normal form (`normalDomain_eq_self_iff`), and `stored_domain_spec` says what
becomes of the others. Hosts never end in a dot.
-/

namespace AdFilter

open Text

/-! ## Hosts -/

/-- The host of a request does not end in a dot. -/
theorem Request.getLast?_host {url : List Char} {r : Request} (h : Request.ofText? url = some r) :
    r.host.getLast? ≠ some '.' := by
  rw [Request.ofText?] at h
  dsimp only at h
  split at h
  · cases h
  · obtain ⟨u, -, hr⟩ := Option.bind_eq_some_iff.mp h
    rw [← Option.some.inj hr]
    intro hlast
    rw [lowerAscii, List.getLast?_map, Option.map_eq_some_iff] at hlast
    obtain ⟨c, hc, hdot⟩ := hlast
    -- lower case makes no dot out of anything else, and the dots at the end are gone
    have hkept := dropEndWhile_eq_self_iff.mp (dropEndWhile_dropEndWhile (· == '.')
      ((u.host.map Url.Host.text).getD [])) c hc
    rw [(toLower_eq_iff (by decide)).mp hdot] at hkept
    exact absurd hkept (by decide)

/-- So the host of a request is below no empty domain. -/
theorem Request.ne_nil_of_isBelow {url : List Char} {r : Request}
    (h : Request.ofText? url = some r) (d : List Char) (hd : IsBelow r.host d) : d ≠ [] := by
  rintro rfl
  obtain ⟨front, hfront⟩ := hd
  refine Request.getLast?_host h ?_
  rw [← hfront, List.getLast?_concat]

/-! ## Entries -/

/-- What all stored domains have in common. -/
structure IsEntry (d : List Char) : Prop where
  ne_nil : d ≠ []
  isLower : ∀ c ∈ d, IsLower c
  isBlank_head : ∀ c, d.head? = some c → isBlank c = false

/-- Whether a text ends neither in white space nor in a dot. -/
def EndsPlain (d : List Char) : Prop := ∀ c, d.getLast? = some c → ¬ IsBlankOrDot c

/-- Nothing is left to do for an entry but at its end. -/
theorem normalDomain_of_isEntry {d : List Char} (h : IsEntry d) :
    normalDomain d = dropEndWhile (· == '.') (trimEnd d) := by
  rw [normalDomain, trim, trimStart_eq_self h.isBlank_head]
  refine lower_eq_self fun c hc => h.isLower c ?_
  exact (dropEndWhile_prefix_self _ d).subset ((dropEndWhile_prefix_self _ _).subset hc)

theorem endsPlain_iff {d : List Char} :
    EndsPlain d ↔ trimEnd d = d ∧ dropEndWhile (· == '.') d = d := by
  rw [trimEnd, dropEndWhile_eq_self_iff, dropEndWhile_eq_self_iff]
  simp only [EndsPlain, isBlankOrDot_iff, not_or, Bool.not_eq_true, beq_eq_false_iff_ne]
  exact ⟨fun h => ⟨fun c hc => (h c hc).1, fun c hc => (h c hc).2⟩,
    fun h c hc => ⟨h.1 c hc, h.2 c hc⟩⟩

/-- An entry is in normal form if it ends plainly, and only then. -/
theorem normalDomain_eq_self_iff {d : List Char} (h : IsEntry d) :
    normalDomain d = d ↔ EndsPlain d := by
  rw [normalDomain_of_isEntry h, endsPlain_iff]
  constructor
  · intro hself
    -- each of the two takes something off or nothing, and together they take off nothing
    have hdots := dropEndWhile_prefix_self (· == '.') (trimEnd d)
    have hblanks : trimEnd d <+: d := dropEndWhile_prefix_self isBlank d
    rw [hself] at hdots
    have htrim : trimEnd d = d := hblanks.eq_of_length_le hdots.length_le
    rw [htrim] at hself
    exact ⟨htrim, hself⟩
  · rintro ⟨htrim, hdots⟩
    rw [htrim, hdots]

/-- The normal form does not end in a dot. -/
theorem getLast?_normalDomain (x : List Char) : (normalDomain x).getLast? ≠ some '.' := by
  rw [normalDomain, Ne, getLast?_lower_iff isBlankOrDot_dot]
  intro h
  have := dropEndWhile_eq_self_iff.mp (dropEndWhile_dropEndWhile (· == '.') (trim x)) _ h
  exact absurd this (by decide)

/-- A normal form is an entry, unless it is empty. -/
theorem isEntry_normalDomain {x : List Char} (hne : normalDomain x ≠ []) :
    IsEntry (normalDomain x) := by
  refine ⟨hne, fun c => isLower_of_mem_lower, ?_⟩
  intro c hc
  by_contra hblank
  rw [Bool.not_eq_false] at hblank
  rw [normalDomain, head?_lower_iff (isBlankOrDot_of_isBlank hblank)] at hc
  have hfalse := isBlank_head?_trim (head?_of_front (dropEndWhile_prefix_self _ _) hc)
  rw [hblank] at hfalse
  cases hfalse

/-! ## Domains that are read -/

/-- A domain as it comes out of a list: a word in lower case. -/
def IsListed (d : List Char) : Prop :=
  ∃ w, w ≠ [] ∧ (∀ c ∈ w, isBlank c = false) ∧ d = lower w

theorem isBlank_of_isListed {d : List Char} (h : IsListed d) : ∀ c ∈ d, isBlank c = false := by
  obtain ⟨w, -, hw, rfl⟩ := h
  intro c hc
  by_contra hblank
  rw [Bool.not_eq_false] at hblank
  rw [mem_lower_iff (isBlankOrDot_of_isBlank hblank)] at hc
  rw [hw c hc] at hblank
  cases hblank

theorem lower_of_isListed {d : List Char} (h : IsListed d) : lower d = d := by
  obtain ⟨w, -, -, rfl⟩ := h
  exact lower_lower w

theorem isEntry_of_isListed {d : List Char} (h : IsListed d) : IsEntry d := by
  have hblank := isBlank_of_isListed h
  obtain ⟨w, hne, -, rfl⟩ := h
  refine ⟨fun hnil => hne (lower_eq_nil_iff.mp hnil), fun c => isLower_of_mem_lower, ?_⟩
  intro c hc
  exact hblank c (List.mem_of_head? hc)

theorem isBlank_of_isValidDomain {d : List Char} (h : isValidDomain d = true) :
    ∀ c ∈ d, isBlank c = false := by
  simp only [isValidDomain, Bool.and_eq_true, Bool.not_eq_true', List.any_eq_false] at h
  intro c hc
  simpa using h.2 c hc

theorem mem_of_isValidDomain {d : List Char} (h : isValidDomain d = true) : '.' ∈ d := by
  simp only [isValidDomain, Bool.and_eq_true, List.contains_iff_mem] at h
  exact h.1.2

theorem isListed_of_ofDomain? {w d : List Char} (h : Entry.ofDomain? w = some (.domain d)) :
    IsListed d := by
  rw [Entry.ofDomain?, Option.ite_none_right_eq_some] at h
  obtain ⟨hvalid, hd⟩ := h
  refine ⟨w, List.ne_nil_of_mem (mem_of_isValidDomain hvalid), isBlank_of_isValidDomain hvalid, ?_⟩
  cases hd
  rfl

theorem isListed_of_ofLine? {line d : List Char} (h : Entry.ofLine? line = some (.domain d)) :
    IsListed d := by
  rw [Entry.ofLine?] at h
  split at h
  · cases h
  · split at h
    · exact isListed_of_ofDomain? h
    · split at h
      · split at h
        · exact isListed_of_ofDomain? h
        · cases h
      · split at h
        · cases h
        · cases h

theorem isListed_of_mem_ofText {text d : List Char} (h : d ∈ (FilterList.ofText text).domains) :
    IsListed d := by
  rw [FilterList.ofText, FilterList.ofEntries, List.mem_filterMap] at h
  obtain ⟨e, he, hd⟩ := h
  obtain ⟨line, -, hline⟩ := List.mem_filterMap.mp he
  cases e with
  | domain name =>
    cases hd
    exact isListed_of_ofLine? hline
  | pattern source => cases hd

theorem isListed_of_mem_overrideDomains {text d : List Char} (h : d ∈ overrideDomains text) :
    IsListed d := by
  obtain ⟨line, -, hline⟩ := List.mem_filterMap.mp h
  rw [overrideDomain?] at hline
  dsimp only at hline
  -- the domain is one of the words of its line, as an empty text has no dot in it
  have hword : ∀ w, '.' ∈ w → (w ∈ words (trim line) ∨ w = []) → lower w = d → IsListed d := by
    intro w hdot hw hd
    rcases hw with hw | rfl
    · exact ⟨w, List.ne_nil_of_mem hdot, fun c => isBlank_of_mem_words hw, hd.symm⟩
    · cases hdot
  split at hline
  · cases hline
  · rw [Option.ite_none_right_eq_some, List.contains_iff_mem] at hline
    obtain ⟨hdot, hd⟩ := hline
    refine hword _ hdot ?_ (Option.some.inj hd)
    split
    · rename_i hwords
      rw [hwords]
      exact Or.inl (List.mem_cons_of_mem _ (List.mem_cons_self ..))
    · rename_i hwords
      rw [hwords]
      exact Or.inl (List.mem_cons_self ..)
    · exact Or.inr rfl

/-! ## Histories of what was typed and read -/

/-- Whether the list of a change, if it applies one, was read from the text of a filter list or of
the user's overrides. -/
def RuleChange.IsRead (c : RuleChange) : Prop :=
  match c with
  | .apply l => ∃ text, l = FilterList.ofText text ∨ l = ⟨overrideDomains text, []⟩
  | _ => True

theorem isListed_of_isRead {l : FilterList} (h : (RuleChange.apply l).IsRead) {x : List Char}
    (hx : x ∈ l.domains) : IsListed x := by
  obtain ⟨text, rfl | rfl⟩ := h
  · exact isListed_of_mem_ofText hx
  · exact isListed_of_mem_overrideDomains hx

/-- A domain is put in by the user, in its normal form, or by a list, as it is there. -/
theorem puts_cases {c : RuleChange} (hread : c.IsRead) {d : List Char} (h : c.Puts d) :
    (∃ x, c = .addDomain x ∧ normalDomain x = d ∧ d ≠ []) ∨
      (∃ l, c = .apply l ∧ d ∈ l.domains ∧ IsListed d) := by
  cases c with
  | addDomain x => exact Or.inl ⟨x, rfl, h.1, h.2⟩
  | removeDomain x => cases h
  | addPattern source => cases h
  | apply l =>
    obtain ⟨x, hx, hd⟩ := h
    have hlisted := isListed_of_isRead hread hx
    rw [lower_of_isListed hlisted] at hd
    rw [hd] at hx hlisted
    exact Or.inr ⟨l, rfl, hx, hlisted⟩

theorem isEntry_of_puts {c : RuleChange} (hread : c.IsRead) {d : List Char} (h : c.Puts d) :
    IsEntry d := by
  rcases puts_cases hread h with ⟨x, -, rfl, hne⟩ | ⟨l, -, -, hlisted⟩
  · exact isEntry_normalDomain hne
  · exact isEntry_of_isListed hlisted

section

variable {history : List RuleChange} {d : List Char}

theorem isEntry_of_stored (hread : ∀ c ∈ history, c.IsRead) (h : Stored history d) :
    IsEntry d := by
  obtain ⟨before, c, after, rfl, hputs, -⟩ := h
  exact isEntry_of_puts (hread c (by simp)) hputs

/-- Where the domains come from that do not end plainly: those with a dot at the end from a list,
those with white space there from the user. -/
theorem origin_of_not_endsPlain (hread : ∀ c ∈ history, c.IsRead) (h : Stored history d)
    (hend : ¬ EndsPlain d) :
    (d.getLast? = some '.' ∧ ∃ l, .apply l ∈ history ∧ d ∈ l.domains) ∨
      (d.getLast?.any isBlank = true ∧ ∃ x, .addDomain x ∈ history ∧ normalDomain x = d) := by
  obtain ⟨before, e, after, rfl, hputs, -⟩ := h
  rw [EndsPlain] at hend
  push Not at hend
  obtain ⟨c, hc, hodd⟩ := hend
  rcases puts_cases (hread e (by simp)) hputs with ⟨x, rfl, rfl, -⟩ | ⟨l, rfl, hd, hlisted⟩
  · rcases isBlankOrDot_iff.mp hodd with hblank | rfl
    · exact Or.inr ⟨by rw [hc]; exact hblank, x, by simp, rfl⟩
    · exact absurd hc (getLast?_normalDomain x)
  · -- a list names words, which have no white space in them
    rcases isBlankOrDot_iff.mp hodd with hblank | rfl
    · have hfalse := isBlank_of_isListed hlisted c (List.mem_of_getLast? hc)
      rw [hblank] at hfalse
      cases hfalse
    · exact Or.inl ⟨hc, l, by simp, hd⟩

end

/-! ## Removing what is stored -/

/-- The same set without one domain. -/
def RuleSet.without (s : RuleSet) (d : List Char) : RuleSet :=
  { s with domains := s.domains.erase d }

section

variable {s : RuleSet} {d : List Char}

/-- Removing a domain under its own name takes it out if it ends plainly, and only then. -/
theorem removeDomain_eq_erase_iff (hs : s.Valid) (hd : d ∈ s.domains) (hentry : IsEntry d) :
    s.removeDomain d = s.without d ↔ EndsPlain d := by
  rw [← normalDomain_eq_self_iff hentry]
  constructor
  · intro h
    -- otherwise another domain is looked for, and this one stays
    by_contra hne
    have hmem : d ∈ (s.removeDomain d).domains :=
      (RuleSet.mem_removeDomain hs.domains_nodup).mpr ⟨hd, hne⟩
    rw [h] at hmem
    exact hs.domains_nodup.not_mem_erase hmem
  · intro h
    rw [RuleSet.removeDomain, h, RuleSet.without]

/-- With one more dot, a domain that does not end in one is its own normal form. -/
theorem normalDomain_append_dot (hentry : IsEntry d) (h : d.getLast? ≠ some '.') :
    normalDomain (d ++ ['.']) = d := by
  have hstart : trimStart (d ++ ['.']) = d ++ ['.'] := by
    refine trimStart_eq_self fun c hc => hentry.isBlank_head c ?_
    rwa [List.head?_append_of_ne_nil _ hentry.ne_nil] at hc
  have hend : trimEnd (d ++ ['.']) = d ++ ['.'] := by
    refine dropEndWhile_eq_self_iff.mpr fun c hc => ?_
    rw [List.getLast?_concat] at hc
    rw [← Option.some.inj hc]
    decide
  have hdot : dropEndWhile (· == '.') d = d := by
    refine dropEndWhile_eq_self_iff.mpr fun c hc => ?_
    rw [beq_eq_false_iff_ne]
    rintro rfl
    exact h hc
  rw [normalDomain, trim, hstart, hend, dropEndWhile_concat, if_pos (by decide), hdot]
  exact lower_eq_self hentry.isLower

/-- A domain is out of reach if it ends in a dot, and only then. -/
theorem exists_not_mem_removeDomain_iff (hs : s.Valid) (hd : d ∈ s.domains)
    (hentry : IsEntry d) :
    (∃ x, d ∉ (s.removeDomain x).domains) ↔ d.getLast? ≠ some '.' := by
  constructor
  · rintro ⟨x, hx⟩ hdot
    refine hx ((RuleSet.mem_removeDomain hs.domains_nodup).mpr ⟨hd, ?_⟩)
    rintro rfl
    exact getLast?_normalDomain x hdot
  · intro h
    -- the dot at the end keeps white space in front of it from being taken off
    refine ⟨d ++ ['.'], fun hmem => ?_⟩
    exact ((RuleSet.mem_removeDomain hs.domains_nodup).mp hmem).2
      (normalDomain_append_dot hentry h)

end

/-- What is true of every domain that is stored after a history of what was typed and read. It is
in normal form, and taken out under its own name, if it ends plainly, and only then; there is a name
that takes it out unless it ends in a dot; and what does not end plainly was named so by a list, or
typed by the user. -/
theorem stored_domain_spec {history : List RuleChange} (hread : ∀ c ∈ history, c.IsRead)
    {d : List Char} (hd : d ∈ (RuleSet.ofHistory history).domains) :
    d ≠ [] ∧
      (normalDomain d = d ↔ EndsPlain d) ∧
      ((RuleSet.ofHistory history).removeDomain d = (RuleSet.ofHistory history).without d ↔
        EndsPlain d) ∧
      ((∃ x, d ∉ ((RuleSet.ofHistory history).removeDomain x).domains) ↔
        d.getLast? ≠ some '.') ∧
      (¬ EndsPlain d →
        (d.getLast? = some '.' ∧ ∃ l, .apply l ∈ history ∧ d ∈ l.domains) ∨
          (d.getLast?.any isBlank = true ∧ ∃ x, .addDomain x ∈ history ∧ normalDomain x = d)) := by
  have hs := RuleSet.Valid.ofHistory history
  have hstored := RuleSet.mem_ofHistory.mp hd
  have hentry := isEntry_of_stored hread hstored
  exact ⟨hentry.ne_nil, normalDomain_eq_self_iff hentry, removeDomain_eq_erase_iff hs hd hentry,
    exists_not_mem_removeDomain_iff hs hd hentry, origin_of_not_endsPlain hread hstored⟩

/-- A domain that a list names with a dot at its end is out of reach. -/
theorem stored_domain_spec_of_dot :
    let history := [RuleChange.apply (FilterList.ofText "||ads.example.com.^".toList)]
    let s := RuleSet.ofHistory history
    "ads.example.com.".toList ∈ s.domains ∧
      ∀ x, "ads.example.com.".toList ∈ (s.removeDomain x).domains := by
  intro history s
  have hread : ∀ c ∈ history, c.IsRead := by
    intro c hc
    rw [List.mem_singleton.mp hc]
    exact ⟨_, Or.inl rfl⟩
  have hd : "ads.example.com.".toList ∈ s.domains := by
    decide
  obtain ⟨-, -, -, hreach, -⟩ := stored_domain_spec hread hd
  refine ⟨hd, fun x => ?_⟩
  by_contra hx
  exact hreach.mp ⟨x, hx⟩ (by decide)

end AdFilter
