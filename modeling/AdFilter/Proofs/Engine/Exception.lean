import AdFilter.Proofs.Engine.UserDomain
import AdFilter.Proofs.Pattern.Wildcard
import AdFilter.Proofs.Rule.Finding
import AdFilter.Proofs.Rule.Grammar
import AdFilter.Proofs.Url.Reading

/-!
# Rules that match no address

The pattern of a wildcard rule is looked for at the start of an address, and an address starts with
the letter of a scheme or with a control character in front of it (`Request.exists_url_eq_cons`). So
a rule that begins with something else, such as an exception (`@@`) or the path of an address,
matches none, and to load it changes no answer (`System.exception_spec`).
-/

namespace AdFilter

open Text

/-! ## The start of an address -/

/-- Whether an address in lower case can start so: with a control character or a letter. -/
def StartsAddress (c : Char) : Prop := c.toNat < 0x20 ∨ (0x61 ≤ c.toNat ∧ c.toNat ≤ 0x7A)

instance : DecidablePred StartsAddress := fun _ => inferInstanceAs (Decidable (_ ∨ _))

namespace Url

/-- A scheme begins with a letter. -/
theorem isAlpha_of_splitScheme? {cs : List Char} {x : List Char × List Char}
    (h : splitScheme? cs = some x) : ∃ c, cs.head? = some c ∧ c.isAlpha = true := by
  rw [splitScheme?_eq_bind] at h
  obtain ⟨rest, -, h⟩ := Option.bind_eq_some_iff.mp h
  rw [Option.ite_none_right_eq_some, Option.any_eq_true] at h
  obtain ⟨⟨c, hc, halpha⟩, -⟩ := h
  exact ⟨c, head?_of_front (List.takeWhile_prefix _) hc, halpha⟩

/-- What is neither a control character nor a space is kept at the start. -/
theorem head?_cleaned {c : Char} (hc : isControlOrSpace c = false) (cs : List Char) :
    (cleaned (c :: cs)).head? = some c := by
  have hne : dropEndWhile isControlOrSpace (c :: cs) ≠ [] := by
    intro hnil
    rw [List.rdropWhile_eq_nil_iff.mp hnil c (List.mem_cons_self ..)] at hc
    cases hc
  obtain ⟨d, ds, hds⟩ := List.exists_cons_of_ne_nil hne
  have hprefix := dropEndWhile_prefix_self isControlOrSpace (c :: cs)
  rw [hds, List.cons_prefix_cons] at hprefix
  rw [cleaned, List.dropWhile_cons_of_neg (by rw [hc]; decide), hds, hprefix.1,
    List.filter_cons_of_pos]
  · rfl
  · simp only [Bool.and_eq_true, bne_iff_ne]
    refine ⟨⟨?_, ?_⟩, ?_⟩ <;> rintro rfl <;> cases hc

/-- In front of the scheme of an address there are only control characters and spaces. -/
theorem start_of_ofText? {c : Char} {cs : List Char} {u : Url} (h : ofText? (c :: cs) = some u) :
    isControlOrSpace c = true ∨ c.isAlpha = true := by
  rcases hc : isControlOrSpace c with _ | _
  · rw [ofText?_eq_bind] at h
    obtain ⟨x, hx, -⟩ := Option.bind_eq_some_iff.mp h
    obtain ⟨d, hd, halpha⟩ := isAlpha_of_splitScheme? hx
    rw [head?_cleaned hc, Option.some.injEq] at hd
    rw [hd]
    exact Or.inr halpha
  · exact Or.inl rfl

end Url

/-- The address of a request starts with a letter or a control character. -/
theorem Request.exists_url_eq_cons {url : List Char} {r : Request} (h : ofText? url = some r) :
    ∃ c rest, r.url = c :: rest ∧ StartsAddress c := by
  rw [ofText?] at h
  dsimp only at h
  rcases htrim : trim url with _ | ⟨c, cs⟩
  · rw [htrim] at h
    cases h
  · rw [htrim, if_neg (by simp)] at h
    obtain ⟨u, hu, hr⟩ := Option.bind_eq_some_iff.mp h
    have hblank := isBlank_head?_trim (congrArg List.head? htrim)
    have hstart := Url.start_of_ofText? hu
    have hascii : c.toNat < 0x80 := by
      rcases hstart with hstart | hstart
      · exact Nat.lt_of_le_of_lt (of_decide_eq_true hstart) (by decide)
      · exact toNat_lt_of_isAlphanum (Bool.or_eq_true_iff.mpr (Or.inl hstart))
    have hlower := head?_lower_cons hascii cs
    obtain ⟨rest, hrest⟩ := List.head?_eq_some_iff.mp hlower
    refine ⟨c.toLower, rest, ?_, ?_⟩
    · rw [← Option.some.inj hr]
      exact hrest
    · refine forall_ascii (P := fun c => isBlank c = false →
        Url.isControlOrSpace c = true ∨ c.isAlpha = true → StartsAddress c.toLower) ?_ hascii hblank
        hstart
      decide

/-! ## Rules and their first character -/

/-- Whether a rule that begins so may match an address: with one of the characters that stand for
others in a rule, with a letter of ASCII or another character that is its case variant, or with a
control character. -/
def MayBeginMatch (c : Char) : Prop :=
  c = '*' ∨ c = '^' ∨ c = '|' ∨ c.isAlpha = true ∨ c = '\u212a' ∨ c = '\u017f' ∨ c.toNat < 0x20

instance : DecidablePred MayBeginMatch := fun _ => inferInstanceAs (Decidable (_ ∨ _))

theorem not_mayBeginMatch_of_isDigit {c : Char} (h : c.isDigit = true) : ¬ MayBeginMatch c := by
  have hascii := toNat_lt_of_isAlphanum (Bool.or_eq_true_iff.mpr (Or.inr h))
  refine forall_ascii (P := fun c => c.isDigit = true → ¬ MayBeginMatch c) ?_ hascii h
  decide

/-- The case variants of what an address can start with. -/
theorem mayBeginMatch_of_fold_eq {x c : Char} (hx : StartsAddress x) (h : fold x = fold c) :
    MayBeginMatch c := by
  have hascii : x.toNat < 0x80 := by
    rcases hx with hx | hx <;> omega
  refine forall_ascii (P := fun x => StartsAddress x → ∀ c ∈ caseVariants x, MayBeginMatch c) ?_
    hascii hx c (mem_caseVariants_iff.mpr h.symm)
  decide +kernel

/-- A rule that begins with anything else matches no address. -/
theorem not_occursIn_of_not_mayBeginMatch {url rule : List Char} {r : Request} {c : Char}
    (hr : Request.ofText? url = some r) (hrule : rule.head? = some c) (hc : ¬ MayBeginMatch c) :
    (Wildcard.pattern rule).occursIn r.url = false := by
  obtain ⟨x, rest, hurl, hx⟩ := Request.exists_url_eq_cons hr
  obtain ⟨rule, rfl⟩ := List.head?_eq_some_iff.mp hrule
  rw [Bool.eq_false_iff, ne_eq, Wildcard.occursIn_pattern_iff]
  rintro ⟨front, back, -, hmatch⟩
  have hplain : c ≠ '*' ∧ c ≠ '^' ∧ c ≠ '|' := by
    simp only [MayBeginMatch, not_or] at hc
    exact ⟨hc.1, hc.2.1, hc.2.2.1⟩
  obtain ⟨i, b, y, behind, hstart, hfold, -⟩ := (Wildcard.matches_char_iff hplain).mp hmatch
  rw [hurl] at hstart
  cases hstart
  exact hc (mayBeginMatch_of_fold_eq hx hfold)

/-! ## Sets with such a rule -/

namespace RuleSet

/-- A pattern that does not occur in an address makes no difference to it. -/
theorem reason?_insertPattern {s : RuleSet} {p : PatternRule} {r : Request}
    (h : p.pattern.occursIn r.url = false) : (s.insertPattern p).reason? r = s.reason? r := by
  rw [insertPattern]
  split
  · rfl
  · have hlast : [p].find? (fun p => p.pattern.occursIn r.url) = none := by
      rw [List.find?_cons_of_neg (by rw [h]; exact Bool.false_ne_true), List.find?_nil]
    rw [reason?_eq_or, reason?_eq_or, patternReason?, patternReason?, List.find?_append, hlast,
      Option.or_none]
    rfl

/-- The rule that a wildcard writes is added in the same way alone and in a list. -/
theorem change_source (s : RuleSet) (rule : List Char) :
    s.change (.addPattern (Wildcard.source rule)) =
        s.insertPattern ⟨Wildcard.source rule, Wildcard.pattern rule⟩ ∧
      s.change (.apply ⟨[], [Wildcard.source rule]⟩) =
        s.insertPattern ⟨Wildcard.source rule, Wildcard.pattern rule⟩ := by
  have hread : PatternRule.ofSource? (Wildcard.source rule) =
      some ⟨Wildcard.source rule, Wildcard.pattern rule⟩ := by
    rw [PatternRule.ofSource?, Wildcard.ofSource?_source, Option.map_some]
  constructor
  · rw [change, addPattern?, hread]
    rfl
  · rw [change, Batch.ofList, apply, List.filterMap_cons_some hread]
    rfl

/-- A rule that begins with what no address starts with makes no difference to any of them. -/
theorem reason?_change_source (s : RuleSet) {url rule : List Char} {r : Request} {c : Char}
    (hr : Request.ofText? url = some r) (hrule : rule.head? = some c) (hc : ¬ MayBeginMatch c) :
    ∀ change ∈ [RuleChange.addPattern (Wildcard.source rule), .apply ⟨[], [Wildcard.source rule]⟩],
      (s.change change).reason? r = s.reason? r := by
  have hinsert : (s.insertPattern ⟨Wildcard.source rule, Wildcard.pattern rule⟩).reason? r =
      s.reason? r := reason?_insertPattern (not_occursIn_of_not_mayBeginMatch hr hrule hc)
  obtain ⟨hadd, happly⟩ := change_source s rule
  intro change hchange
  rcases List.mem_pair.mp hchange with rfl | rfl
  · rw [hadd, hinsert]
  · rw [happly, hinsert]

end RuleSet

namespace System

/-- Where the rules judge an address as before, so do check and navigation. -/
theorem answers_change_of_reason? (s : System) {change : RuleChange} {url : List Char}
    (h : ∀ r, Request.ofText? url = some r →
      (s.engine.rules.change change).reason? r = s.engine.rules.reason? r) :
    ((s.perform (.change change)).check url).1 = (s.check url).1 ∧
      ((s.perform (.change change)).navigate url).1 = (s.navigate url).1 := by
  have hreason : (s.perform (.change change)).engine.reason? url = s.engine.reason? url := by
    rw [Engine.reason?, Engine.reason?]
    rcases hr : Request.ofText? url with _ | r
    · rfl
    · exact congrArg (criticalReason? r).or (h r hr)
  constructor
  · change (s.perform (.change change)).engine.decide? s.clock.now url =
      s.engine.decide? s.clock.now url
    rw [Engine.decide?, Engine.decide?, hreason]
    rfl
  · change (s.perform (.change change)).engine.verdict url = s.engine.verdict url
    rw [Engine.verdict, Engine.verdict, hreason]

/-- A line of a filter list that is read as a wildcard rule, and begins with what no address starts
with, makes no difference: whatever the rules are, to add it by hand or with a list leaves them
judging every request as before, and so it does the answers to a check and to a navigation. Such are
the lines that begin with an at sign, and those that begin with a slash, a question mark, a dot or a
digit. -/
theorem exception_spec {line source : List Char} {c : Char}
    (hentry : Entry.ofLine? line = some (.pattern source)) (hhead : (trim line).head? = some c)
    (hc : ¬ MayBeginMatch c) :
    ('\n' ∉ line → FilterList.ofText line = ⟨[], [source]⟩) ∧
    (∀ change ∈ [RuleChange.addPattern source, .apply ⟨[], [source]⟩],
      (∀ (rules : RuleSet) (url : List Char) (r : Request), Request.ofText? url = some r →
        (rules.change change).reason? r = rules.reason? r) ∧
      ∀ (s : System) (url : List Char),
        ((s.perform (.change change)).check url).1 = (s.check url).1 ∧
        ((s.perform (.change change)).navigate url).1 = (s.navigate url).1) ∧
    ∀ d : Char, d = '@' ∨ d = '/' ∨ d = '?' ∨ d = '.' ∨ d.isDigit = true → ¬ MayBeginMatch d := by
  have hsource : source = Wildcard.source (trim line) := by
    rcases ofLine?_cases hentry with ⟨w, -, h⟩ | h
    · cases h
    · exact Entry.pattern.inj h
  refine ⟨fun hline => ?_, fun change hchange => ?_, ?_⟩
  · rw [FilterList.ofText_eq (.last hline), List.filterMap_cons_some hentry]
    rfl
  · rw [hsource] at hchange
    have hrules : ∀ (rules : RuleSet) (url : List Char) (r : Request),
        Request.ofText? url = some r → (rules.change change).reason? r = rules.reason? r :=
      fun rules url r hr => rules.reason?_change_source hr hhead hc change hchange
    exact ⟨hrules, fun s url => s.answers_change_of_reason? (hrules s.engine.rules url)⟩
  · rintro d (rfl | rfl | rfl | rfl | hdigit)
    · decide
    · decide
    · decide
    · decide
    · exact not_mayBeginMatch_of_isDigit hdigit

/-- An exception for the very address that is asked for, and a rule for its path. -/
theorem exception_spec_of_path :
    let exception := "@@https://example.com/ad/*".toList
    let path := " /ad/?.gif".toList
    let url := "https://example.com/ad/1.gif".toList
    Entry.ofLine? exception = some (.pattern (Wildcard.source exception)) ∧
      Entry.ofLine? path = some (.pattern (Wildcard.source (trim path))) ∧
      ((quiet.perform (.change (.addPattern (Wildcard.source exception)))).check url).1 =
        (quiet.check url).1 ∧
      ((quiet.perform (.change (.apply (FilterList.ofText path)))).navigate url).1 =
        (quiet.navigate url).1 := by
  intro exception path url
  have hexception : Entry.ofLine? exception = some (.pattern (Wildcard.source exception)) := by
    decide
  have hpath : Entry.ofLine? path = some (.pattern (Wildcard.source (trim path))) := by
    decide
  have hadd := (exception_spec (c := '@') hexception (by decide) (by decide)).2.1 _
    (List.mem_cons_self ..)
  obtain ⟨htext, happly, -⟩ := exception_spec (c := '/') hpath (by decide) (by decide)
  refine ⟨hexception, hpath, (hadd.2 quiet url).1, ?_⟩
  rw [htext (by decide)]
  exact ((happly _ (List.mem_cons_of_mem _ (List.mem_singleton_self _))).2 quiet url).2

end System

end AdFilter
