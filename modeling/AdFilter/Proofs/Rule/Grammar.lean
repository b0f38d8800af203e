import AdFilter.Proofs.Rule.Layout
import AdFilter.Proofs.Rule.NormalForm

/-!
# The grammar of filter lists

Each line of a filter list, without the white space around it, is judged by the first of five rules
that has anything to say about it. The rules are stated here as relations, and `FirstGives` runs
through them; `firstGives_grammar_iff` says that this is how lines are read, and `grammar_spec` what
follows for whole lists. The end of an anchored domain is found by its place in bytes, and cutting
there never splits a character (`anchoredDomain?_eq_bind`).
-/

namespace AdFilter

open Text

/-! ## Domains -/

/-- What is taken for a domain. -/
structure IsDomain (d : List Char) : Prop where
  /-- in bytes -/
  long : 3 < utf8Length d
  dot : '.' ∈ d
  unbroken : ∀ c ∈ d, isBlank c = false

theorem isValidDomain_iff {d : List Char} : isValidDomain d = true ↔ IsDomain d := by
  constructor
  · intro h
    have hlong : 3 < utf8Length d := by
      simp only [isValidDomain, Bool.and_eq_true, decide_eq_true_eq] at h
      exact h.1.1
    exact ⟨hlong, mem_of_isValidDomain h, isBlank_of_isValidDomain h⟩
  · intro h
    simp only [isValidDomain, Bool.and_eq_true, decide_eq_true_eq, List.contains_iff_mem,
      Bool.not_eq_true', List.any_eq_false]
    exact ⟨⟨h.long, h.dot⟩, fun c hc => by simp [h.unbroken c hc]⟩

/-- What a text gives where a domain is expected. -/
inductive DomainGives (d : List Char) : Option Entry → Prop where
  | domain (h : IsDomain d) : DomainGives d (some (.domain (lower d)))
  | nothing (h : ¬ IsDomain d) : DomainGives d none

theorem domainGives_iff {d : List Char} {e : Option Entry} :
    DomainGives d e ↔ Entry.ofDomain? d = e := by
  rw [Entry.ofDomain?]
  by_cases hd : IsDomain d
  · rw [if_pos (isValidDomain_iff.mpr hd)]
    constructor
    · rintro (⟨-⟩ | ⟨hno⟩)
      · rfl
      · exact absurd hd hno
    · rintro rfl
      exact .domain hd
  · rw [if_neg fun h => hd (isValidDomain_iff.mp h)]
    constructor
    · rintro (⟨h⟩ | ⟨-⟩)
      · exact absurd h hd
      · rfl
    · rintro rfl
      exact .nothing hd

theorem ofDomain?_eq_none_iff {d : List Char} : Entry.ofDomain? d = none ↔ ¬ IsDomain d := by
  rw [Entry.ofDomain?, ite_eq_right_iff, isValidDomain_iff]
  simp

/-! ## The rules -/

/-- A line as in a hosts file, which begins with an address where nothing is to be had. -/
def IsSinkLine (line : List Char) : Prop :=
  "0.0.0.0".toList <+: line ∨ "127.0.0.1".toList <+: line

/-- A rule for lines: which of them it judges, and what it makes of them. -/
abbrev LineRule : Type := List Char → Option Entry → Prop

namespace LineRule

/-- Blank lines, comments and headers say nothing. -/
def silent : LineRule := fun line e =>
  (line = [] ∨ ∃ c ∈ line.head?, c = '!' ∨ c = '#' ∨ c = '[') ∧ e = none

/-- What stands between `||` and the first `^` is to be a domain. -/
def anchored : LineRule := fun line e =>
  ∃ d rest, line = ['|', '|'] ++ d ++ '^' :: rest ∧ '^' ∉ d ∧ DomainGives d e

/-- Behind the address of a hosts file, the second word is to be a domain. -/
def sink : LineRule := fun line e =>
  IsSinkLine line ∧
    ((∃ d, IsSecondWord line d ∧ DomainGives d e) ∨ ((∀ d, ¬ IsSecondWord line d) ∧ e = none))

/-- A line with wildcards is a pattern. -/
def wildcard : LineRule := fun line e =>
  ('*' ∈ line ∨ '?' ∈ line) ∧ e = some (.pattern (Wildcard.source line))

/-- All else says nothing. -/
def other : LineRule := fun _ e => e = none

/-- The rules, the first to be asked first. -/
def grammar : List LineRule := [silent, anchored, sink, wildcard, other]

end LineRule

/-- The first of some rules that judges the line makes this of it. -/
inductive FirstGives : List LineRule → List Char → Option Entry → Prop where
  | here {rule : LineRule} {rules : List LineRule} {line : List Char} {e : Option Entry}
      (h : rule line e) : FirstGives (rule :: rules) line e
  | there {rule : LineRule} {rules : List LineRule} {line : List Char} {e : Option Entry}
      (hno : ∀ o, ¬ rule line o) (h : FirstGives rules line e) : FirstGives (rule :: rules) line e

section

variable {rule : LineRule} {rules : List LineRule} {line : List Char} {found : Option Entry}

/-- Where the first rule judges a line and makes one thing of it, that is what is given. -/
theorem firstGives_here (h : ∀ e, rule line e ↔ found = e) (e : Option Entry) :
    FirstGives (rule :: rules) line e ↔ found = e := by
  constructor
  · rintro (⟨he⟩ | ⟨hno, -⟩)
    · exact (h e).mp he
    · exact absurd ((h found).mpr rfl) (hno found)
  · exact fun he => .here ((h e).mpr he)

/-- Where the first rule does not judge, the others decide. -/
theorem firstGives_there (hno : ∀ e, ¬ rule line e)
    (h : ∀ e, FirstGives rules line e ↔ found = e) (e : Option Entry) :
    FirstGives (rule :: rules) line e ↔ found = e := by
  rw [← h]
  constructor
  · rintro (⟨he⟩ | ⟨-, hrest⟩)
    · exact absurd he (hno e)
    · exact hrest
  · exact .there hno

/-- A rule that judges under a condition, followed by others. -/
theorem firstGives_ite {p : Prop} [Decidable p] {given : Option Entry}
    (hrule : ∀ e, rule line e ↔ p ∧ given = e) (h : ∀ e, FirstGives rules line e ↔ found = e)
    (e : Option Entry) :
    FirstGives (rule :: rules) line e ↔ (if p then given else found) = e := by
  by_cases hp : p
  · rw [if_pos hp]
    exact firstGives_here (fun e => (hrule e).trans (and_iff_right hp)) e
  · rw [if_neg hp]
    exact firstGives_there (fun e he => hp ((hrule e).mp he).1) h e

/-- A rule that judges what is found in the line, followed by others. -/
theorem firstGives_elim {α : Type} {o : Option α} {given : α → Option Entry}
    (hrule : ∀ e, rule line e ↔ ∃ a, o = some a ∧ given a = e)
    (h : ∀ e, FirstGives rules line e ↔ found = e) (e : Option Entry) :
    FirstGives (rule :: rules) line e ↔ o.elim found given = e := by
  rcases o with _ | a
  · exact firstGives_there (fun e he => nomatch (hrule e).mp he) h e
  · exact firstGives_here (fun e => (hrule e).trans (by simp)) e

end

/-! ## Reading a line -/

section

variable {line d : List Char}

theorem dropFront?_eq_some_iff {s t rest : List Char} :
    dropFront? s t = some rest ↔ t = s ++ rest := by
  rw [dropFront?, Option.ite_none_right_eq_some, List.isPrefixOf_iff_prefix, Option.some.injEq]
  constructor
  · rintro ⟨⟨back, rfl⟩, rfl⟩
    rw [List.drop_left]
  · rintro rfl
    exact ⟨List.prefix_append _ _, List.drop_left⟩

theorem takeWhile_append_caret (hd : '^' ∉ d) (rest : List Char) :
    (d ++ '^' :: rest).takeWhile (· != '^') = d := by
  rw [List.takeWhile_append_of_pos, List.takeWhile_cons_of_neg (by decide), List.append_nil]
  intro c hc
  rw [bne_iff_ne]
  rintro rfl
  exact hd hc

theorem anchoredDomain?_eq_some_iff :
    anchoredDomain? line = some d ↔ ∃ rest, line = ['|', '|'] ++ d ++ '^' :: rest ∧ '^' ∉ d := by
  rw [anchoredDomain?, Option.bind_eq_bind, Option.bind_eq_some_iff]
  simp only [dropFront?_eq_some_iff, Option.ite_none_right_eq_some, List.contains_iff_mem]
  constructor
  · rintro ⟨behind, rfl, hmem, hd⟩
    obtain ⟨front, rest, rfl, hfront⟩ := List.eq_append_cons_of_mem hmem
    rw [takeWhile_append_caret hfront] at hd
    cases hd
    exact ⟨rest, (List.append_assoc ..).symm, hfront⟩
  · rintro ⟨rest, rfl, hd⟩
    refine ⟨d ++ '^' :: rest, List.append_assoc .., by simp, ?_⟩
    rw [takeWhile_append_caret hd]
    rfl

theorem anchored_iff {e : Option Entry} :
    LineRule.anchored line e ↔ ∃ d, anchoredDomain? line = some d ∧ Entry.ofDomain? d = e := by
  simp only [LineRule.anchored, anchoredDomain?_eq_some_iff, domainGives_iff]
  constructor
  · rintro ⟨d, rest, hline, hd, he⟩
    exact ⟨d, ⟨rest, hline, hd⟩, he⟩
  · rintro ⟨d, ⟨rest, hline, hd⟩, he⟩
    exact ⟨d, rest, hline, hd, he⟩

theorem silent_iff {e : Option Entry} : LineRule.silent line e ↔
    (line.isEmpty || line.head?.any ['!', '#', '['].contains) = true ∧ none = e := by
  have hline : (line.isEmpty || line.head?.any ['!', '#', '['].contains) = true ↔
      line = [] ∨ ∃ c ∈ line.head?, c = '!' ∨ c = '#' ∨ c = '[' := by
    simp [Option.any_eq_true]
  rw [hline, LineRule.silent, eq_comm (a := e)]

/-- What the second word of a line gives, where it is to be a domain. -/
def secondDomain? (line : List Char) : Option Entry :=
  match words line with
  | _ :: d :: _ => Entry.ofDomain? d
  | _ => none

theorem secondDomain?_eq_iff {e : Option Entry}
    (hline : ∀ c, line.head? = some c → isBlank c = false) : secondDomain? line = e ↔
      (∃ d, IsSecondWord line d ∧ DomainGives d e) ∨ ((∀ d, ¬ IsSecondWord line d) ∧ e = none) := by
  simp only [isSecondWord_iff hline, domainGives_iff]
  unfold secondDomain?
  split
  · rename_i first d rest hwords
    simp [hwords]
  · rename_i hwords
    constructor
    · rintro rfl
      exact Or.inr ⟨fun d ⟨first, rest, h⟩ => hwords first d rest h, rfl⟩
    · rintro (⟨d, ⟨first, rest, h⟩, -⟩ | ⟨-, rfl⟩)
      · exact absurd h (hwords first d rest)
      · rfl

theorem sink_iff {e : Option Entry} (hline : ∀ c, line.head? = some c → isBlank c = false) :
    LineRule.sink line e ↔
      sinkAddresses.any (·.isPrefixOf line) = true ∧ secondDomain? line = e := by
  have haddress : sinkAddresses.any (·.isPrefixOf line) = true ↔ IsSinkLine line := by
    simp only [IsSinkLine, sinkAddresses, List.any_cons, List.any_nil, Bool.or_false,
      Bool.or_eq_true, List.isPrefixOf_iff_prefix]
  rw [haddress, secondDomain?_eq_iff hline, LineRule.sink]

theorem wildcard_iff {e : Option Entry} : LineRule.wildcard line e ↔
    (line.contains '*' || line.contains '?') = true ∧
      some (.pattern (Wildcard.source line)) = e := by
  rw [Bool.or_eq_true, List.contains_iff_mem, List.contains_iff_mem, LineRule.wildcard,
    eq_comm (a := e)]

end

/-- The reading of a line, each of its parts under a name of its own. -/
theorem Entry.ofLine?_eq_elim (line : List Char) : Entry.ofLine? line =
    let core := trim line
    if core.isEmpty || core.head?.any ['!', '#', '['].contains then none
    else (anchoredDomain? core).elim
      (if sinkAddresses.any (·.isPrefixOf core) then secondDomain? core
        else if core.contains '*' || core.contains '?' then some (.pattern (Wildcard.source core))
        else none)
      Entry.ofDomain? := by
  rw [ofLine?]
  dsimp only
  cases anchoredDomain? (trim line) <;> rfl

/-- The rules are the way in which lines are read. -/
theorem firstGives_grammar_iff {line : List Char} (e : Option Entry) :
    FirstGives LineRule.grammar (trim line) e ↔ Entry.ofLine? line = e := by
  have hstart : ∀ c, (trim line).head? = some c → isBlank c = false :=
    fun c hc => isBlank_head?_trim hc
  have hother : ∀ e, FirstGives [LineRule.other] (trim line) e ↔ none = e :=
    firstGives_here fun e => eq_comm
  rw [Entry.ofLine?_eq_elim]
  exact firstGives_ite (fun _ => silent_iff) (firstGives_elim (fun _ => anchored_iff)
    (firstGives_ite (fun _ => sink_iff hstart) (firstGives_ite (fun _ => wildcard_iff) hother))) e

/-! ## Lines with a domain -/

section

variable {line : List Char} {e : Option Entry}

theorem not_silent {c : Char} (h : line.head? = some c) (hc : c ≠ '!' ∧ c ≠ '#' ∧ c ≠ '[') :
    ¬ LineRule.silent line e := by
  rintro ⟨hline, -⟩
  rcases hline with rfl | ⟨d, hd, hmark⟩
  · cases h
  · rw [h, Option.mem_some] at hd
    rw [← hd] at hmark
    rcases hmark with hmark | hmark | hmark
    · exact hc.1 hmark
    · exact hc.2.1 hmark
    · exact hc.2.2 hmark

theorem ofLine?_of_anchored (h : LineRule.anchored (trim line) e) : Entry.ofLine? line = e := by
  refine (firstGives_grammar_iff e).mp (.there (fun o => ?_) (.here h))
  obtain ⟨d, rest, hline, -⟩ := h
  have hhead : (trim line).head? = some '|' := by
    rw [hline]
    rfl
  exact not_silent hhead (by decide)

/-- Such a line begins with a digit. -/
theorem IsSinkLine.head? (h : IsSinkLine line) :
    line.head? = some '0' ∨ line.head? = some '1' := by
  rcases h with h | h
  · exact Or.inl (head?_of_front h rfl)
  · exact Or.inr (head?_of_front h rfl)

theorem ofLine?_of_sink (h : LineRule.sink (trim line) e) : Entry.ofLine? line = e := by
  have hhead := h.1.head?
  refine (firstGives_grammar_iff e).mp (.there (fun o => ?_) (.there (fun o hanchored => ?_)
    (.here h)))
  · rcases hhead with hhead | hhead
    · exact not_silent hhead (by decide)
    · exact not_silent hhead (by decide)
  · obtain ⟨d, rest, hline, -⟩ := hanchored
    rw [hline] at hhead
    rcases hhead with hhead | hhead <;> cases hhead

/-- In a line as in a hosts file it is the second word that counts. -/
theorem ofLine?_eq_secondDomain? (h : IsSinkLine (trim line)) :
    Entry.ofLine? line = secondDomain? line := by
  have hwords : secondDomain? (trim line) = secondDomain? line := by
    rw [secondDomain?, words_trim, secondDomain?]
  exact ofLine?_of_sink ⟨h, (secondDomain?_eq_iff fun c hc => isBlank_head?_trim hc).mp hwords⟩

theorem DomainGives.ne_pattern {d : List Char} (h : DomainGives d e) (source : List Char) :
    e ≠ some (.pattern source) := by
  rcases h with ⟨-⟩ | ⟨-⟩ <;> exact nofun

/-- A line where a domain is expected is no pattern, whatever stands there. -/
theorem ofLine?_ne_pattern (h : LineRule.anchored (trim line) e ∨ LineRule.sink (trim line) e)
    (source : List Char) : Entry.ofLine? line ≠ some (.pattern source) := by
  rcases h with h | h
  · rw [ofLine?_of_anchored h]
    obtain ⟨d, rest, -, -, hd⟩ := h
    exact hd.ne_pattern source
  · rw [ofLine?_of_sink h]
    obtain ⟨-, ⟨d, -, hd⟩ | ⟨-, rfl⟩⟩ := h
    · exact hd.ne_pattern source
    · exact nofun

end

/-- What a line blocks is a domain in lower case, or the pattern for the line itself. -/
theorem ofLine?_cases {line : List Char} {entry : Entry} (h : Entry.ofLine? line = some entry) :
    (∃ w, IsDomain w ∧ entry = .domain (lower w)) ∨
      entry = .pattern (Wildcard.source (trim line)) := by
  have hgives : ∀ {w e}, DomainGives w e → e = some entry →
      ∃ w, IsDomain w ∧ entry = .domain (lower w) := by
    rintro w e (⟨hw⟩ | ⟨-⟩) he
    · cases he
      exact ⟨w, hw, rfl⟩
    · cases he
  rcases (firstGives_grammar_iff _).mpr h with ⟨⟨-, he⟩⟩ | ⟨-, hrest⟩
  · cases he
  · rcases hrest with ⟨⟨w, rest, -, -, hw⟩⟩ | ⟨-, hrest⟩
    · exact Or.inl (hgives hw rfl)
    · rcases hrest with ⟨⟨-, ⟨w, -, hw⟩ | ⟨-, he⟩⟩⟩ | ⟨-, hrest⟩
      · exact Or.inl (hgives hw rfl)
      · cases he
      · rcases hrest with ⟨⟨-, he⟩⟩ | ⟨-, ⟨⟨⟩⟩ | ⟨-, ⟨⟩⟩⟩
        exact Or.inr (Option.some.inj he)

theorem spec_of_mem_domains {text d : List Char} (h : d ∈ (FilterList.ofText text).domains) :
    d ≠ [] ∧ '.' ∈ d ∧ ∀ c ∈ d, isBlank c = false := by
  have hblank := isBlank_of_isListed (isListed_of_mem_ofText h)
  rw [FilterList.ofText, FilterList.ofEntries, List.mem_filterMap] at h
  obtain ⟨entry, hentry, hd⟩ := h
  obtain ⟨line, -, hline⟩ := List.mem_filterMap.mp hentry
  cases entry with
  | pattern source => cases hd
  | domain name =>
    cases hd
    rcases ofLine?_cases hline with ⟨w, hw, hname⟩ | hname
    · cases hname
      have hdot := (mem_lower_iff isBlankOrDot_dot).mpr hw.dot
      exact ⟨List.ne_nil_of_mem hdot, hdot, hblank⟩
    · cases hname

/-! ## Places in bytes -/

/-- How many bytes stand in front of the first occurrence of a character. -/
def bytesBefore? (x : Char) : List Char → Option Nat
  | [] => none
  | c :: cs => if c = x then some 0 else (bytesBefore? x cs).map (c.utf8Size + ·)

/-- So many bytes from the start of a text, if that cuts no character in two. -/
def frontOfBytes? : Nat → List Char → Option (List Char)
  | 0, _ => some []
  | _ + 1, [] => none
  | n + 1, c :: cs =>
    if c.utf8Size ≤ n + 1 then (frontOfBytes? (n + 1 - c.utf8Size) cs).map (c :: ·) else none

theorem bytesBefore?_eq_some_iff {x : Char} {cs : List Char} {n : Nat} :
    bytesBefore? x cs = some n ↔
      ∃ front back, cs = front ++ x :: back ∧ x ∉ front ∧ utf8Length front = n := by
  induction cs generalizing n with
  | nil => simp [bytesBefore?]
  | cons c cs ih =>
    rw [bytesBefore?]
    split
    · rename_i hc
      constructor
      · rintro ⟨⟩
        exact ⟨[], cs, by rw [hc]; rfl, List.not_mem_nil, rfl⟩
      · rintro ⟨front, back, hcs, hfront, rfl⟩
        rcases front with _ | ⟨d, front⟩
        · rfl
        · rw [hc, List.cons_append, List.cons.injEq] at hcs
          exact absurd (hcs.1 ▸ List.mem_cons_self ..) hfront
    · rename_i hc
      simp only [Option.map_eq_some_iff, ih]
      constructor
      · rintro ⟨_, ⟨front, back, rfl, hfront, rfl⟩, rfl⟩
        refine ⟨c :: front, back, rfl, ?_, rfl⟩
        rw [List.mem_cons, not_or]
        exact ⟨Ne.symm hc, hfront⟩
      · rintro ⟨front, back, hcs, hfront, rfl⟩
        rcases front with _ | ⟨d, front⟩
        · exact absurd (List.cons.inj hcs).1 hc
        · obtain ⟨rfl, rfl⟩ := List.cons.inj hcs
          exact ⟨_, ⟨front, back, rfl, fun h => hfront (List.mem_cons_of_mem _ h), rfl⟩, rfl⟩

/-- The bytes of whole characters can be cut off. -/
theorem frontOfBytes?_append (front back : List Char) :
    frontOfBytes? (utf8Length front) (front ++ back) = some front := by
  induction front with
  | nil => rw [utf8Length, frontOfBytes?]
  | cons c front ih =>
    obtain ⟨n, hn⟩ : ∃ n, utf8Length (c :: front) = n + 1 :=
      Nat.exists_eq_add_one.mpr (Nat.add_pos_left c.utf8Size_pos _)
    have hrest : n + 1 - c.utf8Size = utf8Length front := by
      rw [← hn, utf8Length, Nat.add_sub_cancel_left]
    rw [hn, List.cons_append, frontOfBytes?, hrest, ih, if_pos]
    · rfl
    · rw [← hn, utf8Length]
      exact Nat.le_add_right _ _

/-- The end of an anchored domain, looked for and cut at by bytes. -/
theorem anchoredDomain?_eq_bind (line : List Char) : anchoredDomain? line =
    (dropFront? ['|', '|'] line).bind fun rest =>
      (bytesBefore? '^' rest).bind (frontOfBytes? · rest) := by
  refine Option.ext fun d => ?_
  rw [anchoredDomain?_eq_some_iff, Option.bind_eq_some_iff]
  simp only [dropFront?_eq_some_iff, Option.bind_eq_some_iff, bytesBefore?_eq_some_iff]
  constructor
  · rintro ⟨rest, rfl, hd⟩
    exact ⟨_, List.append_assoc .., _, ⟨d, rest, rfl, hd, rfl⟩, frontOfBytes?_append _ _⟩
  · rintro ⟨_, rfl, _, ⟨front, back, rfl, hfront, rfl⟩, hcut⟩
    rw [frontOfBytes?_append] at hcut
    cases hcut
    exact ⟨back, (List.append_assoc ..).symm, hfront⟩

/-! ## Lists -/

/-- Every line has one outcome by the rules. -/
theorem existsUnique_firstGives (line : List Char) :
    ∃! e, FirstGives LineRule.grammar (trim line) e :=
  ⟨_, (firstGives_grammar_iff _).mpr rfl, fun _ he => ((firstGives_grammar_iff _).mp he).symm⟩

/-- A list is read as the rules say. Each line has one outcome, and the list holds what its lines
give, in their order, whatever its lines are ended by. Where a domain is expected there is never a
pattern, and the domains have a dot in them and no white space. The domain in an anchored line is
cut off by its length in bytes, and no cut fails. -/
theorem grammar_spec (text : List Char) :
    (∀ line, ∃! e, FirstGives LineRule.grammar (trim line) e) ∧
    HasLines text (splitOn '\n' text) ∧
    (∀ parts, HasLines text parts → ∃ outcomes,
      List.Forall₂ (fun line e => FirstGives LineRule.grammar (trim line) e) parts outcomes ∧
        FilterList.ofText text = .ofEntries (outcomes.filterMap id)) ∧
    (∀ line, (∃ e, LineRule.anchored (trim line) e ∨ LineRule.sink (trim line) e) →
      ∀ source, Entry.ofLine? line ≠ some (.pattern source)) ∧
    (∀ d ∈ (FilterList.ofText text).domains, d ≠ [] ∧ '.' ∈ d ∧ ∀ c ∈ d, isBlank c = false) ∧
    (∀ line, anchoredDomain? line = (dropFront? ['|', '|'] line).bind fun rest =>
      (bytesBefore? '^' rest).bind (frontOfBytes? · rest)) ∧
    ∀ rest n, bytesBefore? '^' rest = some n → (frontOfBytes? n rest).isSome = true := by
  refine ⟨existsUnique_firstGives, hasLines_splitOn text, fun parts hparts => ?_, ?_,
    fun d => spec_of_mem_domains, anchoredDomain?_eq_bind, ?_⟩
  · refine ⟨parts.map Entry.ofLine?, ?_, ?_⟩
    · rw [List.forall₂_map_right_iff, List.forall₂_same]
      exact fun line _ => (firstGives_grammar_iff _).mpr rfl
    · rw [FilterList.ofText_eq hparts, List.filterMap_map]
      rfl
  · rintro line ⟨e, h⟩
    exact ofLine?_ne_pattern h
  · intro rest n hn
    obtain ⟨front, back, rfl, -, rfl⟩ := bytesBefore?_eq_some_iff.mp hn
    rw [frontOfBytes?_append]
    rfl

/-- An anchored line and one of a hosts file, both with a wildcard, before a wildcard rule. The
first has no domain where it should. -/
theorem grammar_spec_of_wildcards :
    let anchored := "||localhost^*".toList
    let sink := "0.0.0.0 Ads.example.com*".toList
    let rule := "/ad*".toList
    let text := anchored ++ ['\n'] ++ (sink ++ ['\r', '\n'] ++ rule)
    (∃ outcomes, List.Forall₂ (fun line e => FirstGives LineRule.grammar (trim line) e)
        [anchored, sink, rule] outcomes ∧
      FilterList.ofText text = .ofEntries (outcomes.filterMap id)) ∧
    FilterList.ofText text = ⟨["ads.example.com*".toList], ["^/ad.*".toList]⟩ ∧
    '.' ∈ "ads.example.com*".toList ∧
    (∀ source, Entry.ofLine? anchored ≠ some (.pattern source)) ∧
    ∃ n, bytesBefore? '^' "bücher.example^".toList = some n ∧
      (frontOfBytes? n "bücher.example^".toList).isSome = true := by
  intro anchored sink rule text
  have hparts : HasLines text [anchored, sink, rule] :=
    .more (by decide) (by decide) (.more (by decide) (by decide) (.last (by decide)))
  have htext : FilterList.ofText text = ⟨["ads.example.com*".toList], ["^/ad.*".toList]⟩ := by
    decide
  have hanchored : LineRule.anchored (trim anchored) none := by
    refine ⟨"localhost".toList, ['*'], by decide, by decide, .nothing fun h => ?_⟩
    exact absurd h.dot (by decide)
  have hcaret : bytesBefore? '^' "bücher.example^".toList = some 15 := by
    decide
  obtain ⟨-, -, hlines, hpattern, hdomains, -, hcut⟩ := grammar_spec text
  obtain ⟨-, hdot, -⟩ := hdomains "ads.example.com*".toList (by rw [htext]; exact .head _)
  exact ⟨hlines _ hparts, htext, hdot, hpattern anchored ⟨none, Or.inl hanchored⟩, 15, hcaret,
    hcut _ _ hcaret⟩

end AdFilter
