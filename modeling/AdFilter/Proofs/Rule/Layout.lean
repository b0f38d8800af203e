import AdFilter.Proofs.Text.Lines
import AdFilter.Rule.Entry

/-!
# The layout of a list

A list is read line by line, and each line without the white space around it. So a list is what its
parts say, one after the other, and it may be laid out in any way: with either line end, with white
space around its lines, with blank lines and comments between them (`layout_spec`).
-/

namespace AdFilter

open Text

variable {line other text : List Char} {parts : List (List Char)}

/-! ## Lines -/

theorem Entry.ofLine?_congr (h : trim line = trim other) :
    Entry.ofLine? line = Entry.ofLine? other := by
  rw [ofLine?, h, ofLine?]

theorem overrideDomain?_congr (h : trim line = trim other) :
    overrideDomain? line = overrideDomain? other := by
  rw [overrideDomain?, h, overrideDomain?]

theorem trim_append_return (line : List Char) : trim (line ++ ['\r']) = trim line := by
  have hfront : ∀ c ∈ ([] : List Char), isBlank c = true := nofun
  exact trim_append_blanks hfront (by decide) line

/-- A list says what its lines say, whatever ends them. -/
theorem FilterList.ofText_eq (h : HasLines text parts) :
    FilterList.ofText text = .ofEntries (parts.filterMap Entry.ofLine?) := by
  rw [ofText, filterMap_lines rfl (fun line => Entry.ofLine?_congr (trim_append_return line)) h]

theorem overrideDomains_eq_filterMap (h : HasLines text parts) :
    overrideDomains text = parts.filterMap overrideDomain? :=
  filterMap_lines rfl (fun line => overrideDomain?_congr (trim_append_return line)) h

/-! ## Silent lines -/

/-- A line with nothing in it but white space, or a comment behind white space. -/
def IsSilent (line : List Char) : Prop :=
  ∃ front rest, line = front ++ rest ∧ (∀ c ∈ front, isBlank c = true) ∧
    (rest = [] ∨ rest.head? = some '#')

theorem IsSilent.trim_cases (h : IsSilent line) :
    trim line = [] ∨ (trim line).head? = some '#' := by
  obtain ⟨front, rest, rfl, hfront, hrest⟩ := h
  rw [trim_eq_nil_iff, head?_trim, words_blanks_append hfront]
  rcases hrest with rfl | hrest
  · exact Or.inl rfl
  · rcases rest with _ | ⟨c, rest⟩
    · cases hrest
    · cases hrest
      right
      rw [words_eq_cons (by decide)]
      rfl

theorem IsSilent.ofLine?_eq_none (h : IsSilent line) : Entry.ofLine? line = none := by
  rw [Entry.ofLine?, if_pos]
  rcases h.trim_cases with h | h
  · rw [h]
    rfl
  · rw [h]
    exact Bool.or_true _

theorem IsSilent.overrideDomain?_eq_none (h : IsSilent line) : overrideDomain? line = none := by
  rw [overrideDomain?, if_pos]
  rcases h.trim_cases with h | h
  · rw [h]
    rfl
  · rw [h]
    exact Bool.or_true _

/-! ## Other layouts -/

/-- The same lines with white space around each, and silent lines put in between. -/
inductive Relaid : List (List Char) → List (List Char) → Prop where
  | nil : Relaid [] []
  | pad {line front back : List Char} {ls ms : List (List Char)}
      (hfront : ∀ c ∈ front, isBlank c = true) (hback : ∀ c ∈ back, isBlank c = true)
      (h : Relaid ls ms) : Relaid (line :: ls) ((front ++ line ++ back) :: ms)
  | insert {line : List Char} {ls ms : List (List Char)} (hline : IsSilent line)
      (h : Relaid ls ms) : Relaid ls (line :: ms)

/-- What is read off the lines one by one is the same, if white space and silent lines are nothing
to it. -/
theorem Relaid.filterMap_eq {β : Type} {f : List Char → Option β} {ls ms : List (List Char)}
    (htrim : ∀ line other, trim line = trim other → f line = f other)
    (hsilent : ∀ line, IsSilent line → f line = none) (h : Relaid ls ms) :
    ms.filterMap f = ls.filterMap f := by
  induction h with
  | nil => rfl
  | pad hfront hback _ ih =>
    rw [List.filterMap_cons, List.filterMap_cons, ih,
      htrim _ _ (trim_append_blanks hfront hback _)]
  | insert hline _ ih => rw [List.filterMap_cons_none (hsilent _ hline), ih]

theorem ofText_eq_of_relaid {ls ms : List (List Char)} (hls : HasLines text ls)
    (h : Relaid ls ms) (hms : HasLines other ms) :
    FilterList.ofText other = FilterList.ofText text := by
  rw [FilterList.ofText_eq hls, FilterList.ofText_eq hms,
    h.filterMap_eq (fun _ _ => Entry.ofLine?_congr) fun _ => IsSilent.ofLine?_eq_none]

theorem overrideDomains_eq_of_relaid {ls ms : List (List Char)} (hls : HasLines text ls)
    (h : Relaid ls ms) (hms : HasLines other ms) :
    overrideDomains other = overrideDomains text := by
  rw [overrideDomains_eq_filterMap hls, overrideDomains_eq_filterMap hms,
    h.filterMap_eq (fun _ _ => overrideDomain?_congr) fun _ => IsSilent.overrideDomain?_eq_none]

/-- The lines of two texts with a line feed between them. -/
theorem hasLines_append (a b : List Char) :
    HasLines (a ++ '\n' :: b) (splitOn '\n' a ++ splitOn '\n' b) := by
  rw [← splitOn_append_cons]
  exact hasLines_splitOn _

theorem FilterList.ofText_append (a b : List Char) : FilterList.ofText (a ++ '\n' :: b) =
    ⟨(ofText a).domains ++ (ofText b).domains, (ofText a).patterns ++ (ofText b).patterns⟩ := by
  rw [ofText_eq (hasLines_append a b), ofText_eq (hasLines_splitOn a),
    ofText_eq (hasLines_splitOn b), List.filterMap_append, ofEntries, List.filterMap_append,
    List.filterMap_append]
  rfl

/-- A list says what its parts say, one after the other, be it a filter list or the user's. It says
the same with a carriage return in front of each line feed; and more generally with any line ends,
with white space around its lines, and with blank lines and comments before, between and behind
them. -/
theorem layout_spec (a b text : List Char) :
    ((FilterList.ofText (a ++ '\n' :: b)).domains =
        (FilterList.ofText a).domains ++ (FilterList.ofText b).domains ∧
      (FilterList.ofText (a ++ '\n' :: b)).patterns =
        (FilterList.ofText a).patterns ++ (FilterList.ofText b).patterns ∧
      overrideDomains (a ++ '\n' :: b) = overrideDomains a ++ overrideDomains b) ∧
    (FilterList.ofText (replace ['\n'] ['\r', '\n'] text) = FilterList.ofText text ∧
      overrideDomains (replace ['\n'] ['\r', '\n'] text) = overrideDomains text) ∧
    ∀ ls ms other, HasLines text ls → Relaid ls ms → HasLines other ms →
      FilterList.ofText other = FilterList.ofText text ∧
        overrideDomains other = overrideDomains text := by
  have hfeeds := hasLines_splitOn text
  have hreturns := hasLines_replace text
  refine ⟨⟨?_, ?_, ?_⟩, ⟨?_, ?_⟩, fun ls ms other hls h hms =>
    ⟨ofText_eq_of_relaid hls h hms, overrideDomains_eq_of_relaid hls h hms⟩⟩
  · rw [FilterList.ofText_append]
  · rw [FilterList.ofText_append]
  · rw [overrideDomains_eq_filterMap (hasLines_append a b),
      overrideDomains_eq_filterMap (hasLines_splitOn a),
      overrideDomains_eq_filterMap (hasLines_splitOn b), List.filterMap_append]
  · rw [FilterList.ofText_eq hreturns, FilterList.ofText_eq hfeeds]
  · rw [overrideDomains_eq_filterMap hreturns, overrideDomains_eq_filterMap hfeeds]

/-- A list with both line ends, white space of several kinds, a blank line and a comment. -/
theorem layout_spec_of_padded :
    let text := "||ads.example.com^\n0.0.0.0 b.example.org\n/ad*".toList
    let other := "\u3000||ads.example.com^\t\r\n\x0b\n # note\r\n0.0.0.0 b.example.org\n/ad*".toList
    FilterList.ofText other = FilterList.ofText text ∧
      overrideDomains other = overrideDomains text ∧
      FilterList.ofText text = ⟨["ads.example.com".toList, "b.example.org".toList],
        ["^/ad.*".toList]⟩ := by
  intro text other
  let anchored := "||ads.example.com^".toList
  let sink := "0.0.0.0 b.example.org".toList
  let rule := "/ad*".toList
  let blank := "\x0b".toList
  let comment := " # note".toList
  have htext : HasLines text [anchored, sink, rule] := by
    have h : text = anchored ++ ['\n'] ++ (sink ++ ['\n'] ++ rule) := by
      decide
    rw [h]
    exact .more (by decide) (by decide) (.more (by decide) (by decide) (.last (by decide)))
  have hother : HasLines other ["\u3000".toList ++ anchored ++ "\t".toList, blank, comment,
      [] ++ sink ++ [], [] ++ rule ++ []] := by
    have h : other = "\u3000".toList ++ anchored ++ "\t".toList ++ ['\r', '\n'] ++
        (blank ++ ['\n'] ++ (comment ++ ['\r', '\n'] ++
          ([] ++ sink ++ [] ++ ['\n'] ++ ([] ++ rule ++ [])))) := by
      decide
    rw [h]
    exact .more (by decide) (by decide) (.more (by decide) (by decide) (.more (by decide)
      (by decide) (.more (by decide) (by decide) (.last (by decide)))))
  have hblank : IsSilent blank := ⟨blank, [], by decide, by decide, Or.inl rfl⟩
  have hcomment : IsSilent comment :=
    ⟨[' '], "# note".toList, by decide, by decide, Or.inr (by decide)⟩
  have hrelaid : Relaid [anchored, sink, rule] ["\u3000".toList ++ anchored ++ "\t".toList, blank,
      comment, [] ++ sink ++ [], [] ++ rule ++ []] :=
    .pad (by decide) (by decide) (.insert hblank (.insert hcomment
      (.pad nofun nofun (.pad nofun nofun .nil))))
  obtain ⟨hlist, hdomains⟩ := (layout_spec [] [] text).2.2 _ _ other htext hrelaid hother
  exact ⟨hlist, hdomains, by decide⟩

end AdFilter
