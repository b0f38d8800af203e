import AdFilter.Proofs.Text.Spelling

/-!
# The lines and words of a text

`HasLines` says which lines a text has, whatever ends each of them, and `IsSecondWord` which word
comes second. What is read off the lines of a text one by one does not depend on how they are ended,
if a blank line says nothing and a carriage return behind a line adds nothing (`filterMap_lines`).
-/

namespace AdFilter.Text

/-! ## Lines -/

/-- What ends a line. -/
def lineEnds : List (List Char) := [['\n'], ['\r', '\n']]

/-- The text writes the given lines one after the other, with a line end between each two. -/
inductive HasLines : List Char → List (List Char) → Prop where
  | last {line : List Char} (h : '\n' ∉ line) : HasLines line [line]
  | more {line lineEnd text : List Char} {parts : List (List Char)} (h : '\n' ∉ line)
      (hend : lineEnd ∈ lineEnds) (hrest : HasLines text parts) :
      HasLines (line ++ lineEnd ++ text) (line :: parts)

theorem HasLines.pushFront {text : List Char} {parts : List (List Char)} {c : Char}
    (hc : c ≠ '\n') (h : HasLines text parts) :
    HasLines (c :: text) (Text.pushFront c parts) := by
  have hline {line : List Char} (hline : '\n' ∉ line) : '\n' ∉ c :: line := by
    rw [List.mem_cons, not_or]
    exact ⟨hc.symm, hline⟩
  cases h with
  | last h => exact .last (hline h)
  | more h hend hrest => exact .more (hline h) hend hrest

/-- The parts of a text between its line feeds are lines of it. -/
theorem hasLines_splitOn (text : List Char) : HasLines text (splitOn '\n' text) := by
  induction text with
  | nil => exact .last List.not_mem_nil
  | cons c rest ih =>
    rw [splitOn]
    split
    · rename_i hc
      rw [hc]
      exact .more List.not_mem_nil (List.mem_cons_self ..) ih
    · rename_i hc
      exact ih.pushFront hc

/-- They remain its lines when each line feed gets a carriage return in front. -/
theorem hasLines_replace (text : List Char) :
    HasLines (replace ['\n'] ['\r', '\n'] text) (splitOn '\n' text) := by
  induction text with
  | nil => exact .last List.not_mem_nil
  | cons c rest ih =>
    rw [replace] at ih ⊢
    rw [replaceSkipping, splitOn]
    by_cases hc : c = '\n'
    · have hprefix : ['\n'].isPrefixOf ('\n' :: rest) = true := rfl
      rw [hc, if_pos rfl, if_pos hprefix]
      exact .more List.not_mem_nil (List.mem_cons_of_mem _ (List.mem_cons_self ..)) ih
    · rw [if_neg hc, if_neg]
      · exact ih.pushFront hc
      · simp [List.isPrefixOf, Ne.symm hc]

/-- The first of several lines is read as it is, or without a carriage return at its end. -/
theorem exists_lines_append {line lineEnd : List Char} (h : '\n' ∉ line)
    (hend : lineEnd ∈ lineEnds) (text : List Char) :
    ∃ first, lines (line ++ lineEnd ++ text) = first :: lines text ∧
      (line = first ∨ line = first ++ ['\r']) := by
  induction line with
  | nil =>
    simp only [lineEnds, List.mem_cons, List.not_mem_nil, or_false] at hend
    rcases hend with rfl | rfl
    · exact ⟨[], rfl, Or.inl rfl⟩
    · exact ⟨[], rfl, Or.inl rfl⟩
  | cons c rest ih =>
    rw [List.mem_cons, not_or] at h
    obtain ⟨first, hlines, hfirst⟩ := ih h.2
    by_cases hreturn : c = '\r' ∧ rest = [] ∧ lineEnd = ['\n']
    · obtain ⟨rfl, rfl, rfl⟩ := hreturn
      exact ⟨[], rfl, Or.inr rfl⟩
    · refine ⟨c :: first, ?_, ?_⟩
      · rw [List.cons_append, List.cons_append, lines, hlines]
        · rfl
        · exact fun hc => h.1 hc.symm
        · -- a line feed comes next only if the line is at its end
          rintro back rfl hback
          refine hreturn ⟨rfl, ?_⟩
          rcases rest with _ | ⟨d, rest⟩
          · simp only [lineEnds, List.mem_cons, List.not_mem_nil, or_false] at hend
            rcases hend with rfl | rfl
            · exact ⟨rfl, rfl⟩
            · cases hback
          · rw [List.mem_cons, not_or] at h
            exact absurd (List.cons.inj hback).1.symm h.2.1
      · rcases hfirst with rfl | rfl
        · exact Or.inl rfl
        · exact Or.inr rfl

/-- What is read off the lines one by one is the same for whatever line ends. -/
theorem filterMap_lines {β : Type} {f : List Char → Option β} (hnil : f [] = none)
    (hreturn : ∀ line, f (line ++ ['\r']) = f line) {text : List Char} {parts : List (List Char)}
    (h : HasLines text parts) : (lines text).filterMap f = parts.filterMap f := by
  induction h with
  | @last line h =>
    rcases line with _ | ⟨c, line⟩
    · rw [List.filterMap_cons_none hnil]
      rfl
    · rw [lines_eq_singleton (List.cons_ne_nil _ _) h]
  | @more line lineEnd text parts h hend _ ih =>
    obtain ⟨first, hlines, hfirst⟩ := exists_lines_append h hend text
    have hline : f line = f first := by
      rcases hfirst with rfl | rfl
      · rfl
      · exact hreturn first
    rw [hlines, List.filterMap_cons, List.filterMap_cons, ih, hline]

/-! ## Words -/

/-- A character that is no white space begins a word, which goes on up to the next white space. -/
theorem words_eq_cons {c : Char} (hc : isBlank c = false) (cs : List Char) : words (c :: cs) =
    (c :: cs.takeWhile (!isBlank ·)) :: words (cs.dropWhile (!isBlank ·)) := by
  induction cs generalizing c with
  | nil => exact words_singleton hc
  | cons d rest ih =>
    rcases hd : isBlank d with _ | _
    · rw [words_cons hc hd, ih hd, List.takeWhile_cons_of_pos (by rw [hd]; rfl),
        List.dropWhile_cons_of_pos (by rw [hd]; rfl)]
      rfl
    · rw [words_cons_end hc hd, List.takeWhile_cons_of_neg (by rw [hd]; decide),
        List.dropWhile_cons_of_neg (by rw [hd]; decide)]

/-- White space ends the words in front of it. -/
theorem words_append_blank {b : Char} (hb : isBlank b = true) (cs ds : List Char) :
    words (cs ++ b :: ds) = words cs ++ words ds := by
  induction cs with
  | nil => exact words_cons_blank hb ds
  | cons c rest ih =>
    rw [List.cons_append]
    rcases hc : isBlank c with _ | _
    · rcases rest with _ | ⟨d, rest⟩
      · rw [List.nil_append, words_cons_end hc hb, words_cons_blank hb, words_singleton hc]
        rfl
      · rw [List.cons_append] at ih ⊢
        rcases hd : isBlank d with _ | _
        · rw [words_cons hc hd, words_cons hc hd, ih, words_eq_cons hd]
          rfl
        · rw [words_cons_end hc hd, words_cons_end hc hd, ih, List.cons_append]
    · rw [words_cons_blank hc, words_cons_blank hc, ih]

section

variable {blanks : List Char} (h : ∀ c ∈ blanks, isBlank c = true)
include h

theorem words_blanks_append (cs : List Char) : words (blanks ++ cs) = words cs := by
  induction blanks with
  | nil => rfl
  | cons b rest ih =>
    rw [List.cons_append, words_cons_blank (h b (List.mem_cons_self ..)),
      ih fun c hc => h c (List.mem_cons_of_mem _ hc)]

theorem words_eq_nil : words blanks = [] := by
  have hwords := words_blanks_append h []
  rwa [List.append_nil] at hwords

theorem words_append_blanks (cs : List Char) : words (cs ++ blanks) = words cs := by
  rcases blanks with _ | ⟨b, rest⟩
  · rw [List.append_nil]
  · rw [words_append_blank (h b (List.mem_cons_self ..)),
      words_eq_nil fun c hc => h c (List.mem_cons_of_mem _ hc), List.append_nil]

end

/-- White space at the ends of a text makes no difference to its words. -/
theorem words_trim (cs : List Char) : words (trim cs) = words cs := by
  have hfront : ∀ c ∈ cs.takeWhile isBlank, isBlank c = true :=
    fun c hc => List.mem_takeWhile_imp hc
  obtain ⟨back, hback, hblank⟩ := exists_dropEndWhile_append isBlank (trimStart cs)
  calc words (trim cs)
    _ = words (trim cs ++ back) := (words_append_blanks hblank _).symm
    _ = words (trimStart cs) := by rw [trim, trimEnd, hback]
    _ = words (cs.takeWhile isBlank ++ trimStart cs) := (words_blanks_append hfront _).symm
    _ = words cs := by rw [trimStart, List.takeWhile_append_dropWhile]

/-- Without the white space in front, a text starts as its first word does. -/
theorem head?_trim (cs : List Char) : (trim cs).head? = (words cs).head?.bind List.head? := by
  rw [← words_trim]
  rcases h : trim cs with _ | ⟨c, rest⟩
  · rfl
  · rw [words_eq_cons (isBlank_head?_trim (congrArg List.head? h))]
    rfl

/-- What is trimmed stands at the start of what is trimmed with more behind it. -/
theorem trim_prefix_trim_append {cs ds : List Char} (h : ∃ c ∈ ds, isBlank c = false) :
    trim cs <+: trim (cs ++ ds) := by
  have hds : dropEndWhile isBlank ds ≠ [] := by
    intro hnil
    obtain ⟨c, hc, hblank⟩ := h
    rw [List.rdropWhile_eq_nil_iff.mp hnil c hc] at hblank
    cases hblank
  have hstart : trimStart (cs ++ ds) =
      if (trimStart cs).isEmpty then trimStart ds else trimStart cs ++ ds := List.dropWhile_append
  rw [trim, trim, hstart]
  split
  · rename_i hempty
    rw [List.isEmpty_iff.mp hempty]
    exact List.nil_prefix
  · rw [trimEnd, trimEnd, dropEndWhile_append_of_ne_nil hds]
    exact (dropEndWhile_prefix_self _ _).trans (List.prefix_append _ _)

theorem trim_eq_nil_iff {cs : List Char} : trim cs = [] ↔ words cs = [] := by
  rw [← words_trim]
  constructor
  · intro h
    rw [h]
    rfl
  · rcases h : trim cs with _ | ⟨c, rest⟩
    · exact fun _ => rfl
    · rw [words_eq_cons (isBlank_head?_trim (congrArg List.head? h))]
      exact nofun

/-- A stretch without white space. -/
def IsUnbroken (w : List Char) : Prop := w ≠ [] ∧ ∀ c ∈ w, isBlank c = false

theorem isUnbroken_takeWhile {c : Char} (hc : isBlank c = false) (cs : List Char) :
    IsUnbroken (c :: cs.takeWhile (!isBlank ·)) := by
  refine ⟨List.cons_ne_nil _ _, fun d hd => ?_⟩
  rcases List.mem_cons.mp hd with rfl | hd
  · exact hc
  · simpa using List.mem_takeWhile_imp hd

/-- What follows a word begins with white space. -/
theorem isBlank_head?_dropWhile {cs : List Char} {c : Char}
    (h : (cs.dropWhile (!isBlank ·)).head? = some c) : isBlank c = true := by
  have := List.head?_dropWhile_not (!isBlank ·) cs
  rw [h] at this
  simpa using this

/-- Where the first word of a text stands. -/
theorem exists_of_words_eq_cons {cs w : List Char} {ws : List (List Char)}
    (h : words cs = w :: ws) :
    ∃ gap back, cs = gap ++ w ++ back ∧ (∀ c ∈ gap, isBlank c = true) ∧ IsUnbroken w ∧
      (∀ c, back.head? = some c → isBlank c = true) ∧ words back = ws := by
  have hgap : ∀ c ∈ cs.takeWhile isBlank, isBlank c = true := fun c hc => List.mem_takeWhile_imp hc
  have hsplit : cs.takeWhile isBlank ++ cs.dropWhile isBlank = cs := List.takeWhile_append_dropWhile
  rw [← hsplit, words_blanks_append hgap] at h
  rcases hnext : cs.dropWhile isBlank with _ | ⟨d, ds⟩
  · rw [hnext] at h
    cases h
  · have hd : isBlank d = false := by
      have := List.head?_dropWhile_not isBlank cs
      rw [hnext] at this
      simpa using this
    rw [hnext, words_eq_cons hd, List.cons.injEq] at h
    obtain ⟨rfl, rfl⟩ := h
    refine ⟨cs.takeWhile isBlank, ds.dropWhile (!isBlank ·), ?_, hgap, isUnbroken_takeWhile hd ds,
      fun c hc => isBlank_head?_dropWhile hc, rfl⟩
    rw [List.append_assoc, List.cons_append, List.takeWhile_append_dropWhile, ← hnext, hsplit]

/-- A stretch without white space is the first word, if white space or nothing follows it. -/
theorem words_unbroken_append {w back : List Char} (hw : IsUnbroken w)
    (hback : ∀ c, back.head? = some c → isBlank c = true) :
    words (w ++ back) = w :: words back := by
  rcases back with _ | ⟨d, back⟩
  · rw [List.append_nil, words_eq_singleton hw.1 hw.2]
    rfl
  · rw [words_append_blank (hback d rfl), words_eq_singleton hw.1 hw.2,
      words_cons_blank (hback d rfl)]
    rfl

/-- Behind a first stretch without white space, and some white space, comes this one, and behind it
white space or nothing. -/
def IsSecondWord (cs w : List Char) : Prop :=
  ∃ first gap back, cs = first ++ gap ++ w ++ back ∧ IsUnbroken first ∧ IsUnbroken w ∧
    gap ≠ [] ∧ (∀ c ∈ gap, isBlank c = true) ∧ ∀ c, back.head? = some c → isBlank c = true

theorem isSecondWord_iff {cs w : List Char} (hcs : ∀ c, cs.head? = some c → isBlank c = false) :
    IsSecondWord cs w ↔ ∃ first rest, words cs = first :: w :: rest := by
  constructor
  · rintro ⟨first, gap, back, rfl, hfirst, hw, hgap, hblank, hback⟩
    obtain ⟨b, gap, rfl⟩ := List.exists_cons_of_ne_nil hgap
    refine ⟨first, words back, ?_⟩
    rw [List.append_assoc, List.append_assoc, List.cons_append,
      words_append_blank (hblank b (List.mem_cons_self ..)), words_eq_singleton hfirst.1 hfirst.2,
      words_blanks_append fun c hc => hblank c (List.mem_cons_of_mem _ hc),
      words_unbroken_append hw hback]
    rfl
  · rintro ⟨first, rest, h⟩
    obtain ⟨front, behind, rfl, hfront, hfirst, hbehind, hnext⟩ := exists_of_words_eq_cons h
    obtain ⟨gap, back, rfl, hgap, hw, hback, -⟩ := exists_of_words_eq_cons hnext
    rcases front with _ | ⟨b, front⟩
    · refine ⟨first, gap, back, by simp, hfirst, hw, ?_, hgap, hback⟩
      -- without a gap the two words would be one
      rintro rfl
      obtain ⟨c, w, rfl⟩ := List.exists_cons_of_ne_nil hw.1
      have hc := hbehind c rfl
      rw [hw.2 c (List.mem_cons_self ..)] at hc
      cases hc
    · have hb := hcs b rfl
      rw [hfront b (List.mem_cons_self ..)] at hb
      cases hb

end AdFilter.Text
