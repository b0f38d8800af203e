import AdFilter.Text.Case
import AdFilter.Text.Layout
import Mathlib.Data.List.DropRight

/-!
# Lines, words and ends of a text

What the functions that cut a text leave of it, and when they leave all of it.
-/

namespace AdFilter.Text

/-- What holds of all characters of a text is decided by going through the text, and never by going
through all characters there are. -/
instance (priority := high) decidableForallMem {P : Char → Prop} [DecidablePred P]
    (cs : List Char) : Decidable (∀ c ∈ cs, P c) := List.decidableBAll P cs

/-! ## Ends -/

theorem dropEndWhile_prefix_self (p : Char → Bool) (cs : List Char) : dropEndWhile p cs <+: cs :=
  List.rdropWhile_prefix p cs

theorem dropEndWhile_concat (p : Char → Bool) (cs : List Char) (c : Char) :
    dropEndWhile p (cs ++ [c]) = if p c then dropEndWhile p cs else cs ++ [c] :=
  List.rdropWhile_concat p cs c

/-- What is dropped is all of the kind. -/
theorem exists_dropEndWhile_append (p : Char → Bool) (cs : List Char) :
    ∃ back, dropEndWhile p cs ++ back = cs ∧ ∀ c ∈ back, p c = true :=
  ⟨cs.rtakeWhile p, List.rdropWhile_append_rtakeWhile, fun _ => List.mem_rtakeWhile_imp⟩

/-- Nothing is dropped if the last character is of another kind. -/
theorem dropEndWhile_eq_self_iff {p : Char → Bool} {cs : List Char} :
    dropEndWhile p cs = cs ↔ ∀ c, cs.getLast? = some c → p c = false := by
  rcases List.eq_nil_or_concat cs with rfl | ⟨init, c, rfl⟩
  · simp [dropEndWhile]
  · rw [List.concat_eq_append, dropEndWhile_concat, List.getLast?_concat]
    rcases hc : p c with _ | _
    · rw [if_neg Bool.false_ne_true]
      simp [hc]
    · rw [if_pos rfl]
      constructor
      · intro h
        have := (dropEndWhile_prefix_self p init).length_le
        rw [h, List.length_append, List.length_singleton] at this
        omega
      · intro h
        rw [h c rfl] at hc
        cases hc

/-- What is left does not end in a character of the kind that was dropped. -/
theorem dropEndWhile_dropEndWhile (p : Char → Bool) (cs : List Char) :
    dropEndWhile p (dropEndWhile p cs) = dropEndWhile p cs :=
  List.rdropWhile_idempotent p cs

/-- What is dropped as a whole does not count. -/
theorem dropEndWhile_append_of_forall {p : Char → Bool} {ds : List Char}
    (h : ∀ c ∈ ds, p c = true) (cs : List Char) :
    dropEndWhile p (cs ++ ds) = dropEndWhile p cs := by
  rw [dropEndWhile, List.reverse_append, List.dropWhile_append_of_pos, dropEndWhile]
  intro c hc
  exact h c (List.mem_reverse.mp hc)

/-- What stands in front of something that is kept is kept. -/
theorem dropEndWhile_append_of_ne_nil {p : Char → Bool} {ds : List Char}
    (h : dropEndWhile p ds ≠ []) (cs : List Char) :
    dropEndWhile p (cs ++ ds) = cs ++ dropEndWhile p ds := by
  have hne : (ds.reverse.dropWhile p).isEmpty = false := by
    rw [List.isEmpty_eq_false_iff]
    intro hnil
    rw [dropEndWhile, hnil] at h
    exact h rfl
  rw [dropEndWhile, List.reverse_append, List.dropWhile_append, hne, if_neg Bool.false_ne_true,
    List.reverse_append, List.reverse_reverse, dropEndWhile]

/-- A text without white space keeps its ends. -/
theorem trim_eq_self {cs : List Char} (h : ∀ c ∈ cs, isBlank c = false) : trim cs = cs := by
  have hstart : trimStart cs = cs := by
    rcases cs with _ | ⟨c, rest⟩
    · rfl
    · exact List.dropWhile_cons_of_neg (by simp [h c (List.mem_cons_self ..)])
  rw [trim, hstart]
  exact dropEndWhile_eq_self_iff.mpr fun c hc => h c (List.mem_of_getLast? hc)

theorem head?_of_front {cs ds : List Char} {c : Char} (hfront : cs <+: ds)
    (h : cs.head? = some c) : ds.head? = some c := by
  obtain ⟨back, rfl⟩ := hfront
  rw [List.head?_append, h]
  rfl

theorem trimStart_eq_self {cs : List Char} (h : ∀ c, cs.head? = some c → isBlank c = false) :
    trimStart cs = cs := by
  rcases cs with _ | ⟨c, rest⟩
  · rfl
  · exact List.dropWhile_cons_of_neg (by simp [h c rfl])

/-- What is left does not start with white space. -/
theorem isBlank_head?_trim {cs : List Char} {c : Char} (h : (trim cs).head? = some c) :
    isBlank c = false := by
  have hstart : (trimStart cs).head? = some c := head?_of_front (dropEndWhile_prefix_self _ _) h
  rw [trimStart] at hstart
  have := List.head?_dropWhile_not isBlank cs
  rw [hstart] at this
  simpa using this

/-- What is trimmed does not end in white space. -/
theorem trimEnd_trim (cs : List Char) : trimEnd (trim cs) = trim cs :=
  dropEndWhile_dropEndWhile isBlank _

theorem trim_trim (cs : List Char) : trim (trim cs) = trim cs := by
  rw [trim, trimStart_eq_self fun c => isBlank_head?_trim, trimEnd_trim]

/-- A text may stand in front of what is trimmed. -/
theorem trim_append_trim {front cs : List Char}
    (hfront : ∃ c, front.head? = some c ∧ isBlank c = false) (hne : trim cs ≠ []) :
    trim (front ++ trim cs) = front ++ trim cs := by
  obtain ⟨c, hc, hblank⟩ := hfront
  obtain ⟨front, rfl⟩ := List.head?_eq_some_iff.mp hc
  have hend : dropEndWhile isBlank (trim cs) = trim cs := trimEnd_trim cs
  rw [trim, trimStart_eq_self, trimEnd, dropEndWhile_append_of_ne_nil, hend]
  · rwa [hend]
  · intro d hd
    rwa [← Option.some.inj hd]

theorem takeWhile_prefix_takeWhile {p : Char → Bool} {cs ds : List Char} (h : cs <+: ds) :
    cs.takeWhile p <+: ds.takeWhile p := by
  obtain ⟨back, rfl⟩ := h
  rw [List.takeWhile_append]
  split
  · exact (List.takeWhile_prefix p).trans (List.prefix_append _ _)
  · exact List.prefix_rfl

/-- A text is without a character just if all of it stands in front of the first one. -/
theorem takeWhile_bne_eq_self_iff {sep : Char} {cs : List Char} :
    cs.takeWhile (· != sep) = cs ↔ sep ∉ cs := by
  rw [List.takeWhile_eq_self_iff]
  constructor
  · intro h hsep
    exact bne_iff_ne.mp (h sep hsep) rfl
  · rintro h c hc
    rw [bne_iff_ne]
    rintro rfl
    exact h hc

/-! ## Lines and words -/

/-- A text without a line feed is one line. -/
theorem lines_eq_singleton {cs : List Char} (hne : cs ≠ []) (h : '\n' ∉ cs) :
    lines cs = [cs] := by
  induction cs with
  | nil => exact absurd rfl hne
  | cons c rest ih =>
    rw [List.mem_cons, not_or] at h
    rw [lines]
    · rcases rest with _ | ⟨d, rest⟩
      · rfl
      · rw [ih (List.cons_ne_nil _ _) h.2]
        rfl
    · rintro rfl
      exact h.1 rfl
    · rintro cs - rfl
      exact h.2 (List.mem_cons_self ..)

theorem words_cons_blank {c : Char} (h : isBlank c = true) (cs : List Char) :
    words (c :: cs) = words cs := by
  rcases cs with _ | ⟨d, cs⟩ <;> exact if_pos h

/-- A character that white space follows ends a word. -/
theorem words_cons_end {c d : Char} (hc : isBlank c = false) (hd : isBlank d = true)
    (cs : List Char) : words (c :: d :: cs) = [c] :: words (d :: cs) := by
  rw [words, hc, if_neg Bool.false_ne_true, if_pos hd]

/-- A character that another one follows is part of its word. -/
theorem words_cons {c d : Char} (hc : isBlank c = false) (hd : isBlank d = false)
    (cs : List Char) : words (c :: d :: cs) = pushFront c (words (d :: cs)) := by
  rw [words, hc, hd, if_neg Bool.false_ne_true, if_neg Bool.false_ne_true]

theorem words_singleton {c : Char} (hc : isBlank c = false) : words [c] = [[c]] := by
  rw [words, hc, if_neg Bool.false_ne_true]

/-- There is no white space in a word. -/
theorem isBlank_of_mem_words {cs w : List Char} {c : Char} (hw : w ∈ words cs) (hc : c ∈ w) :
    isBlank c = false := by
  induction cs generalizing w with
  | nil => cases hw
  | cons d rest ih =>
    rcases hd : isBlank d with _ | _
    · have hsingle : c ∈ [d] → isBlank c = false := by
        intro h
        rw [List.mem_singleton.mp h]
        exact hd
      rcases rest with _ | ⟨e, rest⟩
      · rw [words_singleton hd, List.mem_singleton] at hw
        rw [hw] at hc
        exact hsingle hc
      · rcases he : isBlank e with _ | _
        · -- the character goes to the front of the first word of the rest
          rw [words_cons hd he] at hw
          rcases hrest : words (e :: rest) with _ | ⟨v, vs⟩
          · rw [hrest, pushFront, List.mem_singleton] at hw
            rw [hw] at hc
            exact hsingle hc
          · rw [hrest, pushFront, List.mem_cons] at hw
            rw [hrest] at ih
            rcases hw with rfl | hw
            · rcases List.mem_cons.mp hc with rfl | hc
              · exact hd
              · exact ih (List.mem_cons_self ..) hc
            · exact ih (List.mem_cons_of_mem _ hw) hc
        · rw [words_cons_end hd he, List.mem_cons] at hw
          rcases hw with rfl | hw
          · exact hsingle hc
          · exact ih hw hc
    · rw [words_cons_blank hd] at hw
      exact ih hw hc

/-- What stands in front of a space is a word, if there is no white space in it. -/
theorem words_append {w cs : List Char} (hne : w ≠ []) (hw : ∀ c ∈ w, isBlank c = false) :
    words (w ++ ' ' :: cs) = w :: words cs := by
  induction w with
  | nil => exact absurd rfl hne
  | cons c rest ih =>
    have hc := hw c (List.mem_cons_self ..)
    rcases rest with _ | ⟨d, rest⟩
    · rw [List.singleton_append, words_cons_end hc (by decide), words_cons_blank (by decide)]
    · have hd := hw d (List.mem_cons_of_mem _ (List.mem_cons_self ..))
      rw [List.cons_append, List.cons_append, words_cons hc hd, ← List.cons_append,
        ih (List.cons_ne_nil _ _) fun e he => hw e (List.mem_cons_of_mem _ he)]
      rfl

/-- A text without white space is one word. -/
theorem words_eq_singleton {w : List Char} (hne : w ≠ []) (hw : ∀ c ∈ w, isBlank c = false) :
    words w = [w] := by
  induction w with
  | nil => exact absurd rfl hne
  | cons c rest ih =>
    have hc := hw c (List.mem_cons_self ..)
    rcases rest with _ | ⟨d, rest⟩
    · exact words_singleton hc
    · have hd := hw d (List.mem_cons_of_mem _ (List.mem_cons_self ..))
      rw [words_cons hc hd,
        ih (List.cons_ne_nil _ _) fun e he => hw e (List.mem_cons_of_mem _ he)]
      rfl

/-! ## Parts -/

theorem splitOn_ne_nil (sep : Char) (cs : List Char) : splitOn sep cs ≠ [] := by
  induction cs with
  | nil => exact List.cons_ne_nil _ _
  | cons c rest ih =>
    rw [splitOn]
    split
    · exact List.cons_ne_nil _ _
    · rcases splitOn sep rest with _ | ⟨part, parts⟩
      · exact List.cons_ne_nil _ _
      · exact List.cons_ne_nil _ _

theorem joinWith_cons {sep part : List Char} {parts : List (List Char)} (h : parts ≠ []) :
    joinWith sep (part :: parts) = part ++ sep ++ joinWith sep parts := by
  obtain ⟨next, rest, rfl⟩ := List.exists_cons_of_ne_nil h
  rw [joinWith, List.intercalate_cons_cons, joinWith]

theorem joinWith_pushFront {sep : List Char} {c : Char} {parts : List (List Char)}
    (h : parts ≠ []) : joinWith sep (pushFront c parts) = c :: joinWith sep parts := by
  obtain ⟨part, parts, rfl⟩ := List.exists_cons_of_ne_nil h
  rw [pushFront]
  rcases parts with _ | ⟨next, parts⟩
  · rw [joinWith, joinWith, List.intercalate_singleton, List.intercalate_singleton]
  · rw [joinWith_cons (List.cons_ne_nil _ _), joinWith_cons (List.cons_ne_nil _ _),
      List.cons_append, List.cons_append]

/-- The parts of a text, put together again. -/
theorem joinWith_splitOn (sep : Char) (cs : List Char) : joinWith [sep] (splitOn sep cs) = cs := by
  induction cs with
  | nil => rfl
  | cons c rest ih =>
    rw [splitOn]
    split
    · rename_i hc
      rw [joinWith_cons (splitOn_ne_nil sep rest), ih, hc]
      rfl
    · rw [joinWith_pushFront (splitOn_ne_nil sep rest), ih]

/-- A separator ends a part and begins the next. -/
theorem splitOn_append_cons (sep : Char) (cs ds : List Char) :
    splitOn sep (cs ++ sep :: ds) = splitOn sep cs ++ splitOn sep ds := by
  induction cs with
  | nil =>
    have hfirst : splitOn sep (sep :: ds) = [] :: splitOn sep ds := by rw [splitOn, if_pos rfl]
    exact hfirst
  | cons c rest ih =>
    rw [List.cons_append, splitOn, splitOn, ih]
    split
    · rfl
    · obtain ⟨part, parts, hparts⟩ := List.exists_cons_of_ne_nil (splitOn_ne_nil sep rest)
      rw [hparts]
      rfl

/-- A text without separators has one part. -/
theorem splitOn_eq_singleton {sep : Char} {w : List Char} (h : sep ∉ w) : splitOn sep w = [w] := by
  induction w with
  | nil => rfl
  | cons c rest ih =>
    rw [List.mem_cons, not_or] at h
    rw [splitOn, if_neg (Ne.symm h.1), ih h.2]
    rfl

/-- What stands in front of the first separator is the first part. -/
theorem splitOn_append {sep : Char} {w : List Char} (h : sep ∉ w) (cs : List Char) :
    splitOn sep (w ++ sep :: cs) = w :: splitOn sep cs := by
  rw [splitOn_append_cons, splitOn_eq_singleton h, List.singleton_append]

end AdFilter.Text
