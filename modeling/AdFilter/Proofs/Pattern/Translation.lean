import Mathlib.Data.List.MinMax
import Mathlib.Order.Nat
import AdFilter.Pattern.Wildcard
import AdFilter.Proofs.Text.Replacement

/-!
# Wildcard rules as patterns

`Wildcard.source` escapes a rule as a whole and then replaces three escaped characters in it. It
comes to the same as writing the rule character by character: a backslash stands in front of each of
the three wherever they stand, so an occurrence to be replaced is an escaped character and never the
end of one and the start of the next. `source_spec` says so, of the occurrences that are found as
well.

What is written so is read as a pattern again (`ofSource?_source`): the condition that the text
starts there, and one part for each character of the rule.
-/

namespace AdFilter

/-! ## Writing -/

namespace Wildcard

open Text

/-- A character behind a backslash, if it has a meaning in patterns. -/
def escaped (c : Char) : List Char :=
  if Pattern.metaCharacters.contains c then ['\\', c] else [c]

/-- What is written for a character of a rule. -/
def written (c : Char) : List Char :=
  if c = '|' then "\\b".toList
  else if c = '^' then "[^\\w\\-.%]".toList
  else if c = '*' then ".*".toList
  else escaped c

theorem escape_eq (rule : List Char) : escape rule = rule.flatMap escaped := by
  induction rule with
  | nil => rfl
  | cons c rule ih =>
    rw [escape, List.flatMap_cons, escaped, ih]
    split <;> rfl

theorem not_mem_escaped {x : Char} (hx : x ≠ '\\') (c : Char) (hc : c ≠ x) : x ∉ escaped c := by
  rw [escaped]
  split <;> simp [hx, hc.symm]

theorem not_mem_update {write : Char → List Char} {x y : Char} {new : List Char} (hnew : x ∉ new)
    (hwrite : ∀ c, c ≠ x → x ∉ write c) (c : Char) (hc : c ≠ x) :
    x ∉ Function.update write y new c := by
  rw [Function.update_apply]
  split
  · exact hnew
  · exact hwrite c hc

/-- What is written for a character once the stars are replaced. -/
def starred : Char → List Char := Function.update escaped '*' ".*".toList

/-- What is written for a character once the separators are replaced as well. -/
def separated : Char → List Char := Function.update starred '^' "[^\\w\\-.%]".toList

theorem not_mem_starred : ∀ c, c ≠ '^' → '^' ∉ starred c :=
  not_mem_update (by decide) (not_mem_escaped (by decide))

theorem not_mem_separated : ∀ c, c ≠ '|' → '|' ∉ separated c :=
  not_mem_update (by decide) (not_mem_update (by decide) (not_mem_escaped (by decide)))

theorem written_eq : written = Function.update separated '|' "\\b".toList := by
  funext c
  simp only [written, separated, starred, Function.update_apply]

/-- An escaped rule in which the stars are replaced. -/
def afterStars (rule : List Char) : List Char :=
  replace "\\*".toList ".*".toList (escape rule)

/-- The same in which the separators are replaced as well. -/
def afterSeparators (rule : List Char) : List Char :=
  replace "\\^".toList "[^\\w\\-.%]".toList (afterStars rule)

theorem afterStars_eq (rule : List Char) : afterStars rule = rule.flatMap starred := by
  rw [afterStars, escape_eq]
  exact replace_flatMap (by decide) rfl (not_mem_escaped (by decide))

theorem afterSeparators_eq (rule : List Char) : afterSeparators rule = rule.flatMap separated := by
  rw [afterSeparators, afterStars_eq]
  exact replace_flatMap (by decide) rfl not_mem_starred

/-- A rule is written character by character. -/
theorem source_eq (rule : List Char) : source rule = '^' :: rule.flatMap written := by
  have hedges : source rule = '^' :: replace "\\|".toList "\\b".toList (afterSeparators rule) := rfl
  rw [hedges, afterSeparators_eq, written_eq]
  exact congrArg _ (replace_flatMap (by decide) rfl not_mem_separated)

/-- A rule is written character by character, and the three replacements are the reason: each finds
just what was written for one of the wildcards of the rule, so what it leaves between the
occurrences is what is written for the parts of the rule between these wildcards. A backslash of the
rule is written twice, however many there are and whatever follows them. -/
theorem source_spec (rule : List Char) :
    source rule = '^' :: rule.flatMap written ∧
    written '*' = ".*".toList ∧ written '^' = "[^\\w\\-.%]".toList ∧ written '|' = "\\b".toList ∧
    (∀ c ∈ "\\.+?()[]\x7b\x7d$#&-~".toList, written c = ['\\', c]) ∧
    (∀ c ∉ "\\.+?()[]\x7b\x7d$#&-~*^|".toList, written c = [c]) ∧
    source rule = '^' :: replace "\\|".toList "\\b".toList (afterSeparators rule) ∧
    stretches "\\*".toList (escape rule) = (splitOn '*' rule).map escape ∧
    stretches "\\^".toList (afterStars rule) = (splitOn '^' rule).map afterStars ∧
    stretches "\\|".toList (afterSeparators rule) = (splitOn '|' rule).map afterSeparators ∧
    ∀ old new cs, replace old new cs = joinWith new (stretches old cs) ∧
      (old ≠ [] → joinWith old (stretches old cs) = cs) := by
  refine ⟨source_eq rule, rfl, rfl, rfl, by decide, fun c hc => ?_, rfl, ?_, ?_, ?_,
    fun old new cs => ⟨replace_eq_joinWith old new cs, fun hold => joinWith_stretches hold cs⟩⟩
  · have hplain : ∀ x ∈ Pattern.metaCharacters, x ∈ "\\.+?()[]\x7b\x7d$#&-~*^|".toList := by decide
    have hwild : ∀ x ∈ "*^|".toList, x ∈ "\\.+?()[]\x7b\x7d$#&-~*^|".toList := by decide
    rw [written, if_neg, if_neg, if_neg, escaped, if_neg]
    · exact fun h => hc (hplain c (List.contains_iff_mem.mp h))
    all_goals
      rintro rfl
      exact hc (hwild _ (by decide))
  · rw [escape_eq, funext escape_eq]
    exact stretches_flatMap (by decide) rfl (not_mem_escaped (by decide)) rule
  · rw [afterStars_eq, funext afterStars_eq]
    exact stretches_flatMap (by decide) rfl not_mem_starred rule
  · rw [afterSeparators_eq, funext afterSeparators_eq]
    exact stretches_flatMap (by decide) rfl not_mem_separated rule

/-- Two backslashes in front of a star are no part of it. -/
example : source "\\\\*|".toList = "^\\\\\\\\.*\\b".toList := by decide

/-! ## Reading -/

end Wildcard

namespace Pattern

variable {fuel : Nat} {g : Progress} {c : Char} {cs rest : List Char}

theorem readEscape?_of_mem (h : c ∈ metaCharacters) (cs : List Char) :
    readEscape? {} (c :: cs) = some (.char c false, cs) := by
  have hescapable : isEscapable c = true := by
    rw [isEscapable, List.contains_iff_mem.mpr h, Bool.true_or]
  rw [readEscape?, if_pos hescapable]
  -- no letter that announces something else has a meaning of its own
  all_goals
    rintro rfl
    exact absurd h (by decide)

theorem readPrimitive?_of_not_mem (h : c ∉ metaCharacters) (cs : List Char) :
    readPrimitive? {} (c :: cs) = some (.char c false, cs) := by
  rw [readPrimitive?]
  all_goals
    rintro rfl
    exact h (by decide)

/-- What begins with none of the characters that group and repeat is read by its smallest part. -/
theorem readFrom_cons {part : Primitive} {p : Pattern}
    (hc : c ∉ "()|[?*+\x7b".toList) (hread : readPrimitive? {} (c :: cs) = some (part, rest))
    (hp : part.pattern? {} = some p) :
    readFrom (fuel + 1) {} g [] [] (c :: cs) =
      readFrom fuel {} (g.add ⟨p, 0, true⟩) [] [] rest := by
  have hskip : ({} : Flags).skip (c :: cs) = c :: cs := rfl
  rw [readFrom, hskip]
  split
  case h_10 =>
    rw [hread]
    simp only [Option.bind_eq_bind, Option.bind_some, hp]
  case h_1 heq => cases heq
  all_goals
    rename_i heq
    cases heq
    exact absurd hc (by decide)

theorem dropShortMark_eq (h : cs.head? ≠ some '?') : dropShortMark cs = cs := by
  rcases cs with _ | ⟨c, cs⟩
  · rfl
  · rw [dropShortMark]
    rintro rest ⟨⟩
    exact h rfl

theorem readBoundary_eq (h : cs.head? ≠ some '\x7b') :
    readBoundary {} cs = some (.word .wordBoundary, cs) := by
  rcases cs with _ | ⟨c, cs⟩
  · rfl
  · rw [readBoundary]
    rintro rest ⟨⟩
    exact h rfl

end Pattern

namespace Wildcard

open Pattern

/-- Any stretch without a line feed. -/
def anything : Pattern := .times (.one (.compl (.list ['\n']))) 0 none

/-- The set that is written for a separating character. -/
def separators : CharSet :=
  .compl (.caseless (.unions [.having Text.isWord, .list ['-'], .list ['.'], .list ['%']]))

/-- What is read for a character of a rule. -/
def part (c : Char) : Piece :=
  if c = '|' then ⟨.look (.wordBoundary .unicode), 0, true⟩
  else if c = '^' then ⟨.one separators, 2, true⟩
  else if c = '*' then ⟨anything, 1, true⟩
  else ⟨.one (.like c), 0, true⟩

variable {fuel : Nat} {g : Progress} {rule rest : List Char}

theorem readFrom_any (h : rest.head? ≠ some '?') :
    readFrom (fuel + 2) {} g [] [] (".*".toList ++ rest) =
      readFrom fuel {} (g.add ⟨anything, 1, true⟩) [] [] rest := by
  have hread : readFrom (fuel + 2) {} g [] [] (".*".toList ++ rest) =
      readFrom fuel {} (g.add ⟨anything, 1, true⟩) [] [] (dropShortMark rest) := rfl
  rw [hread, dropShortMark_eq h]

theorem readFrom_separators :
    readFrom (fuel + 1) {} g [] [] ("[^\\w\\-.%]".toList ++ rest) =
      readFrom fuel {} (g.add ⟨.one separators, 2, true⟩) [] [] rest := rfl

theorem readFrom_edge (h : rest.head? ≠ some '\x7b') :
    readFrom (fuel + 1) {} g [] [] ("\\b".toList ++ rest) =
      readFrom fuel {} (g.add ⟨.look (.wordBoundary .unicode), 0, true⟩) [] [] rest :=
  readFrom_cons (by decide) (readBoundary_eq h) rfl

theorem readFrom_escaped (c : Char) :
    readFrom (fuel + 1) {} g [] [] (escaped c ++ rest) =
      readFrom fuel {} (g.add ⟨.one (.like c), 0, true⟩) [] [] rest := by
  rw [escaped]
  split
  · rename_i hc
    exact readFrom_cons (by decide) (readEscape?_of_mem (List.contains_iff_mem.mp hc) rest) rfl
  · rename_i hc
    rw [List.contains_iff_mem] at hc
    have hplain : ∀ x ∈ "()|[?*+\x7b".toList, x ∈ metaCharacters := by decide
    exact readFrom_cons (fun h => hc (hplain c h)) (readPrimitive?_of_not_mem hc rest) rfl

theorem length_escaped_pos (c : Char) : 0 < (escaped c).length := by
  rw [escaped]
  split <;> exact Nat.succ_pos _

/-- What is written for one character of a rule is read as its part, in no more steps than it has
characters. -/
theorem readFrom_written (c : Char) (hshort : rest.head? ≠ some '?')
    (hbrace : rest.head? ≠ some '\x7b') :
    ∃ steps ≤ (written c).length, ∀ fuel g, readFrom (fuel + steps) {} g [] [] (written c ++ rest) =
      readFrom fuel {} (g.add (part c)) [] [] rest := by
  rw [written, part]
  split
  · exact ⟨1, by decide, fun _ _ => readFrom_edge hbrace⟩
  · split
    · exact ⟨1, by decide, fun _ _ => readFrom_separators⟩
    · split
      · exact ⟨2, by decide, fun _ _ => readFrom_any hshort⟩
      · exact ⟨1, length_escaped_pos c, fun _ _ => readFrom_escaped c⟩

/-- A character that has a meaning in patterns is not the first that is written, unless it is one
that the writing itself begins with. -/
theorem head?_flatMap_written {x : Char} (hx : x ∈ metaCharacters) (hne : x ∉ "\\[.".toList)
    (rule : List Char) : (rule.flatMap written).head? ≠ some x := by
  rcases rule with _ | ⟨c, rule⟩
  · exact nofun
  · have hwritten : ∃ y ys, written c = y :: ys ∧ y ≠ x := by
      rw [written]
      split
      · exact ⟨_, _, rfl, fun h => hne (h ▸ by decide)⟩
      · split
        · exact ⟨_, _, rfl, fun h => hne (h ▸ by decide)⟩
        · split
          · exact ⟨_, _, rfl, fun h => hne (h ▸ by decide)⟩
          · rw [escaped]
            split
            · exact ⟨_, _, rfl, fun h => hne (h ▸ by decide)⟩
            · rename_i hc
              exact ⟨_, _, rfl, fun h => hc (List.contains_iff_mem.mpr (h ▸ hx))⟩
    obtain ⟨y, ys, hy, hyx⟩ := hwritten
    rw [List.flatMap_cons, hy]
    exact fun h => hyx (Option.some.inj h)

/-- A rule is read part by part. -/
theorem readFrom_flatMap (hfuel : (rule.flatMap written).length < fuel) :
    readFrom fuel {} g [] [] (rule.flatMap written) =
      some (Progress.whole { g with pieces := (rule.map part).reverse ++ g.pieces }) := by
  induction rule generalizing fuel g with
  | nil =>
    obtain ⟨n, rfl⟩ : ∃ n, fuel = n + 1 := ⟨fuel - 1, by omega⟩
    rfl
  | cons c rule ih =>
    obtain ⟨steps, hsteps, hread⟩ := readFrom_written c
      (head?_flatMap_written (by decide) (by decide) rule)
      (head?_flatMap_written (by decide) (by decide) rule)
    rw [List.flatMap_cons, List.length_append] at hfuel
    obtain ⟨n, rfl⟩ : ∃ n, fuel = n + steps := ⟨fuel - steps, by omega⟩
    rw [List.flatMap_cons, hread, ih (by omega), List.map_cons, List.reverse_cons,
      List.append_assoc]
    rfl

/-- The pattern that a rule is written as. -/
def pattern (rule : List Char) : Pattern :=
  (Piece.sequence (⟨.look .textStart, 0, true⟩ :: rule.map part)).pattern

theorem depth_part_le (c : Char) : (part c).depth ≤ 2 := by
  rw [part]
  split
  · decide
  · split
    · decide
    · split
      · decide
      · exact Nat.zero_le 2

theorem depth_sequence_le {pieces : List Piece} {n : Nat} (h : ∀ p ∈ pieces, p.depth ≤ n) :
    (Piece.sequence pieces).depth ≤ 1 + n := by
  rcases pieces with _ | ⟨p, _ | ⟨q, pieces⟩⟩
  · exact Nat.zero_le _
  · exact Nat.le_add_left_of_le (h p (List.mem_singleton_self p))
  · exact Nat.add_le_add_left (List.max_le_of_forall_le _ n (List.forall_mem_map.mpr h)) 1

/-- Every rule is written as a pattern. -/
theorem ofSource?_source (rule : List Char) : ofSource? (source rule) = some (pattern rule) := by
  have hread : readFrom ((source rule).length + 1) {} {} [] [] (source rule) =
      some (Piece.sequence (⟨.look .textStart, 0, true⟩ :: rule.map part)) := by
    have hfuel : (rule.flatMap written).length < (source rule).length := by
      rw [source_eq]
      exact Nat.lt_succ_self _
    generalize (source rule).length = n at hfuel
    have hpieces : ((rule.map part).reverse ++
        (({} : Progress).add ⟨.look .textStart, 0, true⟩).pieces).reverse =
          ⟨.look .textStart, 0, true⟩ :: rule.map part := by
      rw [List.reverse_append, List.reverse_reverse]
      rfl
    calc readFrom (n + 1) {} {} [] [] (source rule)
      _ = readFrom (n + 1) {} {} [] [] ('^' :: rule.flatMap written) := by rw [source_eq]
      _ = readFrom n {} (({} : Progress).add ⟨.look .textStart, 0, true⟩) [] []
            (rule.flatMap written) := rfl
      _ = some (Piece.sequence ((rule.map part).reverse ++
            (({} : Progress).add ⟨.look .textStart, 0, true⟩).pieces).reverse) :=
          readFrom_flatMap hfuel
      _ = some (Piece.sequence (⟨.look .textStart, 0, true⟩ :: rule.map part)) := by rw [hpieces]
  have hdepth : (Piece.sequence (⟨.look .textStart, 0, true⟩ :: rule.map part)).depth ≤ 1 + 2 := by
    refine depth_sequence_le (List.forall_mem_cons.mpr ⟨Nat.zero_le 2, ?_⟩)
    exact List.forall_mem_map.mpr fun c _ => depth_part_le c
  rw [ofSource?, hread]
  exact if_pos (Nat.le_trans hdepth (by decide))

end Wildcard

end AdFilter
