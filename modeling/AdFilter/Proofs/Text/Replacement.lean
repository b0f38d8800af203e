import AdFilter.Proofs.Text.Layout
import Mathlib.Logic.Function.Basic

/-!
# What a replacement finds

`Text.stretches` are the stretches of a text between the occurrences that `Text.replace` finds.
Joined by the old text they are the text itself, and joined by the new one they are what comes of
the replacement; so a statement on them says where the occurrences are.

The text in question is written character by character, and a backslash stands in front of the
character to be replaced wherever that occurs. Then each occurrence is what was written for one
character (`stretches_flatMap`), whatever stands around it.
-/

namespace AdFilter.Text

variable {old new cs : List Char} {x c : Char}

/-- The stretches between the occurrences of a text, found from the left and without overlap; `skip`
characters still belong to an occurrence found before. -/
def stretchesSkipping (old : List Char) : Nat → List Char → List (List Char)
  | _, [] => [[]]
  | skip + 1, _ :: cs => stretchesSkipping old skip cs
  | 0, c :: cs =>
    if old.isPrefixOf (c :: cs) then [] :: stretchesSkipping old (old.length - 1) cs
    else pushFront c (stretchesSkipping old 0 cs)

/-- The stretches of a text between the occurrences of a text that is not empty. -/
def stretches (old cs : List Char) : List (List Char) := stretchesSkipping old 0 cs

theorem pushFront_ne_nil (c : Char) (parts : List (List Char)) : pushFront c parts ≠ [] := by
  rcases parts with _ | ⟨part, parts⟩ <;> exact List.cons_ne_nil _ _

theorem stretchesSkipping_ne_nil (old : List Char) (skip : Nat) (cs : List Char) :
    stretchesSkipping old skip cs ≠ [] := by
  induction cs generalizing skip with
  | nil => exact List.cons_ne_nil _ _
  | cons c cs ih =>
    rcases skip with _ | skip
    · rw [stretchesSkipping]
      split
      · exact List.cons_ne_nil _ _
      · exact pushFront_ne_nil c _
    · exact ih skip

/-! ## What comes of a replacement -/

theorem replaceSkipping_eq_joinWith (old new : List Char) (skip : Nat) (cs : List Char) :
    replaceSkipping old new skip cs = joinWith new (stretchesSkipping old skip cs) := by
  induction cs generalizing skip with
  | nil => rfl
  | cons c cs ih =>
    rcases skip with _ | skip
    · rw [replaceSkipping, stretchesSkipping]
      split
      · rw [joinWith_cons (stretchesSkipping_ne_nil _ _ _), ih, List.nil_append]
      · rw [joinWith_pushFront (stretchesSkipping_ne_nil _ _ _), ih]
    · exact ih skip

/-- What is found is replaced, and all else is kept. -/
theorem replace_eq_joinWith (old new cs : List Char) :
    replace old new cs = joinWith new (stretches old cs) :=
  replaceSkipping_eq_joinWith old new 0 cs

theorem replaceSkipping_self (hold : old ≠ []) (skip : Nat) (cs : List Char) :
    replaceSkipping old old skip cs = cs.drop skip := by
  induction cs generalizing skip with
  | nil => exact (List.drop_nil).symm
  | cons c cs ih =>
    rcases skip with _ | skip
    · rw [replaceSkipping]
      split
      · rename_i hprefix
        obtain ⟨rest, hrest⟩ := List.isPrefixOf_iff_prefix.mp hprefix
        obtain ⟨o, os, rfl⟩ := List.exists_cons_of_ne_nil hold
        rw [List.cons_append, List.cons.injEq] at hrest
        rw [ih, ← hrest.1, ← hrest.2]
        simp
      · rw [ih, List.drop_zero, List.drop_zero]
    · exact ih skip

/-- Between the stretches stands what was looked for. -/
theorem joinWith_stretches (hold : old ≠ []) (cs : List Char) :
    joinWith old (stretches old cs) = cs := by
  rw [← replace_eq_joinWith]
  exact replaceSkipping_self hold 0 cs

/-! ## Escaped characters -/

theorem foldr_pushFront (front part : List Char) (parts : List (List Char)) :
    front.foldr pushFront (part :: parts) = (front ++ part) :: parts := by
  induction front with
  | nil => rfl
  | cons c front ih =>
    rw [List.foldr_cons, ih]
    rfl

theorem joinWith_foldr_pushFront {parts : List (List Char)} (h : parts ≠ [])
    (front : List Char) : joinWith new (front.foldr pushFront parts) =
      front ++ joinWith new parts := by
  obtain ⟨part, parts, rfl⟩ := List.exists_cons_of_ne_nil h
  induction front with
  | nil => rfl
  | cons c front ih =>
    rw [List.foldr_cons, foldr_pushFront, joinWith_pushFront (List.cons_ne_nil _ _),
      ← foldr_pushFront, ih, List.cons_append]

theorem stretches_escaped (cs : List Char) :
    stretches ['\\', x] ('\\' :: x :: cs) = [] :: stretches ['\\', x] cs := by
  simp [stretches, stretchesSkipping, List.isPrefixOf]

/-- In a stretch without a character, no occurrence of it with a backslash begins. -/
theorem stretches_append {front rest : List Char} (hfront : x ∉ front)
    (hrest : rest.head? ≠ some x) :
    stretches ['\\', x] (front ++ rest) = front.foldr pushFront (stretches ['\\', x] rest) := by
  induction front with
  | nil => rfl
  | cons c front ih =>
    have hnot : ['\\', x].isPrefixOf (c :: (front ++ rest)) = false := by
      rcases front with _ | ⟨d, front⟩
      · rcases rest with _ | ⟨d, rest⟩
        · simp [List.isPrefixOf]
        · have hd : x ≠ d := fun h => hrest (h ▸ rfl)
          simp [List.isPrefixOf, hd]
      · have hd : x ≠ d := fun h => hfront (h ▸ by simp)
        simp [List.isPrefixOf, hd]
    rw [List.cons_append, stretches, stretchesSkipping, hnot, ← stretches,
      ih fun h => hfront (List.mem_cons_of_mem _ h)]
    rfl

section

variable {write : Char → List Char}

/-- A text that is written character by character does not begin with a character that is written
only behind a backslash. -/
theorem head?_flatMap_ne (hx : x ≠ '\\') (hself : write x = ['\\', x])
    (hother : ∀ c, c ≠ x → x ∉ write c) (cs : List Char) : (cs.flatMap write).head? ≠ some x := by
  induction cs with
  | nil => exact nofun
  | cons d cs ih =>
    rw [List.flatMap_cons]
    by_cases hd : d = x
    · rw [hd, hself]
      exact fun h => hx (Option.some.inj h).symm
    · rcases hwrite : write d with _ | ⟨y, ys⟩
      · exact ih
      · intro h
        refine hother d hd ?_
        rw [hwrite, ← Option.some.inj h]
        exact List.mem_cons_self ..

/-- What is written for a character comes in front of what is written for the part behind it. -/
theorem map_pushFront {parts : List (List Char)} (h : parts ≠ []) (c : Char) :
    (pushFront c parts).map (·.flatMap write) =
      (write c).foldr pushFront (parts.map (·.flatMap write)) := by
  obtain ⟨part, parts, rfl⟩ := List.exists_cons_of_ne_nil h
  rw [List.map_cons, foldr_pushFront, pushFront, List.map_cons, List.flatMap_cons]

/-- If a character is written only for itself and behind a backslash, the text is cut just where the
character stands in what is written. -/
theorem stretches_flatMap (hx : x ≠ '\\') (hself : write x = ['\\', x])
    (hother : ∀ c, c ≠ x → x ∉ write c) (cs : List Char) :
    stretches ['\\', x] (cs.flatMap write) = (splitOn x cs).map (·.flatMap write) := by
  induction cs with
  | nil => rfl
  | cons c cs ih =>
    rw [List.flatMap_cons, splitOn]
    by_cases hc : c = x
    · rw [if_pos hc, hc, hself, List.map_cons, ← ih]
      exact stretches_escaped _
    · rw [if_neg hc, stretches_append (hother c hc) (head?_flatMap_ne hx hself hother cs), ih,
        map_pushFront (splitOn_ne_nil x cs)]

/-- Joined by something else, the parts are what is written with that for the character. -/
theorem joinWith_map_splitOn (cs : List Char) :
    joinWith new ((splitOn x cs).map (·.flatMap write)) =
      cs.flatMap (Function.update write x new) := by
  induction cs with
  | nil => rfl
  | cons c cs ih =>
    have hne : (splitOn x cs).map (·.flatMap write) ≠ [] :=
      mt List.map_eq_nil_iff.mp (splitOn_ne_nil x cs)
    rw [List.flatMap_cons, ← ih, splitOn]
    by_cases hc : c = x
    · rw [if_pos hc, hc, Function.update_self, List.map_cons, joinWith_cons hne]
      rfl
    · rw [if_neg hc, Function.update_of_ne hc, map_pushFront (splitOn_ne_nil x cs),
        joinWith_foldr_pushFront hne]

/-- Something else is written for the character. -/
theorem replace_flatMap (hx : x ≠ '\\') (hself : write x = ['\\', x])
    (hother : ∀ c, c ≠ x → x ∉ write c) :
    replace ['\\', x] new (cs.flatMap write) = cs.flatMap (Function.update write x new) := by
  rw [replace_eq_joinWith, stretches_flatMap hx hself hother, joinWith_map_splitOn]

end

end AdFilter.Text
