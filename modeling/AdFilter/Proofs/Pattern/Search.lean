import Mathlib.Logic.Relation
import AdFilter.Pattern.Basic

/-!
# The search for a pattern

The ends that a search computes are those that the meaning of the pattern asks for.

A search works on sets of cursors, kept as lists of places of one text in ascending order
(`Places`). A step on such sets *computes* a relation between cursors if it takes a set to the set
of all cursors related to one in it (`Computes`). The combinations of steps that a search is made
of compute the combinations of what their parts compute, and so each pattern's search computes its
meaning (`computes_ends`).

A repetition that asks for more than it allows would be searched for as if it allowed that much, so
patterns with one are left out (`IsFitting`).
-/

namespace AdFilter

/-! ## Places of a text -/

namespace Cursor

/-- The place between two parts of a text. -/
def between (front back : List Char) : Cursor := ⟨front.length, front.getLast?, back⟩

/-- The cursor is a place of the text. -/
def IsPlace (text : List Char) (c : Cursor) : Prop :=
  ∃ front back, front ++ back = text ∧ c = between front back

variable {text : List Char} {c d : Cursor} {cs ds : List Cursor}

theorem isPlace_start (text : List Char) : (start text).IsPlace text := ⟨[], text, rfl, rfl⟩

theorem IsPlace.index_add (h : c.IsPlace text) : c.index + c.rest.length = text.length := by
  obtain ⟨front, back, rfl, rfl⟩ := h
  exact (List.length_append ..).symm

/-- How far in it is tells a place from the others. -/
theorem IsPlace.eq_of_index (hc : c.IsPlace text) (hd : d.IsPlace text)
    (h : c.index = d.index) : c = d := by
  obtain ⟨front, back, rfl, rfl⟩ := hc
  obtain ⟨front', back', heq, rfl⟩ := hd
  obtain ⟨rfl, rfl⟩ := List.append_inj heq h.symm
  rfl

/-- Only the start has no character in front. -/
theorem IsPlace.eq_start (h : c.IsPlace text) (hb : c.before = none) : c = start text := by
  obtain ⟨front, back, rfl, rfl⟩ := h
  rw [List.getLast?_eq_none_iff.mp hb]
  rfl

theorem between_concat (front back : List Char) (x : Char) :
    between (front ++ [x]) back = ⟨front.length + 1, some x, back⟩ := by
  rw [between, List.length_append, List.getLast?_concat]
  rfl

/-- The place behind the next character. -/
theorem IsPlace.next {i : Nat} {b : Option Char} {x : Char} {r : List Char}
    (h : IsPlace text ⟨i, b, x :: r⟩) : IsPlace text ⟨i + 1, some x, r⟩ := by
  obtain ⟨front, back, rfl, heq⟩ := h
  cases heq
  exact ⟨front ++ [x], r, List.append_cons .. |>.symm, (between_concat ..).symm⟩

/-! ## Sets of places -/

/-- Places of a text in ascending order. -/
structure Places (text : List Char) (cs : List Cursor) : Prop where
  isPlace : ∀ c ∈ cs, c.IsPlace text
  ascending : cs.Pairwise fun c d => c.index < d.index

theorem places_nil : Places text [] := ⟨fun _ h => absurd h List.not_mem_nil, .nil⟩

theorem places_cons_iff :
    Places text (c :: cs) ↔ c.IsPlace text ∧ (∀ d ∈ cs, c.index < d.index) ∧ Places text cs := by
  constructor
  · intro h
    obtain ⟨hlt, hpair⟩ := List.pairwise_cons.mp h.ascending
    exact ⟨h.isPlace c (List.mem_cons_self ..), hlt,
      fun d hd => h.isPlace d (List.mem_cons_of_mem _ hd), hpair⟩
  · rintro ⟨hc, hlt, h⟩
    exact ⟨List.forall_mem_cons.mpr ⟨hc, h.isPlace⟩, List.pairwise_cons.mpr ⟨hlt, h.ascending⟩⟩

theorem places_singleton (h : c.IsPlace text) : Places text [c] :=
  places_cons_iff.mpr ⟨h, fun _ hd => absurd hd List.not_mem_nil, places_nil⟩

theorem Places.of_sublist (h : Places text cs) (hsub : ds.Sublist cs) : Places text ds :=
  ⟨fun d hd => h.isPlace d (hsub.subset hd), h.ascending.sublist hsub⟩

theorem places_walk (front back : List Char) :
    Places (front ++ back) (walk front.length front.getLast? back) ∧
      ∀ c, c ∈ walk front.length front.getLast? back ↔
        ∃ f b, f ++ b = back ∧ c = between (front ++ f) b := by
  induction back generalizing front with
  | nil =>
    refine ⟨places_singleton ⟨front, [], rfl, rfl⟩, fun c => ?_⟩
    rw [walk, List.mem_singleton]
    constructor
    · rintro rfl
      exact ⟨[], [], rfl, by rw [List.append_nil]; rfl⟩
    · rintro ⟨f, b, heq, rfl⟩
      obtain ⟨rfl, rfl⟩ := List.append_eq_nil_iff.mp heq
      rw [List.append_nil]
      rfl
  | cons x rest ih =>
    have hwalk : walk (front.length + 1) (some x) rest =
        walk (front ++ [x]).length (front ++ [x]).getLast? rest := by
      rw [List.length_append, List.getLast?_concat]
      rfl
    obtain ⟨hplaces, hmem⟩ := ih (front ++ [x])
    rw [walk, hwalk]
    rw [← List.append_cons] at hplaces
    constructor
    · refine places_cons_iff.mpr ⟨⟨front, x :: rest, rfl, rfl⟩, fun d hd => ?_, hplaces⟩
      obtain ⟨f, b, -, rfl⟩ := (hmem d).mp hd
      simp only [between, List.length_append, List.length_singleton]
      omega
    · intro c
      rw [List.mem_cons, hmem]
      constructor
      · rintro (rfl | ⟨f, b, rfl, rfl⟩)
        · exact ⟨[], x :: rest, rfl, by rw [List.append_nil]; rfl⟩
        · exact ⟨x :: f, b, rfl, by rw [← List.append_cons]⟩
      · rintro ⟨f, b, heq, rfl⟩
        rcases f with _ | ⟨y, f⟩
        · rw [List.nil_append] at heq
          rw [heq, List.append_nil]
          exact Or.inl rfl
        · obtain ⟨rfl, hrest⟩ := List.cons.inj heq
          exact Or.inr ⟨f, b, hrest, by rw [← List.append_cons]⟩

theorem places_all (text : List Char) : Places text (all text) := (places_walk [] text).1

theorem mem_all_iff : c ∈ all text ↔ c.IsPlace text := (places_walk [] text).2 c

end Cursor

open Cursor

namespace Pattern

variable {text : List Char} {p q : Pattern} {c d : Cursor} {cs ds : List Cursor}

/-! ## Meaning, form by form -/

theorem matches_empty_iff : Matches empty c d ↔ c = d := by
  constructor
  · intro h
    cases h
    rfl
  · rintro rfl
    exact .empty c

theorem matches_one_iff {s : CharSet} : Matches (one s) c d ↔
    ∃ i b x r, c = ⟨i, b, x :: r⟩ ∧ d = ⟨i + 1, some x, r⟩ ∧ s.contains x = true := by
  constructor
  · intro h
    cases h with
    | one i b r hx => exact ⟨i, b, _, r, rfl, rfl, hx⟩
  · rintro ⟨i, b, x, r, rfl, rfl, hx⟩
    exact .one i b r hx

theorem matches_look_iff {l : Look} :
    Matches (look l) c d ↔ c = d ∧ l.holds c.before c.rest.head? = true := by
  constructor
  · intro h
    cases h with
    | look hholds => exact ⟨rfl, hholds⟩
  · rintro ⟨rfl, hholds⟩
    exact .look hholds

theorem matches_seq_iff : Matches (seq p q) c d ↔ ∃ e, Matches p c e ∧ Matches q e d := by
  constructor
  · intro h
    cases h with
    | seq hp hq => exact ⟨_, hp, hq⟩
  · rintro ⟨e, hp, hq⟩
    exact .seq hp hq

theorem matches_alt_iff : Matches (alt p q) c d ↔ Matches p c d ∨ Matches q c d := by
  constructor
  · intro h
    cases h with
    | altLeft hp => exact Or.inl hp
    | altRight hq => exact Or.inr hq
  · rintro (hp | hq)
    · exact .altLeft hp
    · exact .altRight hq

/-! ## Meaning of repetitions -/

theorem Matches.index_le (h : Matches p c d) : c.index ≤ d.index := by
  induction h with
  | empty | look | timesStop => exact Nat.le_refl _
  | one => exact Nat.le_succ _
  | altLeft _ ih | altRight _ ih => exact ih
  | seq _ _ hp hq | timesFirst _ _ _ hp hq | timesMore _ _ _ hp hq => exact Nat.le_trans hp hq

theorem matches_times_succ {n : Nat} {most : Option Nat} :
    Matches (times p (n + 1) most) c d ↔
      most ≠ some 0 ∧ ∃ e, Matches p c e ∧ Matches (times p n (most.map (· - 1))) e d := by
  constructor
  · intro h
    cases h with
    | timesFirst hp hr hm => exact ⟨hm, _, hp, hr⟩
  · rintro ⟨hm, e, hp, hr⟩
    exact .timesFirst hp hr hm

theorem matches_times_zero {most : Option Nat} :
    Matches (times p 0 most) c d ↔
      c = d ∨ most ≠ some 0 ∧ ∃ e, Matches p c e ∧ Matches (times p 0 (most.map (· - 1))) e d := by
  constructor
  · intro h
    cases h with
    | timesStop => exact Or.inl rfl
    | timesMore hp hr hm => exact Or.inr ⟨hm, _, hp, hr⟩
  · rintro (rfl | ⟨hm, e, hp, hr⟩)
    · exact .timesStop c
    · exact .timesMore hp hr hm

theorem matches_times_none : Matches (times p 0 (some 0)) c d ↔ c = d := by
  rw [matches_times_zero]
  exact or_iff_left fun hmore => hmore.1 rfl

/-- A repetition is made of the stretches it must have and of those it may have. -/
theorem matches_times_iff {least : Nat} {most : Option Nat} (h : ∀ m ∈ most, least ≤ m) :
    Matches (times p least most) c d ↔ ∃ e, Matches (times p least (some least)) c e ∧
      Matches (times p 0 (most.map (· - least))) e d := by
  induction least generalizing c most with
  | zero =>
    have hmost : most.map (· - 0) = most := Option.map_id'
    simp only [hmost, matches_times_none, exists_eq_left']
  | succ n ih =>
    have hmost : most ≠ some 0 := by
      rintro rfl
      exact absurd (h 0 rfl) (by omega)
    have hless : ∀ m ∈ most.map (· - 1), n ≤ m := by
      intro m hm
      obtain ⟨m', hm', rfl⟩ := Option.map_eq_some_iff.mp hm
      have := h m' hm'
      omega
    have hrest : (most.map (· - 1)).map (· - n) = most.map (· - (n + 1)) := by
      rw [Option.map_map]
      refine Option.map_congr fun m _ => ?_
      dsimp only [Function.comp_apply]
      omega
    have hmust {e : Cursor} : Matches (times p (n + 1) (some (n + 1))) c e ↔
        ∃ b, Matches p c b ∧ Matches (times p n (some n)) b e := by
      rw [matches_times_succ]
      exact and_iff_right (by simp)
    rw [matches_times_succ]
    simp only [ih hless, hrest, hmust]
    constructor
    · rintro ⟨-, b, hp, e, hb, he⟩
      exact ⟨e, ⟨b, hp, hb⟩, he⟩
    · rintro ⟨e, ⟨b, hp, hb⟩, he⟩
      exact ⟨hmost, b, hp, e, hb, he⟩

/-- Any number of stretches in a row. -/
theorem matches_times_iff_reflTransGen :
    Matches (times p 0 none) c d ↔ Relation.ReflTransGen (Matches p) c d := by
  constructor
  · intro h
    generalize hq : times p 0 none = q at h
    induction h with
    | timesStop => exact .refl
    | timesMore hp _ _ _ ih =>
      obtain ⟨rfl, -, rfl⟩ := times.inj hq
      exact .head hp (ih rfl)
    | _ => cases hq
  · intro h
    induction h using Relation.ReflTransGen.head_induction_on with
    | refl => exact .timesStop d
    | head hp _ ih => exact .timesMore hp ih (by simp)

/-! ## Steps of a search -/

/-- The step takes a set of places of the text to all cursors related to one of them. -/
def Computes (text : List Char) (step : List Cursor → List Cursor)
    (R : Cursor → Cursor → Prop) : Prop :=
  ∀ cs, Places text cs → Places text (step cs) ∧ ∀ d, d ∈ step cs ↔ ∃ c ∈ cs, R c d

namespace Computes

variable {step step' : List Cursor → List Cursor} {R R' : Cursor → Cursor → Prop}

theorem congr (h : Computes text step R) (hR : ∀ c d, R c d ↔ R' c d) :
    Computes text step R' := by
  intro cs hcs
  obtain ⟨hplaces, hmem⟩ := h cs hcs
  exact ⟨hplaces, fun d => (hmem d).trans (exists_congr fun c => and_congr_right fun _ => hR c d)⟩

theorem isPlace (h : Computes text step R) (hc : c.IsPlace text) (hR : R c d) :
    d.IsPlace text := by
  obtain ⟨hplaces, hmem⟩ := h [c] (places_singleton hc)
  exact hplaces.isPlace d ((hmem d).mpr ⟨c, List.mem_singleton_self c, hR⟩)

theorem id : Computes text (fun cs => cs) Eq :=
  fun _ hcs => ⟨hcs, fun _ => by simp⟩

theorem comp (h : Computes text step R) (h' : Computes text step' R') :
    Computes text (fun cs => step' (step cs)) fun c d => ∃ e, R c e ∧ R' e d := by
  intro cs hcs
  obtain ⟨hplaces, hmem⟩ := h cs hcs
  obtain ⟨hplaces', hmem'⟩ := h' _ hplaces
  refine ⟨hplaces', fun d => (hmem' d).trans ?_⟩
  constructor
  · rintro ⟨e, he, hR'⟩
    obtain ⟨c, hc, hR⟩ := (hmem e).mp he
    exact ⟨c, hc, e, hR, hR'⟩
  · rintro ⟨c, hc, e, hR, hR'⟩
    exact ⟨e, (hmem e).mpr ⟨c, hc, hR⟩, hR'⟩

end Computes

/-! ### One character -/

theorem advance_cons (s : CharSet) (c : Cursor) (cs : List Cursor) :
    advance s (c :: cs) = advance s [c] ++ advance s cs := by
  obtain ⟨i, b, _ | ⟨x, r⟩⟩ := c
  · rfl
  · simp only [advance]
    split <;> rfl

theorem mem_advance_singleton {s : CharSet} :
    d ∈ advance s [c] ↔ Matches (one s) c d := by
  rw [matches_one_iff]
  obtain ⟨i, b, _ | ⟨x, r⟩⟩ := c
  · simp [advance]
  · rw [advance]
    split
    · rename_i hx
      rw [advance, List.mem_singleton]
      constructor
      · rintro rfl
        exact ⟨i, b, x, r, rfl, rfl, hx⟩
      · rintro ⟨i', b', x', r', hc, rfl, -⟩
        cases hc
        rfl
    · rename_i hx
      constructor
      · intro h
        cases h
      · rintro ⟨i', b', x', r', hc, -, hx'⟩
        cases hc
        exact absurd hx' hx

theorem mem_advance_iff {s : CharSet} :
    d ∈ advance s cs ↔ ∃ c ∈ cs, Matches (one s) c d := by
  induction cs with
  | nil => simp [advance]
  | cons c cs ih =>
    rw [advance_cons, List.mem_append, mem_advance_singleton, ih]
    simp only [List.mem_cons, exists_eq_or_imp]

theorem index_of_matches_one {s : CharSet} (h : Matches (one s) c d) : d.index = c.index + 1 := by
  obtain ⟨i, b, x, r, rfl, rfl, -⟩ := matches_one_iff.mp h
  rfl

theorem computes_advance (s : CharSet) : Computes text (advance s) (Matches (one s)) := by
  refine fun cs hcs => ⟨?_, fun d => mem_advance_iff⟩
  induction cs with
  | nil => exact places_nil
  | cons c cs ih =>
    obtain ⟨hc, hlt, hcs'⟩ := places_cons_iff.mp hcs
    obtain ⟨i, b, _ | ⟨x, r⟩⟩ := c
    · exact ih hcs'
    · rw [advance]
      split
      · refine places_cons_iff.mpr ⟨hc.next, fun d hd => ?_, ih hcs'⟩
        obtain ⟨e, he, hmatch⟩ := mem_advance_iff.mp hd
        rw [index_of_matches_one hmatch]
        exact Nat.succ_lt_succ (hlt e he)
      · exact ih hcs'

/-! ### Two sets as one -/

theorem merge_spec (hcs : Places text cs) (hds : Places text ds) :
    Places text (merge cs ds) ∧ ∀ e, e ∈ merge cs ds ↔ e ∈ cs ∨ e ∈ ds := by
  induction cs generalizing ds with
  | nil => exact ⟨hds, fun e => by simp [merge]⟩
  | cons c cs ih =>
    induction ds with
    | nil => exact ⟨hcs, fun e => by simp [merge, mergeOnto]⟩
    | cons d ds ihd =>
      obtain ⟨hc, hltc, hcs'⟩ := places_cons_iff.mp hcs
      obtain ⟨hd, hltd, hds'⟩ := places_cons_iff.mp hds
      have hmerge : merge (c :: cs) (d :: ds) =
          if c.index < d.index then c :: merge cs (d :: ds)
          else if d.index < c.index then d :: merge (c :: cs) ds
          else c :: merge cs ds := rfl
      rw [hmerge]
      split
      · rename_i hlt
        obtain ⟨hplaces, hmem⟩ := ih hcs' hds
        refine ⟨places_cons_iff.mpr ⟨hc, fun e he => ?_, hplaces⟩, fun e => ?_⟩
        · rcases (hmem e).mp he with he | he
          · exact hltc e he
          · rcases List.mem_cons.mp he with rfl | he
            · exact hlt
            · exact Nat.lt_trans hlt (hltd e he)
        · rw [List.mem_cons, hmem, ← or_assoc, ← List.mem_cons]
      · split
        · rename_i hlt
          obtain ⟨hplaces, hmem⟩ := ihd hds'
          refine ⟨places_cons_iff.mpr ⟨hd, fun e he => ?_, hplaces⟩, fun e => ?_⟩
          · rcases (hmem e).mp he with he | he
            · rcases List.mem_cons.mp he with rfl | he
              · exact hlt
              · exact Nat.lt_trans hlt (hltc e he)
            · exact hltd e he
          · rw [List.mem_cons, hmem, List.mem_cons, List.mem_cons, or_left_comm]
        · -- neither is first, so both are the same place
          have heq : c.index = d.index := by omega
          obtain rfl := hc.eq_of_index hd heq
          obtain ⟨hplaces, hmem⟩ := ih hcs' hds'
          refine ⟨places_cons_iff.mpr ⟨hc, fun e he => ?_, hplaces⟩, fun e => ?_⟩
          · rcases (hmem e).mp he with he | he
            · exact hltc e he
            · exact hltd e he
          · rw [List.mem_cons, hmem, List.mem_cons, List.mem_cons, or_or_or_comm, or_self]

theorem Computes.merge {step step' : List Cursor → List Cursor} {R R' : Cursor → Cursor → Prop}
    (h : Computes text step R) (h' : Computes text step' R') :
    Computes text (fun cs => merge (step cs) (step' cs)) fun c d => R c d ∨ R' c d := by
  intro cs hcs
  obtain ⟨hplaces, hmem⟩ := h cs hcs
  obtain ⟨hplaces', hmem'⟩ := h' cs hcs
  obtain ⟨hmerge, hmem''⟩ := merge_spec hplaces hplaces'
  refine ⟨hmerge, fun d => ?_⟩
  rw [hmem'', hmem, hmem', ← exists_or]
  exact exists_congr fun c => and_or_left.symm

/-! ### Repetition -/

theorem Computes.exactly {step : List Cursor → List Cursor} (h : Computes text step (Matches p))
    (n : Nat) : Computes text (exactly step n) (Matches (times p n (some n))) := by
  induction n with
  | zero => exact Computes.id.congr fun c d => matches_times_none.symm
  | succ n ih =>
    refine (h.comp ih).congr fun c d => ?_
    rw [matches_times_succ]
    exact (and_iff_right (by simp)).symm

theorem Computes.atMost {step : List Cursor → List Cursor} (h : Computes text step (Matches p))
    (n : Nat) : Computes text (atMost step n) (Matches (times p 0 (some n))) := by
  induction n with
  | zero => exact Computes.id.congr fun c d => matches_times_none.symm
  | succ n ih =>
    refine (Computes.id.merge (h.comp ih)).congr fun c d => ?_
    rw [matches_times_zero]
    exact or_congr_right (and_iff_right (by simp)).symm

section

variable {step : List Cursor → List Cursor} {R : Cursor → Cursor → Prop}

theorem dropWhile_eq_filter (h : Places text cs) (i : Nat) :
    cs.dropWhile (·.index ≤ i) = cs.filter (i < ·.index) := by
  induction cs with
  | nil => rfl
  | cons c cs ih =>
    obtain ⟨-, hlt, hcs⟩ := places_cons_iff.mp h
    rcases Nat.lt_or_ge i c.index with hi | hi
    · have hall : ∀ d ∈ c :: cs, decide (i < d.index) = true := by
        refine List.forall_mem_cons.mpr ⟨decide_eq_true hi, fun d hd => ?_⟩
        exact decide_eq_true (Nat.lt_trans hi (hlt d hd))
      rw [List.filter_eq_self.mpr hall, List.dropWhile_cons_of_neg (by simpa using hi)]
    · rw [List.dropWhile_cons_of_pos (by simpa using hi), ih hcs,
        List.filter_cons_of_neg (by simpa using hi)]

/-- What is reached from a place is the place itself or is reached from a later one, one step
away. -/
theorem Computes.reached_cases (h : Computes text step R) (hR : ∀ c d, R c d → c.index ≤ d.index)
    (hc : c.IsPlace text) (hreach : Relation.ReflTransGen R c d) :
    d = c ∨ ∃ e, R c e ∧ c.index < e.index ∧ Relation.ReflTransGen R e d := by
  induction hreach with
  | refl => exact Or.inl rfl
  | tail _ hlast ih =>
    rcases ih with rfl | ⟨e, hce, hlt, hed⟩
    · rcases Nat.eq_or_lt_of_le (hR _ _ hlast) with heq | hlt
      · exact Or.inl (hc.eq_of_index (h.isPlace hc hlast) heq).symm
      · exact Or.inr ⟨_, hlast, hlt, .refl⟩
    · exact Or.inr ⟨e, hce, hlt, hed.tail hlast⟩

theorem index_le_of_reached (hR : ∀ c d, R c d → c.index ≤ d.index)
    (hreach : Relation.ReflTransGen R c d) : c.index ≤ d.index := by
  induction hreach with
  | refl => exact Nat.le_refl _
  | tail _ hlast ih => exact Nat.le_trans ih (hR _ _ hlast)

theorem Computes.reach (h : Computes text step R) (hR : ∀ c d, R c d → c.index ≤ d.index)
    (fuel : Nat) (hcs : Places text cs) (hfuel : ∀ c ∈ cs, c.rest.length < fuel) :
    Places text (reach step fuel cs) ∧
      ∀ d, d ∈ reach step fuel cs ↔ ∃ c ∈ cs, Relation.ReflTransGen R c d := by
  induction fuel generalizing cs with
  | zero =>
    obtain rfl : cs = [] :=
      List.eq_nil_iff_forall_not_mem.mpr fun c hc => absurd (hfuel c hc) (Nat.not_lt_zero _)
    exact ⟨hcs, fun d => by simp [Pattern.reach]⟩
  | succ fuel ih =>
    rcases cs with _ | ⟨c, cs⟩
    · exact ⟨hcs, fun d => by simp [Pattern.reach]⟩
    · obtain ⟨hc, hlt, hcs'⟩ := places_cons_iff.mp hcs
      obtain ⟨hstep, hmemStep⟩ := h [c] (places_singleton hc)
      -- the places that come next all lie behind the first
      have hnew : ∀ d, d ∈ (step [c]).dropWhile (·.index ≤ c.index) ↔
          R c d ∧ c.index < d.index := by
        intro d
        rw [dropWhile_eq_filter hstep, List.mem_filter, hmemStep, decide_eq_true_eq]
        simp only [List.mem_singleton, exists_eq_left]
      obtain ⟨hmore, hmemMore⟩ :=
        merge_spec (hstep.of_sublist (List.dropWhile_sublist (·.index ≤ c.index))) hcs'
      simp only [hnew] at hmemMore
      have hbehind : ∀ e ∈ Pattern.merge ((step [c]).dropWhile (·.index ≤ c.index)) cs,
          c.index < e.index := by
        intro e he
        rcases (hmemMore e).mp he with he | he
        · exact he.2
        · exact hlt e he
      obtain ⟨hplaces, hmem⟩ := ih hmore fun e he => by
        have := hbehind e he
        have := (hmore.isPlace e he).index_add
        have := hc.index_add
        have := hfuel c (List.mem_cons_self ..)
        omega
      rw [Pattern.reach]
      constructor
      · refine places_cons_iff.mpr ⟨hc, fun d hd => ?_, hplaces⟩
        obtain ⟨e, he, hreach⟩ := (hmem d).mp hd
        exact Nat.lt_of_lt_of_le (hbehind e he) (index_le_of_reached hR hreach)
      · intro d
        simp only [List.mem_cons, hmem, exists_eq_or_imp]
        constructor
        · rintro (rfl | ⟨e, he, hreach⟩)
          · exact Or.inl .refl
          · rcases (hmemMore e).mp he with ⟨hce, -⟩ | he
            · exact Or.inl (hreach.head hce)
            · exact Or.inr ⟨e, he, hreach⟩
        · rintro (hreach | ⟨e, he, hreach⟩)
          · rcases h.reached_cases hR hc hreach with rfl | ⟨e, hce, hlt, hed⟩
            · exact Or.inl rfl
            · exact Or.inr ⟨e, (hmemMore e).mpr (Or.inl ⟨hce, hlt⟩), hed⟩
          · exact Or.inr ⟨e, (hmemMore e).mpr (Or.inr he), hreach⟩

theorem Computes.reachable (h : Computes text step R) (hR : ∀ c d, R c d → c.index ≤ d.index) :
    Computes text (reachable step) (Relation.ReflTransGen R) := by
  intro cs hcs
  rcases cs with _ | ⟨c, cs⟩
  · exact ⟨hcs, fun d => by simp [Pattern.reachable]⟩
  · obtain ⟨hc, hlt, hcs'⟩ := places_cons_iff.mp hcs
    refine h.reach hR _ hcs fun d hd => ?_
    -- the first place has most of the text behind it
    rcases List.mem_cons.mp hd with rfl | hd
    · exact Nat.lt_succ_self _
    · have := hlt d hd
      have := (hcs'.isPlace d hd).index_add
      have := hc.index_add
      omega

end

/-! ## The search for a pattern -/

/-- No repetition asks for more stretches than it allows. -/
def IsFitting : Pattern → Prop
  | empty | one _ | look _ => True
  | seq p q | alt p q => p.IsFitting ∧ q.IsFitting
  | times p least most => p.IsFitting ∧ ∀ m ∈ most, least ≤ m

/-- The search for a pattern computes what the pattern means. -/
theorem computes_ends (text : List Char) (hp : p.IsFitting) :
    Computes text p.ends (Matches p) := by
  induction p with
  | empty => exact Computes.id.congr fun c d => matches_empty_iff.symm
  | one s => exact computes_advance s
  | look l =>
    refine fun cs hcs => ⟨hcs.of_sublist List.filter_sublist, fun d => ?_⟩
    rw [ends, List.mem_filter]
    simp only [matches_look_iff]
    constructor
    · rintro ⟨hd, hholds⟩
      exact ⟨d, hd, rfl, hholds⟩
    · rintro ⟨_, hd, rfl, hholds⟩
      exact ⟨hd, hholds⟩
  | seq p q ihp ihq => exact ((ihp hp.1).comp (ihq hp.2)).congr fun c d => matches_seq_iff.symm
  | alt p q ihp ihq => exact ((ihp hp.1).merge (ihq hp.2)).congr fun c d => matches_alt_iff.symm
  | times p least most ih =>
    obtain ⟨hp, hleast⟩ := hp
    have hmust := (ih hp).exactly least
    rcases most with _ | most
    · refine (hmust.comp ((ih hp).reachable fun _ _ => Matches.index_le)).congr fun c d => ?_
      simp only [matches_times_iff hleast, Option.map_none, matches_times_iff_reflTransGen]
    · refine (hmust.comp ((ih hp).atMost (most - least))).congr fun c d => ?_
      rw [matches_times_iff hleast, Option.map_some]

/-- A pattern occurs in a text if it describes a stretch between two places of it. -/
theorem occursIn_iff (hp : p.IsFitting) :
    p.occursIn text = true ↔ ∃ c, c.IsPlace text ∧ ∃ d, Matches p c d := by
  obtain ⟨-, hmem⟩ := computes_ends text hp _ (places_all text)
  rw [occursIn, Bool.not_eq_true', List.isEmpty_eq_false_iff_exists_mem]
  simp only [hmem, mem_all_iff]
  constructor
  · rintro ⟨d, c, hc, h⟩
    exact ⟨c, hc, d, h⟩
  · rintro ⟨c, hc, d, h⟩
    exact ⟨d, c, hc, h⟩

end Pattern

end AdFilter
