import AdFilter.Pattern.Reader
import AdFilter.Proofs.Pattern.Search

/-!
# Patterns that are read

The reader accepts a repetition only if its bounds fit, and what it makes of one that describes
nothing but empty stretches has bounds that fit as well. So the search for a pattern that was read
computes what the pattern means (`occursIn_iff_of_ofSource?`), whatever its source.
-/

namespace AdFilter.Pattern

/-! ## Parts of a pattern -/

theorem isFitting_seqs {ps : List Pattern} (h : ∀ p ∈ ps, p.IsFitting) : (seqs ps).IsFitting := by
  induction ps with
  | nil => trivial
  | cons p ps ih =>
    obtain ⟨hp, hps⟩ := List.forall_mem_cons.mp h
    exact ⟨hp, ih hps⟩

theorem isFitting_alts {ps : List Pattern} (h : ∀ p ∈ ps, p.IsFitting) : (alts ps).IsFitting := by
  induction ps with
  | nil => trivial
  | cons p ps ih =>
    obtain ⟨hp, hps⟩ := List.forall_mem_cons.mp h
    rcases ps with _ | ⟨q, ps⟩
    · exact hp
    · exact ⟨hp, ih hps⟩

theorem IsFitting.repeated {p : Pattern} {least : Nat} {most : Option Nat} (hp : p.IsFitting)
    (h : ∀ m ∈ most, least ≤ m) : (p.repeated least most).IsFitting := by
  rw [Pattern.repeated]
  split
  · refine ⟨hp, fun m hm => ?_⟩
    cases hm
    rcases most with _ | most
    · rw [Option.getD_none]
      omega
    · have := h most rfl
      rw [Option.getD_some]
      omega
  · exact ⟨hp, h⟩

theorem isFitting_charPattern (fl : Flags) (c : Char) : (charPattern fl c).IsFitting := by
  rw [charPattern]
  split
  · trivial
  · split <;> trivial

theorem isFitting_of_pattern? {part : Primitive} {fl : Flags} {p : Pattern}
    (h : part.pattern? fl = some p) : p.IsFitting := by
  have hone {s : Option CharSet} (h : s.map .one = some p) : p.IsFitting := by
    obtain ⟨s, -, rfl⟩ := Option.map_eq_some_iff.mp h
    trivial
  cases part with
  | char c asByte =>
    rw [Primitive.pattern?, Option.ite_none_left_eq_some] at h
    rw [← Option.some.inj h.2]
    exact isFitting_charPattern fl c
  | dot =>
    rw [Primitive.pattern?, Option.ite_none_left_eq_some] at h
    obtain ⟨-, h⟩ := h
    split at h
    · cases h
      trivial
    · split at h <;> cases h <;> trivial
  | lineStart | lineEnd | textStart | textEnd | word =>
    cases h
    trivial
  | letterClass => exact hone h
  | property =>
    rw [Primitive.pattern?, Option.ite_none_right_eq_some] at h
    exact hone h.2

/-! ## Progress of the reader -/

theorem isFitting_sequence {pieces : List Piece} (h : ∀ p ∈ pieces, p.pattern.IsFitting) :
    (Piece.sequence pieces).pattern.IsFitting := by
  rcases pieces with _ | ⟨p, _ | ⟨q, pieces⟩⟩
  · trivial
  · exact h p (List.mem_singleton_self p)
  · exact isFitting_seqs (List.forall_mem_map.mpr h)

theorem isFitting_choice {pieces : List Piece} (h : ∀ p ∈ pieces, p.pattern.IsFitting) :
    (Piece.choice pieces).pattern.IsFitting := by
  rcases pieces with _ | ⟨p, _ | ⟨q, pieces⟩⟩
  · trivial
  · exact h p (List.mem_singleton_self p)
  · exact isFitting_alts (List.forall_mem_map.mpr h)

/-- All that has been read has repetitions with bounds that fit. -/
structure Progress.IsFitting (g : Progress) : Prop where
  finished : ∀ p ∈ g.finished, p.pattern.IsFitting
  pieces : ∀ p ∈ g.pieces, p.pattern.IsFitting

namespace Progress

variable {g : Progress}

theorem isFitting_empty : ({} : Progress).IsFitting := ⟨nofun, nofun⟩

theorem IsFitting.add (hg : g.IsFitting) {p : Piece} (hp : p.pattern.IsFitting) :
    (g.add p).IsFitting :=
  ⟨hg.finished, List.forall_mem_cons.mpr ⟨hp, hg.pieces⟩⟩

theorem IsFitting.current (hg : g.IsFitting) : g.current.pattern.IsFitting :=
  isFitting_sequence fun p hp => hg.pieces p (List.mem_reverse.mp hp)

theorem IsFitting.alternate (hg : g.IsFitting) : g.alternate.IsFitting :=
  ⟨List.forall_mem_cons.mpr ⟨hg.current, hg.finished⟩, nofun⟩

theorem IsFitting.whole (hg : g.IsFitting) : g.whole.pattern.IsFitting := by
  refine isFitting_choice fun p hp => ?_
  rcases List.mem_cons.mp (List.mem_reverse.mp hp) with rfl | hp
  · exact hg.current
  · exact hg.finished p hp

theorem IsFitting.repeatLast? (hg : g.IsFitting) {g' : Progress} {least : Nat}
    {most : Option Nat} (hmost : ∀ m ∈ most, least ≤ m) (h : g.repeatLast? least most = some g') :
    g'.IsFitting := by
  obtain ⟨finished, _ | ⟨p, ps⟩⟩ := g
  · cases h
  · rw [Progress.repeatLast?, Option.ite_none_right_eq_some] at h
    obtain ⟨hp, hps⟩ := List.forall_mem_cons.mp hg.pieces
    rw [← Option.some.inj h.2]
    exact ⟨hg.finished, List.forall_mem_cons.mpr ⟨hp.repeated hmost, hps⟩⟩

end Progress

/-- The bounds of a repetition that are read fit. -/
theorem le_of_readBounds? {fl : Flags} {cs rest : List Char} {least : Nat} {most : Option Nat}
    (h : readBounds? fl cs = some ((least, most), rest)) : ∀ m ∈ most, least ≤ m := by
  obtain ⟨⟨n, back⟩, -, h⟩ := Option.bind_eq_some_iff.mp h
  dsimp only at h
  split at h
  · cases h
    exact fun m hm => Nat.le_of_eq (Option.some.inj hm)
  · split at h
    · cases h
      exact nofun
    · obtain ⟨⟨m, back'⟩, -, h⟩ := Option.bind_eq_some_iff.mp h
      dsimp only at h
      split at h
      · rw [Option.ite_none_right_eq_some] at h
        obtain ⟨hle, h⟩ := h
        cases h
        intro k hk
        cases hk
        exact hle
      · cases h
  · cases h

/-! ## The whole -/

/-- Whatever is read on, what is read has repetitions with bounds that fit. -/
theorem isFitting_of_readFrom {fuel : Nat} {fl : Flags} {g : Progress} {outer : List OpenGroup}
    {names : List (List Char)} {cs : List Char} {p : Piece} (hg : g.IsFitting)
    (houter : ∀ o ∈ outer, o.outside.IsFitting)
    (h : readFrom fuel fl g outer names cs = some p) : p.pattern.IsFitting := by
  induction fuel generalizing fl g outer names cs with
  | zero => cases h
  | succ fuel ih =>
    have hrepeat {fl : Flags} {least : Nat} {most : Option Nat} {rest : List Char}
        (hmost : ∀ m ∈ most, least ≤ m)
        (h : (g.repeatLast? least most).bind
          (fun g => readFrom fuel fl g outer names rest) = some p) : p.pattern.IsFitting := by
      obtain ⟨g', hg', h⟩ := Option.bind_eq_some_iff.mp h
      exact ih (hg.repeatLast? hmost hg') houter h
    rw [readFrom] at h
    split at h
    case h_1 =>
      rw [Option.ite_none_right_eq_some] at h
      rw [← Option.some.inj h.2]
      exact hg.whole
    case h_2 =>
      -- a group begins inside what has been read
      obtain ⟨⟨opening, rest⟩, -, h⟩ := Option.bind_eq_some_iff.mp h
      have hinner : ∀ o ∈ OpenGroup.mk g fl :: outer, o.outside.IsFitting :=
        List.forall_mem_cons.mpr ⟨hg, houter⟩
      cases opening with
      | flags =>
        have hempty : Pattern.empty.IsFitting := trivial
        exact ih (hg.add hempty) houter h
      | group => exact ih Progress.isFitting_empty hinner h
      | named =>
        rw [Option.ite_none_left_eq_some] at h
        exact ih Progress.isFitting_empty hinner h.2
    case h_3 =>
      rcases outer with _ | ⟨o, outer⟩
      · cases h
      · obtain ⟨ho, houter⟩ := List.forall_mem_cons.mp houter
        have hgroup : (Piece.mk g.whole.pattern (1 + g.whole.depth) true).pattern.IsFitting :=
          hg.whole
        exact ih (ho.add hgroup) houter h
    case h_4 => exact ih hg.alternate houter h
    case h_5 =>
      obtain ⟨⟨piece, rest⟩, -, h⟩ := Option.bind_eq_some_iff.mp h
      have hset : (Pattern.one piece.set).IsFitting := trivial
      exact ih (hg.add hset) houter h
    case h_6 => exact hrepeat (fun m _ => Nat.zero_le m) h
    case h_7 | h_8 => exact hrepeat (fun m hm => absurd hm (Option.not_mem_none m)) h
    case h_9 =>
      obtain ⟨⟨⟨least, most⟩, rest⟩, hbounds, h⟩ := Option.bind_eq_some_iff.mp h
      exact hrepeat (le_of_readBounds? hbounds) h
    case h_10 =>
      obtain ⟨⟨part, rest⟩, -, h⟩ := Option.bind_eq_some_iff.mp h
      obtain ⟨q, hq, h⟩ := Option.bind_eq_some_iff.mp h
      exact ih (hg.add (isFitting_of_pattern? hq)) houter h

theorem isFitting_of_ofSource? {source : List Char} {p : Pattern} (h : ofSource? source = some p) :
    p.IsFitting := by
  obtain ⟨piece, hread, h⟩ := Option.bind_eq_some_iff.mp h
  rw [Option.ite_none_right_eq_some] at h
  rw [← Option.some.inj h.2]
  exact isFitting_of_readFrom Progress.isFitting_empty
    (fun _ ho => absurd ho List.not_mem_nil) hread

/-- A pattern that was read occurs in a text if it describes a stretch between two places of it. -/
theorem occursIn_iff_of_ofSource? {source text : List Char} {p : Pattern}
    (h : ofSource? source = some p) :
    p.occursIn text = true ↔ ∃ c : Cursor, c.IsPlace text ∧ ∃ d, Matches p c d :=
  occursIn_iff (isFitting_of_ofSource? h)

end AdFilter.Pattern
