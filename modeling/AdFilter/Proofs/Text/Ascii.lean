import AdFilter.Proofs.Text.Lower

/-!
# Texts in ASCII

Hosts are in ASCII, and the domains that the user types need not be. A text is in ASCII once it is
in lower case if all its characters are in ASCII, the kelvin sign aside, whose lower case is a plain
letter (`isAscii_lower_iff`). Such texts are put in lower case character by character.
-/

namespace AdFilter.Text

/-- Whether all characters of a text are in ASCII. -/
def IsAscii (cs : List Char) : Prop := ∀ c ∈ cs, c.toNat < 0x80

instance : DecidablePred IsAscii := fun cs => inferInstanceAs (Decidable (∀ c ∈ cs, _))

theorem isAscii_append {cs ds : List Char} :
    IsAscii (cs ++ ds) ↔ IsAscii cs ∧ IsAscii ds := by
  simp only [IsAscii, List.mem_append, or_imp, forall_and]

/-- Whether all characters of a text are in ASCII, and neither controls nor the space. -/
def IsVisible (cs : List Char) : Prop := ∀ c ∈ cs, 0x20 < c.toNat ∧ c.toNat < 0x7F

instance : DecidablePred IsVisible := fun cs => inferInstanceAs (Decidable (∀ c ∈ cs, _))

theorem IsVisible.isAscii {cs : List Char} (h : IsVisible cs) : IsAscii cs :=
  fun c hc => Nat.lt_succ_of_lt (h c hc).2

theorem IsVisible.isBlank {cs : List Char} (h : IsVisible cs) : ∀ c ∈ cs, isBlank c = false := by
  intro c hc
  have := h c hc
  simp only [Text.isBlank, Bool.or_eq_false_iff, Bool.and_eq_false_iff, decide_eq_false_iff_not,
    beq_eq_false_iff_ne]
  omega

theorem IsVisible.lowerAscii {cs : List Char} (h : IsVisible cs) : IsVisible (lowerAscii cs) := by
  intro c hc
  obtain ⟨e, he, rfl⟩ := List.mem_map.mp hc
  refine forall_ascii (P := fun e : Char => 0x20 < e.toNat ∧ e.toNat < 0x7F →
    0x20 < e.toLower.toNat ∧ e.toLower.toNat < 0x7F) ?_ (h.isAscii e he) (h e he)
  decide

/-! ## Characters whose lower case is in ASCII -/

/-- The sign for the unit of temperature, which looks like a capital letter. -/
def kelvin : Char := '\u212a'

/-- Only two shifts of the table come to ASCII: that of its capitals and that of the kelvin sign. -/
theorem CaseTable.target_of_mem :
    lowercase.all (fun s => Nat.ble 0x80 s.target || Nat.blt s.run.last 0x80 ||
      (Nat.beq s.run.first kelvin.toNat && Nat.beq s.run.last kelvin.toNat)) = true := by
  decide

theorem eq_of_toNat_eq {c d : Char} (h : c.toNat = d.toNat) : c = d := by
  rw [← Char.ofNat_toNat c, h, Char.ofNat_toNat]

theorem lowerChar_kelvin : lowerChar kelvin = ['k'] := by
  decide

theorem eq_kelvin_of_isAscii_lowerChar {c : Char} (hc : 0x80 ≤ c.toNat)
    (h : IsAscii (lowerChar c)) : c = kelvin := by
  by_cases hi : c = 'İ'
  · rw [hi] at h
    exact absurd h (by decide)
  · rw [lowerChar_of_le hc hi] at h
    have hascii := h _ (List.mem_singleton_self _)
    rcases hm : shift? CaseTable.lowercase c.toNat with _ | m
    · rw [hm, Option.getD_none, Char.ofNat_toNat] at hascii
      omega
    · rw [hm, Option.getD_some, toNat_ofNat (image_spec hm).1] at hascii
      obtain ⟨s, hs, himage⟩ := List.exists_of_findSome?_eq_some hm
      have hto := Run.contains_iff.mp (Shift.contains_imageRun himage)
      rw [Shift.image?, Option.ite_none_right_eq_some, Run.contains_iff] at himage
      -- the images of a shift begin at its target
      have htarget := List.all_eq_true.mp CaseTable.target_of_mem s hs
      simp only [Bool.or_eq_true, Bool.and_eq_true, Nat.ble_eq, Nat.blt_eq, Nat.beq_eq] at htarget
      have hfirst : s.imageRun.first = s.target := rfl
      rcases htarget with (h | h) | ⟨h, h'⟩
      · omega
      · omega
      · exact eq_of_toNat_eq (by omega)

/-- A character of which lower case makes ASCII wherever it stands. -/
def LowersToAscii (c : Char) : Prop := c.toNat < 0x80 ∨ c = kelvin

instance : DecidablePred LowersToAscii := fun _ => inferInstanceAs (Decidable (_ ∨ _))

theorem lowersToAscii_of_isAscii {before rest : List Char} {c : Char}
    (h : IsAscii (lowerAt before c rest)) : LowersToAscii c := by
  rw [lowerAt] at h
  split at h
  · have hascii := h _ (List.mem_singleton_self _)
    exfalso
    revert hascii
    split <;> decide
  · rcases Nat.lt_or_ge c.toNat 0x80 with hc | hc
    · exact Or.inl hc
    · exact Or.inr (eq_kelvin_of_isAscii_lowerChar hc h)

theorem LowersToAscii.ne_sigma {c : Char} (h : LowersToAscii c) : c ≠ 'Σ' := by
  rintro rfl
  revert h
  decide

theorem LowersToAscii.isAscii_lowerChar {c : Char} (h : LowersToAscii c) :
    IsAscii (lowerChar c) := by
  rcases h with hc | rfl
  · refine forall_ascii (P := fun c => IsAscii (lowerChar c)) ?_ hc
    decide
  · rw [lowerChar_kelvin]
    decide

/-! ## Texts that lower case takes to ASCII -/

section

variable {before cs ds : List Char}

theorem lowerAfter_eq_flatMap (h : ∀ c ∈ cs, c ≠ 'Σ') :
    lowerAfter before cs = cs.flatMap lowerChar := by
  induction cs generalizing before with
  | nil => rfl
  | cons c rest ih =>
    have hc := h c (List.mem_cons_self ..)
    rw [lowerAfter_cons, lowerAt, if_neg (by simpa using hc),
      ih fun d hd => h d (List.mem_cons_of_mem _ hd), List.flatMap_cons]

theorem lowersToAscii_of_isAscii_lowerAfter (h : IsAscii (lowerAfter before cs)) :
    ∀ c ∈ cs, LowersToAscii c := by
  induction cs generalizing before with
  | nil => exact fun c hc => absurd hc List.not_mem_nil
  | cons c rest ih =>
    rw [lowerAfter_cons, isAscii_append] at h
    intro d hd
    rcases List.mem_cons.mp hd with rfl | hd
    · exact lowersToAscii_of_isAscii h.1
    · exact ih h.2 d hd

theorem lower_eq_flatMap (h : ∀ c ∈ cs, LowersToAscii c) : lower cs = cs.flatMap lowerChar :=
  lowerAfter_eq_flatMap fun c hc => (h c hc).ne_sigma

theorem lower_eq_lowerAscii (h : IsAscii cs) : lower cs = lowerAscii cs := by
  rw [lower_eq_flatMap fun c hc => Or.inl (h c hc), lowerAscii, List.map_eq_flatMap]
  exact List.flatMap_congr fun c hc => if_pos (h c hc)

/-- The lower case of a text is in ASCII if its characters are, kelvin signs aside. -/
theorem isAscii_lower_iff : IsAscii (lower cs) ↔ ∀ c ∈ cs, LowersToAscii c := by
  constructor
  · exact lowersToAscii_of_isAscii_lowerAfter
  · intro h d hd
    rw [lower_eq_flatMap h] at hd
    obtain ⟨c, hc, hd⟩ := List.mem_flatMap.mp hd
    exact (h c hc).isAscii_lowerChar d hd

theorem lower_append_of_isAscii (h : IsAscii (lower (cs ++ ds))) :
    lower (cs ++ ds) = lower cs ++ lower ds := by
  have hall := isAscii_lower_iff.mp h
  rw [lower_eq_flatMap hall, List.flatMap_append,
    lower_eq_flatMap fun c hc => hall c (List.mem_append_left _ hc),
    lower_eq_flatMap fun c hc => hall c (List.mem_append_right _ hc)]

/-- Dots at the end can be taken off before or after. -/
theorem dropEndWhile_lower (h : IsAscii (lower cs)) :
    dropEndWhile (· == '.') (lower cs) = lower (dropEndWhile (· == '.') cs) := by
  obtain ⟨dots, hsplit, hdots⟩ := exists_dropEndWhile_append (· == '.') cs
  have hlower : lower dots = dots := by
    refine lower_eq_self fun c hc => ?_
    rw [beq_iff_eq.mp (hdots c hc)]
    exact isBlankOrDot_dot.isLower
  have hkept : dropEndWhile (· == '.') (lower (dropEndWhile (· == '.') cs)) =
      lower (dropEndWhile (· == '.') cs) := by
    refine dropEndWhile_eq_self_iff.mpr fun c hc => ?_
    rw [beq_eq_false_iff_ne]
    rintro rfl
    have hlast := dropEndWhile_eq_self_iff.mp (dropEndWhile_dropEndWhile (· == '.') cs) _
      ((getLast?_lower_iff isBlankOrDot_dot).mp hc)
    exact absurd hlast (by decide)
  -- the dots at the end stay where they are, behind the lower case of the rest
  have happend : lower cs = lower (dropEndWhile (· == '.') cs) ++ dots := by
    rw [← hsplit] at h
    have := lower_append_of_isAscii h
    rwa [hsplit, hlower] at this
  rw [happend, dropEndWhile_append_of_forall hdots, hkept]

/-- Where lower case leaves a character alone, so does the lower case of ASCII. -/
theorem lowerAscii_lower (cs : List Char) : lowerAscii (lower cs) = lower cs := by
  have hsame : ∀ c ∈ lower cs, c.toLower = c := by
    intro c hc
    obtain ⟨hlower, -⟩ := isLower_of_mem_lower hc
    rcases Nat.lt_or_ge c.toNat 0x80 with hascii | hle
    · rw [lowerChar, if_pos hascii] at hlower
      exact List.singleton_inj.mp hlower
    · exact toLower_of_le hle
  rw [lowerAscii, List.map_congr_left hsame, List.map_id']

end

end AdFilter.Text
