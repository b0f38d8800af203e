import AdFilter.Proofs.Text.Ascii
import AdFilter.Proofs.Text.Fold
import AdFilter.Text.Number
import AdFilter.Text.Utf8

/-!
# Spellings of a text

Two texts that differ in the case of ASCII letters only have the same `lowerAscii`. So what looks at
single characters and takes a capital for its small letter (`IgnoresCase`) does not tell them apart,
and functions that cut a text by such looks cut both at the same places: `lowerAscii` can be taken
before or after. Nor does lower case tell them apart (`lower_lowerAscii`), and white space around a
text stays what it is (`lower_append_blanks`).

The bytes that write a text have their lower case too. Which bytes write a text at all does not hang
on it (`Utf8.decode?_map_lowerByte`).
-/

namespace AdFilter.Text

/-! ## Single characters -/

/-- Whether a function takes a capital letter of ASCII for its small letter. -/
def IgnoresCase {β : Type} (f : Char → β) : Prop := ∀ c : Char, f c.toLower = f c

/-- Only the characters of ASCII have to be tried. -/
theorem ignoresCase_of_ascii {β : Type} {f : Char → β}
    (h : ∀ n < 0x80, f (Char.ofNat n).toLower = f (Char.ofNat n)) : IgnoresCase f := by
  intro c
  rcases Nat.lt_or_ge c.toNat 0x80 with hc | hc
  · exact forall_ascii (P := fun c => f c.toLower = f c) h hc
  · rw [toLower_of_le hc]

theorem ignoresCase_toLower : IgnoresCase Char.toLower :=
  ignoresCase_of_ascii (by decide)

theorem ignoresCase_isAlpha : IgnoresCase Char.isAlpha := isAlpha_toLower

theorem toLower_beq {d : Char} (hd : d.isAlpha = false) (c : Char) :
    (c.toLower == d) = (c == d) := by
  rw [Bool.eq_iff_iff, beq_iff_eq, beq_iff_eq, toLower_eq_iff hd]

theorem ignoresCase_beq {d : Char} (hd : d.isAlpha = false) : IgnoresCase (· == d) :=
  toLower_beq hd

theorem ignoresCase_not {p : Char → Bool} (hp : IgnoresCase p) : IgnoresCase (!p ·) := by
  intro c
  exact congrArg not (hp c)

theorem ignoresCase_isBlank : IgnoresCase isBlank :=
  ignoresCase_of_ascii (by decide)

/-! ## Going through a text -/

theorem lowerAscii_cons (c : Char) (cs : List Char) :
    lowerAscii (c :: cs) = c.toLower :: lowerAscii cs := rfl

theorem lowerAscii_append (cs ds : List Char) :
    lowerAscii (cs ++ ds) = lowerAscii cs ++ lowerAscii ds := List.map_append

theorem length_lowerAscii (cs : List Char) : (lowerAscii cs).length = cs.length :=
  List.length_map _

theorem isEmpty_lowerAscii (cs : List Char) : (lowerAscii cs).isEmpty = cs.isEmpty := by
  cases cs <;> rfl

theorem lowerAscii_lowerAscii (cs : List Char) : lowerAscii (lowerAscii cs) = lowerAscii cs := by
  rw [lowerAscii, lowerAscii, List.map_map]
  exact List.map_congr_left fun c _ => ignoresCase_toLower c

theorem lowerAscii_eq_singleton_iff {d : Char} (hd : d.isAlpha = false) {cs : List Char} :
    lowerAscii cs = [d] ↔ cs = [d] := by
  rw [lowerAscii, List.map_eq_singleton_iff]
  simp only [toLower_eq_iff hd, exists_eq_right]

theorem take_lowerAscii (n : Nat) (cs : List Char) :
    (lowerAscii cs).take n = lowerAscii (cs.take n) := List.map_take.symm

theorem drop_lowerAscii (n : Nat) (cs : List Char) :
    (lowerAscii cs).drop n = lowerAscii (cs.drop n) := List.map_drop.symm

theorem reverse_lowerAscii (cs : List Char) :
    (lowerAscii cs).reverse = lowerAscii cs.reverse := List.map_reverse.symm

section

variable {p : Char → Bool} (hp : IgnoresCase p) (cs : List Char)

include hp

theorem IgnoresCase.comp : p ∘ Char.toLower = p := funext hp

theorem takeWhile_lowerAscii : (lowerAscii cs).takeWhile p = lowerAscii (cs.takeWhile p) := by
  rw [lowerAscii, List.takeWhile_map, hp.comp, lowerAscii]

theorem dropWhile_lowerAscii : (lowerAscii cs).dropWhile p = lowerAscii (cs.dropWhile p) := by
  rw [lowerAscii, List.dropWhile_map, hp.comp, lowerAscii]

theorem dropEndWhile_lowerAscii :
    dropEndWhile p (lowerAscii cs) = lowerAscii (dropEndWhile p cs) := by
  rw [dropEndWhile, reverse_lowerAscii, dropWhile_lowerAscii hp, reverse_lowerAscii, dropEndWhile]

theorem filter_lowerAscii : (lowerAscii cs).filter p = lowerAscii (cs.filter p) := by
  rw [lowerAscii, List.filter_map, hp.comp, lowerAscii]

theorem any_lowerAscii : (lowerAscii cs).any p = cs.any p := by
  rw [lowerAscii, List.any_map, hp.comp]

theorem any_head?_lowerAscii : (lowerAscii cs).head?.any p = cs.head?.any p := by
  rw [lowerAscii, List.head?_map, Option.any_map]
  exact congrArg (Option.any · cs.head?) hp.comp

theorem all_head?_lowerAscii : (lowerAscii cs).head?.all p = cs.head?.all p := by
  rw [lowerAscii, List.head?_map, Option.all_map]
  exact congrArg (Option.all · cs.head?) hp.comp

end

theorem trim_lowerAscii (cs : List Char) : trim (lowerAscii cs) = lowerAscii (trim cs) := by
  rw [trim, trimStart, dropWhile_lowerAscii ignoresCase_isBlank, trimEnd,
    dropEndWhile_lowerAscii ignoresCase_isBlank]
  rfl

section

variable {sep : Char} (hsep : sep.isAlpha = false) (cs : List Char)

include hsep

theorem contains_lowerAscii : (lowerAscii cs).contains sep = cs.contains sep := by
  rw [Bool.eq_iff_iff, List.contains_iff_mem, List.contains_iff_mem, lowerAscii, List.mem_map]
  simp only [toLower_eq_iff hsep, exists_eq_right]

theorem head?_lowerAscii_iff : (lowerAscii cs).head? = some sep ↔ cs.head? = some sep := by
  rw [lowerAscii, List.head?_map]
  simp only [Option.map_eq_some_iff, toLower_eq_iff hsep, exists_eq_right]

theorem getLast?_lowerAscii_iff :
    (lowerAscii cs).getLast? = some sep ↔ cs.getLast? = some sep := by
  rw [lowerAscii, List.getLast?_map]
  simp only [Option.map_eq_some_iff, toLower_eq_iff hsep, exists_eq_right]

theorem splitOn_lowerAscii : splitOn sep (lowerAscii cs) = (splitOn sep cs).map lowerAscii := by
  induction cs with
  | nil => rfl
  | cons c rest ih =>
    have hfirst : c.toLower = sep ↔ c = sep := toLower_eq_iff hsep
    rw [lowerAscii_cons, splitOn, splitOn, ih]
    by_cases hc : c = sep
    · rw [if_pos (hfirst.mpr hc), if_pos hc]
      rfl
    · rw [if_neg (mt hfirst.mp hc), if_neg hc]
      obtain ⟨part, parts, hparts⟩ := List.exists_cons_of_ne_nil (splitOn_ne_nil sep rest)
      rw [hparts]
      rfl

end

/-! ## Numbers -/

theorem ignoresCase_digit? (base : Nat) : IgnoresCase (digit? base) := by
  -- the base decides only at the end whether the digit counts
  have hvalue := ignoresCase_of_ascii (f := fun c : Char =>
    if c.isDigit then c.toNat - 0x30
    else if 'a' ≤ c ∧ c ≤ 'f' then c.toNat - 0x61 + 10
    else if 'A' ≤ c ∧ c ≤ 'F' then c.toNat - 0x41 + 10
    else 16) (by decide)
  intro c
  have := hvalue c
  dsimp only at this
  rw [digit?, this, digit?]

theorem number?_lowerAscii (base : Nat) (cs : List Char) :
    number? base (lowerAscii cs) = number? base cs := by
  have honto : ∀ value, numberOnto? base value (lowerAscii cs) = numberOnto? base value cs := by
    induction cs with
    | nil => exact fun _ => rfl
    | cons c rest ih =>
      intro value
      rw [lowerAscii_cons, numberOnto?, ignoresCase_digit?, numberOnto?]
      simp only [ih]
  exact honto 0

/-! ## Lower case -/

theorem ignoresCase_lowerChar : IgnoresCase lowerChar :=
  ignoresCase_of_ascii (by decide)

theorem ignoresCase_isCased : IgnoresCase isCased :=
  ignoresCase_of_ascii (by decide)

theorem ignoresCase_isCaseIgnorable : IgnoresCase isCaseIgnorable :=
  ignoresCase_of_ascii (by decide)

theorem casedAhead_lowerAscii (cs : List Char) : casedAhead (lowerAscii cs) = casedAhead cs := by
  rw [casedAhead, dropWhile_lowerAscii ignoresCase_isCaseIgnorable, casedAhead]
  rcases cs.dropWhile isCaseIgnorable with _ | ⟨c, rest⟩
  · rfl
  · exact ignoresCase_isCased c

theorem lowerAt_lowerAscii (before : List Char) (c : Char) (rest : List Char) :
    lowerAt (lowerAscii before) c.toLower (lowerAscii rest) = lowerAt before c rest := by
  have hsigma : (c.toLower == 'Σ') = (c == 'Σ') := ignoresCase_beq (by decide) c
  rw [lowerAt, hsigma, casedAhead_lowerAscii, casedAhead_lowerAscii, ignoresCase_lowerChar, lowerAt]

/-- Lower case does not tell capital letters from small ones. -/
theorem lower_lowerAscii (cs : List Char) : lower (lowerAscii cs) = lower cs := by
  have hafter : ∀ before,
      lowerAfter (lowerAscii before) (lowerAscii cs) = lowerAfter before cs := by
    induction cs with
    | nil => exact fun _ => rfl
    | cons c rest ih =>
      intro before
      rw [lowerAscii_cons, lowerAfter_cons, lowerAt_lowerAscii, ← lowerAscii_cons, ih,
        lowerAfter_cons]
  exact hafter []

/-- What starts in ASCII starts with its small letter in lower case. -/
theorem head?_lower_cons {c : Char} (hc : c.toNat < 0x80) (rest : List Char) :
    (lower (c :: rest)).head? = some c.toLower := by
  have hsigma : c ≠ 'Σ' := by
    rintro rfl
    exact absurd hc (by decide)
  rw [lower, lowerAfter_cons, lowerAt, if_neg (by simpa using hsigma), lowerChar, if_pos hc]
  rfl

/-- A text starts with a sign of ASCII that is no letter if it does so in lower case. -/
theorem head?_of_head?_lower {cs : List Char} {d : Char} (hascii : d.toNat < 0x80)
    (hd : d.isAlpha = false) (h : (lower cs).head? = some d) : cs.head? = some d := by
  rcases cs with _ | ⟨c, rest⟩
  · cases h
  · rw [List.head?_cons, Option.some.injEq]
    rcases Nat.lt_or_ge c.toNat 0x80 with hc | hc
    · rw [head?_lower_cons hc, Option.some.injEq] at h
      exact (toLower_eq_iff hd).mp h
    · obtain ⟨e, es, he⟩ := List.exists_cons_of_ne_nil (lowerAt_ne_nil [] c rest)
      rw [lower, lowerAfter_cons, he, List.cons_append, List.head?_cons, Option.some.injEq] at h
      rw [h] at he
      -- beyond ASCII, what lower case begins there is a letter
      exfalso
      rw [lowerAt] at he
      split at he
      · rw [← (List.cons.inj he).1] at hascii
        revert hascii
        split <;> decide
      · by_cases hi : c = 'İ'
        · rw [hi] at he
          rw [← (List.cons.inj he).1] at hd
          cases hd
        · rw [lowerChar_of_le hc hi] at he
          have hlower : lowerChar c = [d] := by
            rw [lowerChar_of_le hc hi, (List.cons.inj he).1]
          have hkelvin := eq_kelvin_of_isAscii_lowerChar hc (by
            rw [hlower]
            exact List.forall_mem_singleton.mpr hascii)
          rw [hkelvin, lowerChar_kelvin] at hlower
          rw [← (List.cons.inj hlower).1] at hd
          cases hd

/-! ## White space around a text -/

/-- What holds of white space, tried one by one. -/
theorem forall_blank {P : Char → Prop}
    (h : ∀ r ∈ CaseTable.blanksAndDot, ∀ n ∈ r.members,
      isBlank (Char.ofNat n) = true → P (Char.ofNat n))
    {c : Char} (hc : isBlank c = true) : P c := by
  obtain ⟨r, hr, hcontains⟩ := List.any_eq_true.mp (isBlankOrDot_of_isBlank hc)
  have := h r hr c.toNat (Run.mem_members_iff.mpr hcontains)
  rw [Char.ofNat_toNat] at this
  exact this hc

theorem isLower_of_isBlank {c : Char} (hc : isBlank c = true) : IsLower c :=
  (isBlankOrDot_of_isBlank hc).isLower

/-- White space ends the word before it, and the one behind it starts afresh. -/
theorem casedAhead_append_of_blank {blanks : List Char} (h : ∀ c ∈ blanks, isBlank c = true)
    (cs : List Char) : casedAhead (cs ++ blanks) = casedAhead cs := by
  have hblank : ∀ c, isBlank c = true → isCaseIgnorable c = false ∧ isCased c = false := by
    refine fun c => forall_blank (P := fun c => isCaseIgnorable c = false ∧ isCased c = false) ?_
    decide +kernel
  rw [casedAhead, List.dropWhile_append, casedAhead]
  rcases cs.dropWhile isCaseIgnorable with _ | ⟨c, rest⟩
  · rw [List.isEmpty_nil, if_pos rfl]
    rcases blanks with _ | ⟨b, bs⟩
    · rfl
    · obtain ⟨hignorable, hcased⟩ := hblank b (h b (List.mem_cons_self ..))
      rw [List.dropWhile_cons_of_neg (by simp [hignorable])]
      exact hcased
  · rfl

/-- A word occurs behind white space if it occurs in what follows. -/
theorem infix_blanks_append {w blanks : List Char} (hne : w ≠ []) (hw : ∀ c ∈ w, isBlank c = false)
    (h : ∀ c ∈ blanks, isBlank c = true) (cs : List Char) :
    w <:+: blanks ++ cs ↔ w <:+: cs := by
  induction blanks with
  | nil => exact Iff.rfl
  | cons b blanks ih =>
    rw [List.cons_append, List.infix_cons_iff, ih fun c hc => h c (List.mem_cons_of_mem _ hc)]
    refine or_iff_right fun hprefix => ?_
    obtain ⟨c, w, rfl⟩ := List.exists_cons_of_ne_nil hne
    rw [(List.cons_prefix_cons.mp hprefix).1] at hw
    have hblank := h b (List.mem_cons_self ..)
    rw [hw b (List.mem_cons_self ..)] at hblank
    cases hblank

theorem lowerAfter_blanks_append {blanks : List Char} (h : ∀ c ∈ blanks, isBlank c = true)
    (before cs : List Char) :
    lowerAfter before (blanks ++ cs) = blanks ++ lowerAfter (blanks.reverse ++ before) cs := by
  induction blanks generalizing before with
  | nil => rfl
  | cons b blanks ih =>
    obtain ⟨hb, hsigma⟩ := isLower_of_isBlank (h b (List.mem_cons_self ..))
    rw [List.cons_append, lowerAfter_cons, lowerAt, if_neg (by simpa using hsigma), hb,
      ih fun d hd => h d (List.mem_cons_of_mem _ hd), List.reverse_cons, List.append_assoc]
    rfl

section

variable {front back : List Char} (hfront : ∀ c ∈ front, isBlank c = true)
  (hback : ∀ c ∈ back, isBlank c = true)

include hfront hback

theorem lowerAfter_append_blanks (before cs : List Char) :
    lowerAfter (before ++ front) (cs ++ back) = lowerAfter before cs ++ back := by
  induction cs generalizing before with
  | nil => exact lowerAfter_eq_self fun c hc => isLower_of_isBlank (hback c hc)
  | cons c rest ih =>
    rw [List.cons_append, lowerAfter_cons, lowerAt, casedAhead_append_of_blank hfront,
      casedAhead_append_of_blank hback, ← lowerAt, ← List.cons_append, ih, lowerAfter_cons,
      List.append_assoc]

/-- White space around a text stays as it is, and leaves the lower case of the text as it is. -/
theorem lower_append_blanks (cs : List Char) :
    lower (front ++ cs ++ back) = front ++ lower cs ++ back := by
  have hreverse : ∀ c ∈ front.reverse, isBlank c = true :=
    fun c hc => hfront c (List.mem_reverse.mp hc)
  have hrest := lowerAfter_append_blanks hreverse hback [] cs
  rw [List.nil_append] at hrest
  rw [lower, List.append_assoc, lowerAfter_blanks_append hfront, List.append_nil, hrest, lower,
    List.append_assoc]

/-- White space around a text is trimmed. -/
theorem trim_append_blanks (cs : List Char) : trim (front ++ cs ++ back) = trim cs := by
  rw [trim, trimStart, List.append_assoc, List.dropWhile_append_of_pos hfront,
    List.dropWhile_append, trim, trimStart]
  split
  · rename_i hnil
    rw [List.isEmpty_iff.mp hnil, List.dropWhile_eq_nil_iff.mpr hback]
  · exact dropEndWhile_append_of_forall hback _

/-- A word occurs between white space if it occurs in what stands there. -/
theorem infix_append_blanks {w : List Char} (hne : w ≠ []) (hw : ∀ c ∈ w, isBlank c = false)
    (cs : List Char) : w <:+: front ++ cs ++ back ↔ w <:+: cs := by
  -- what stands behind is in front when read backwards
  have hwr : ∀ c ∈ w.reverse, isBlank c = false := fun c hc => hw c (List.mem_reverse.mp hc)
  have hbackr : ∀ c ∈ back.reverse, isBlank c = true := fun c hc => hback c (List.mem_reverse.mp hc)
  rw [List.append_assoc, infix_blanks_append hne hw hfront, ← List.reverse_infix,
    List.reverse_append, infix_blanks_append (List.reverse_ne_nil_iff.mpr hne) hwr hbackr,
    List.reverse_infix]

end

/-! ## Bytes -/

namespace Utf8

/-- Bytes write a text if they are the bytes of that text. -/
theorem decode?_eq_some_iff {bytes : List UInt8} {cs : List Char} :
    decode? bytes = some cs ↔ bytes = encode cs := by
  constructor
  · intro h
    obtain ⟨found, hfound, -⟩ := Option.map_eq_some_iff.mp h
    have hsome : bytes.toByteArray.utf8Decode?.isSome = true := by
      rw [hfound]
      rfl
    obtain ⟨ds, hds⟩ := ByteArray.isSome_utf8Decode?_iff.mp hsome
    have hbytes : bytes = encode ds := List.toByteArray_inj.mp hds
    rw [hbytes, decode?_encode] at h
    rw [hbytes, Option.some.inj h]
  · rintro rfl
    exact decode?_encode cs

/-- A byte, or the one of the small letter if it writes a capital letter. -/
def lowerByte (b : UInt8) : UInt8 :=
  if 0x41 ≤ b.toNat ∧ b.toNat ≤ 0x5A then UInt8.ofNat (b.toNat + 0x20) else b

theorem lowerByte_of_le {b : UInt8} (h : 0x80 ≤ (lowerByte b).toNat) : lowerByte b = b := by
  rw [lowerByte] at h ⊢
  split at h
  · rw [UInt8.toNat_ofNat'] at h
    omega
  · rename_i hcapital
    rw [if_neg hcapital]

theorem map_lowerByte_eq_self {bytes : List UInt8} (h : ∀ b ∈ bytes, lowerByte b = b) :
    bytes.map lowerByte = bytes :=
  (List.map_congr_left h).trans (List.map_id' bytes)

theorem encode_cons (c : Char) (cs : List Char) :
    encode (c :: cs) = String.utf8EncodeChar c ++ encode cs := List.flatMap_cons

theorem encodeChar_of_isAscii {c : Char} (hc : c.toNat < 0x80) :
    String.utf8EncodeChar c = [UInt8.ofNat c.toNat] :=
  if_pos (Nat.le_of_lt_succ hc)

/-- Beyond ASCII all bytes of a character are too. -/
theorem le_of_mem_encodeChar {c : Char} (hc : 0x80 ≤ c.toNat) {b : UInt8}
    (hb : b ∈ String.utf8EncodeChar c) : 0x80 ≤ b.toNat := by
  have hval : c.val.toNat = c.toNat := rfl
  rw [String.utf8EncodeChar, hval, if_neg (by omega)] at hb
  have hle : ∀ n : Nat, 0x80 ≤ n % 0x100 → 0x80 ≤ (UInt8.ofNat n).toNat := by
    intro n hn
    rwa [UInt8.toNat_ofNat']
  split at hb
  · simp only [List.mem_cons, List.not_mem_nil, or_false] at hb
    rcases hb with rfl | rfl
    all_goals exact hle _ (by omega)
  · split at hb
    · simp only [List.mem_cons, List.not_mem_nil, or_false] at hb
      rcases hb with rfl | rfl | rfl
      all_goals exact hle _ (by omega)
    · simp only [List.mem_cons, List.not_mem_nil, or_false] at hb
      rcases hb with rfl | rfl | rfl | rfl
      all_goals exact hle _ (by omega)

theorem encodeChar_toLower (c : Char) :
    String.utf8EncodeChar c.toLower = (String.utf8EncodeChar c).map lowerByte := by
  rcases Nat.lt_or_ge c.toNat 0x80 with hc | hc
  · refine forall_ascii (P := fun c =>
      String.utf8EncodeChar c.toLower = (String.utf8EncodeChar c).map lowerByte) ?_ hc
    decide
  · rw [toLower_of_le hc]
    refine (map_lowerByte_eq_self fun b hb => ?_).symm
    have hle := le_of_mem_encodeChar hc hb
    rw [lowerByte, if_neg (by omega)]

theorem encode_lowerAscii (cs : List Char) :
    encode (lowerAscii cs) = (encode cs).map lowerByte := by
  induction cs with
  | nil => rfl
  | cons c rest ih => rw [lowerAscii_cons, encode_cons, encodeChar_toLower, ih, encode_cons,
      List.map_append]

theorem map_lowerByte_encode_lowerAscii (cs : List Char) :
    (encode (lowerAscii cs)).map lowerByte = (encode cs).map lowerByte := by
  rw [← encode_lowerAscii, lowerAscii_lowerAscii, encode_lowerAscii]

/-- Bytes write a text if their lower case does. -/
theorem exists_eq_encode {bytes : List UInt8} {ds : List Char}
    (h : bytes.map lowerByte = encode ds) : ∃ cs, bytes = encode cs := by
  induction ds generalizing bytes with
  | nil => exact ⟨[], List.map_eq_nil_iff.mp h⟩
  | cons d rest ih =>
    rw [encode_cons, List.map_eq_append_iff] at h
    obtain ⟨first, others, rfl, hfirst, hothers⟩ := h
    obtain ⟨cs, rfl⟩ := ih hothers
    suffices hchar : ∃ c, first = String.utf8EncodeChar c by
      obtain ⟨c, rfl⟩ := hchar
      exact ⟨c :: cs, (encode_cons c cs).symm⟩
    rcases Nat.lt_or_ge d.toNat 0x80 with hd | hd
    · -- a byte of ASCII is a character by itself, and lower case leads to ASCII only from there
      rw [encodeChar_of_isAscii hd, List.map_eq_singleton_iff] at hfirst
      obtain ⟨b, rfl, hb⟩ := hfirst
      have hascii : b.toNat < 0x80 := by
        by_contra hle
        have hsame : lowerByte b = b := by rw [lowerByte, if_neg (by omega)]
        rw [← hsame, hb, UInt8.toNat_ofNat'] at hle
        omega
      have hnat : (Char.ofNat b.toNat).toNat = b.toNat := toNat_ofNat (Or.inl (by omega))
      refine ⟨Char.ofNat b.toNat, ?_⟩
      rw [encodeChar_of_isAscii (by omega), hnat, UInt8.ofNat_toNat]
    · refine ⟨d, ?_⟩
      rw [← hfirst]
      refine (map_lowerByte_eq_self fun b hb => lowerByte_of_le ?_).symm
      refine le_of_mem_encodeChar hd ?_
      rw [← hfirst]
      exact List.mem_map_of_mem hb

/-- Reading bytes and lower case can change places. -/
theorem decode?_map_lowerByte (bytes : List UInt8) :
    decode? (bytes.map lowerByte) = (decode? bytes).map lowerAscii := by
  rcases hdecode : decode? bytes with _ | cs
  · rw [Option.map_none, Option.eq_none_iff_forall_ne_some]
    intro ds hds
    obtain ⟨cs, rfl⟩ := exists_eq_encode (decode?_eq_some_iff.mp hds)
    rw [decode?_encode] at hdecode
    cases hdecode
  · rw [decode?_eq_some_iff.mp hdecode, ← encode_lowerAscii]
    exact decode?_encode (lowerAscii cs)

end Utf8

end AdFilter.Text
