import AdFilter.Proofs.Text.Ascii
import AdFilter.Url.Host

/-!
# Names of hosts

What comes out when a domain name is brought into ASCII. All its characters are visible ones
whatever went in (`isVisible_of_ascii?`); and a name whose lower case is in ASCII comes out in lower
case and otherwise as it was (`ascii?_eq_lower`).
-/

namespace AdFilter.Url

open Text

/-! ## All or nothing -/

section

variable {α β : Type} {f : α → Option β}

theorem exists_of_mem_mapM {xs : List α} {ys : List β} (h : xs.mapM f = some ys) {y : β}
    (hy : y ∈ ys) : ∃ x ∈ xs, f x = some y := by
  induction xs generalizing ys with
  | nil =>
    rw [List.mapM_nil] at h
    cases h
    cases hy
  | cons x xs ih =>
    rw [List.mapM_cons] at h
    obtain ⟨z, hz, h⟩ := Option.bind_eq_some_iff.mp h
    obtain ⟨zs, hzs, h⟩ := Option.bind_eq_some_iff.mp h
    cases h
    rcases List.mem_cons.mp hy with rfl | hy
    · exact ⟨x, List.mem_cons_self .., hz⟩
    · obtain ⟨w, hw, hfw⟩ := ih hzs hy
      exact ⟨w, List.mem_cons_of_mem _ hw, hfw⟩

theorem mapM_eq_none {xs : List α} {x : α} (hx : x ∈ xs) (h : f x = none) :
    xs.mapM f = none := by
  induction xs with
  | nil => cases hx
  | cons z xs ih =>
    rw [List.mapM_cons]
    rcases List.mem_cons.mp hx with rfl | hx
    · rw [h]
      rfl
    · rw [ih hx]
      rcases f z with _ | y <;> rfl

theorem mapM_eq_some {xs : List α} {g : α → β} (h : ∀ x ∈ xs, f x = some (g x)) :
    xs.mapM f = some (xs.map g) := by
  induction xs with
  | nil => rfl
  | cons x xs ih =>
    rw [List.mapM_cons, h x (List.mem_cons_self ..),
      ih fun y hy => h y (List.mem_cons_of_mem _ hy)]
    rfl

end

/-! ## What is written in Punycode -/

namespace Punycode

/-- Whether a character is a digit to the base 36. -/
def IsDigit (c : Char) : Prop := ∃ d < 36, c = digitChar d

instance : DecidablePred IsDigit := fun _ => inferInstanceAs (Decidable (∃ d < 36, _))

theorem isDigit_of_mem_writeNumber {bias k q : Nat} {c : Char} (hc : c ∈ writeNumber bias k q) :
    IsDigit c := by
  induction k, q using writeNumber.induct bias with
  | case1 k q t h =>
    rw [writeNumber, if_pos h] at hc
    have := threshold_le k bias
    exact ⟨q, by omega, List.mem_singleton.mp hc⟩
  | case2 k q t h ih =>
    rw [writeNumber, if_neg h] at hc
    rcases List.mem_cons.mp hc with hc | hc
    · -- a digit that is not the last lies between its threshold and the base
      have := threshold_le k bias
      have := Nat.mod_lt (q - threshold k bias) (y := 36 - threshold k bias) (by omega)
      exact ⟨_, by omega, hc⟩
    · exact ih hc

theorem isDigit_of_mem_pass {basic n : Nat} {w : Writing} (c : Char)
    (h : ∀ d ∈ w.out, IsDigit d) : ∀ d ∈ (w.pass basic n c).out, IsDigit d := by
  rw [Writing.pass]
  split
  · exact h
  · split
    · intro d hd
      rcases List.mem_append.mp hd with hd | hd
      · exact h d hd
      · exact isDigit_of_mem_writeNumber hd
    · exact h

theorem isDigit_of_mem_foldl_pass {basic n : Nat} (text : List Char) {w : Writing}
    (h : ∀ d ∈ w.out, IsDigit d) :
    ∀ d ∈ (text.foldl (Writing.pass basic n) w).out, IsDigit d := by
  induction text generalizing w with
  | nil => exact h
  | cons c rest ih => exact ih (isDigit_of_mem_pass c h)

theorem isDigit_of_mem_writeFrom {text : List Char} {basic n : Nat} (ms : List Nat) {w : Writing}
    (h : ∀ d ∈ w.out, IsDigit d) : ∀ d ∈ (writeFrom text basic n ms w).out, IsDigit d := by
  induction ms generalizing n w with
  | nil => exact h
  | cons m ms ih =>
    rw [writeFrom]
    exact ih (isDigit_of_mem_foldl_pass text h)

/-- A word in Punycode is made of the characters of its text that are in ASCII, of digits and of
hyphens. -/
theorem mem_of_encode? {text code : List Char} (h : encode? text = some code) {c : Char}
    (hc : c ∈ code) : (c ∈ text ∧ c.toNat < 0x80) ∨ c = '-' ∨ IsDigit c := by
  rw [encode?] at h
  split at h
  · cases h
  · cases h
    rcases List.mem_append.mp hc with hc | hc
    · split at hc
      · cases hc
      · rcases List.mem_append.mp hc with hc | hc
        · rw [List.mem_filter, decide_eq_true_eq] at hc
          exact Or.inl hc
        · exact Or.inr (Or.inl (List.mem_singleton.mp hc))
    · have hnone : ∀ d ∈ ([] : List Char), IsDigit d := fun _ hd => absurd hd List.not_mem_nil
      exact Or.inr (Or.inr (isDigit_of_mem_writeFrom _ hnone c hc))

end Punycode

/-! ## Names in ASCII -/

theorem all_lt_iff_isAscii {cs : List Char} : cs.all (·.toNat < 0x80) = true ↔ IsAscii cs := by
  simp [IsAscii]

namespace Label

/-- A label in ASCII is made of its own characters that are in ASCII, and of those of Punycode. -/
theorem mem_of_ascii? {label text : List Char} (h : ascii? label = some text) {c : Char}
    (hc : c ∈ text) : (c ∈ label ∧ c.toNat < 0x80) ∨ c = '-' ∨ Punycode.IsDigit c := by
  rw [ascii?] at h
  split at h
  · rename_i hall
    cases h
    exact Or.inl ⟨hc, all_lt_iff_isAscii.mp hall c hc⟩
  · obtain ⟨code, hcode, rfl⟩ := Option.map_eq_some_iff.mp h
    rcases List.mem_append.mp hc with hc | hc
    · have hmark : ∀ c ∈ mark, c = '-' ∨ Punycode.IsDigit c := by
        decide
      exact Or.inr (hmark c hc)
    · exact Punycode.mem_of_encode? hcode hc

theorem ascii?_eq_self {label : List Char} (h : IsAscii label) : ascii? label = some label := by
  rw [ascii?, if_pos (all_lt_iff_isAscii.mpr h)]

end Label

/-- What holds of the separator and of all parts holds of the whole. -/
theorem forall_mem_joinWith {P : Char → Prop} {sep : List Char} {parts : List (List Char)}
    (hsep : ∀ c ∈ sep, P c) (h : ∀ part ∈ parts, ∀ c ∈ part, P c) :
    ∀ c ∈ joinWith sep parts, P c := by
  induction parts with
  | nil => exact fun c hc => absurd hc List.not_mem_nil
  | cons part parts ih =>
    have hfirst := h part (List.mem_cons_self ..)
    rcases parts with _ | ⟨next, rest⟩
    · rw [joinWith, List.intercalate_singleton]
      exact hfirst
    · rw [joinWith_cons (List.cons_ne_nil _ _)]
      intro c hc
      rcases List.mem_append.mp hc with hc | hc
      · exact (List.mem_append.mp hc).elim (hfirst c) (hsep c)
      · exact ih (fun p hp => h p (List.mem_cons_of_mem _ hp)) c hc

/-- A name in ASCII is made of the labels of the name as it is mapped, where no character is
forbidden. -/
theorem ascii?_spec {name host : List Char} (h : DomainName.ascii? name = some host) :
    ∃ mapped parts, name.mapM mapChar? = some mapped ∧
      (normalise mapped.flatten).any isForbidden = false ∧
      (splitOn '.' (normalise mapped.flatten)).mapM Label.ascii? = some parts ∧
      host = joinWith ['.'] parts := by
  rw [DomainName.ascii?] at h
  obtain ⟨mapped, hmapped, h⟩ := Option.bind_eq_some_iff.mp h
  refine ⟨mapped, ?_⟩
  dsimp only at h
  split at h
  · cases h
  · rename_i hforbidden
    obtain ⟨texts, -, h⟩ := Option.bind_eq_some_iff.mp h
    split at h
    · cases h
    · split at h
      · cases h
      · obtain ⟨parts, hparts, h⟩ := Option.bind_eq_some_iff.mp h
        split at h
        · cases h
        · cases h
          exact ⟨parts, hmapped, Bool.eq_false_iff.mpr hforbidden, hparts, rfl⟩

theorem mem_of_mem_splitOn {sep c : Char} {cs part : List Char} (hpart : part ∈ splitOn sep cs)
    (hc : c ∈ part) : c ∈ cs := by
  induction cs generalizing part with
  | nil =>
    rw [splitOn, List.mem_singleton] at hpart
    rw [hpart] at hc
    cases hc
  | cons d rest ih =>
    rw [splitOn] at hpart
    split at hpart
    · rcases List.mem_cons.mp hpart with rfl | hpart
      · cases hc
      · exact List.mem_cons_of_mem _ (ih hpart hc)
    · obtain ⟨first, parts, hparts⟩ := List.exists_cons_of_ne_nil (splitOn_ne_nil sep rest)
      rw [hparts, pushFront, List.mem_cons] at hpart
      rw [hparts] at ih
      rcases hpart with rfl | hpart
      · rcases List.mem_cons.mp hc with rfl | hc
        · exact List.mem_cons_self ..
        · exact List.mem_cons_of_mem _ (ih (List.mem_cons_self ..) hc)
      · exact List.mem_cons_of_mem _ (ih (List.mem_cons_of_mem _ hpart) hc)

/-- All characters of a name that is brought into ASCII are visible. -/
theorem isVisible_of_ascii? {name host : List Char} (h : DomainName.ascii? name = some host) :
    IsVisible host := by
  obtain ⟨mapped, parts, -, hforbidden, hparts, rfl⟩ := ascii?_spec h
  refine forall_mem_joinWith (by decide) fun part hpart c hc => ?_
  obtain ⟨label, hlabel, hascii⟩ := exists_of_mem_mapM hparts hpart
  rcases Label.mem_of_ascii? hascii hc with ⟨hmem, hlt⟩ | rfl | ⟨d, hd, rfl⟩
  · have hallowed := List.any_eq_false.mp hforbidden c (mem_of_mem_splitOn hlabel hmem)
    simp only [isForbidden, Bool.or_eq_true, decide_eq_true_eq, not_or] at hallowed
    omega
  · decide
  · clear hc
    revert d
    decide

theorem mapChar?_kelvin : mapChar? kelvin = some ['k'] := by
  decide +kernel

theorem mapChar?_eq_lowerChar {c : Char} (h : LowersToAscii c) :
    mapChar? c = some (lowerChar c) := by
  rcases h with hc | rfl
  · rw [mapChar?, if_pos hc, lowerChar, if_pos hc]
  · rw [mapChar?_kelvin, lowerChar_kelvin]

/-- A name whose lower case is in ASCII comes out in lower case. -/
theorem ascii?_eq_lower {name host : List Char} (hname : IsAscii (lower name))
    (h : DomainName.ascii? name = some host) : host = lower name := by
  obtain ⟨mapped, parts, hmapped, -, hparts, rfl⟩ := ascii?_spec h
  have hall := isAscii_lower_iff.mp hname
  rw [mapM_eq_some fun c hc => mapChar?_eq_lowerChar (hall c hc)] at hmapped
  have hflatten : mapped.flatten = lower name := by
    cases hmapped
    exact (lower_eq_flatMap hall).symm
  rw [hflatten, normalise, if_pos (all_lt_iff_isAscii.mpr hname)] at hparts
  -- labels in ASCII stay as they are, so the labels make up the name again
  have hlabels : ∀ label ∈ splitOn '.' (lower name), Label.ascii? label = some (id label) :=
    fun label hlabel => Label.ascii?_eq_self fun c hc => hname c (mem_of_mem_splitOn hlabel hc)
  rw [mapM_eq_some hlabels, List.map_id] at hparts
  cases hparts
  exact joinWith_splitOn '.' _

end AdFilter.Url
