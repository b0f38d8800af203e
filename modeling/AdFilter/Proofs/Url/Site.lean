import AdFilter.Proofs.Url.DomainName
import AdFilter.Proofs.Url.Reading
import AdFilter.Rule.Request

/-!
# The address of a site

How the address of a page is read whose host is a plain name, without user or port. The host is
what the name stands for (`ofText?_siteAddress`), and that is the name itself, in lower case, if the
page below is one too (`ofName?_eq`).
-/

namespace AdFilter

open Text

/-- The address of a page on a host. -/
def siteAddress (name : List Char) : List Char := "https://".toList ++ name ++ "/x".toList

/-- A name in which only letters, digits, hyphens and dots of ASCII occur, and beyond ASCII
anything, letters and digits of any script among it. -/
def IsPlainName (name : List Char) : Prop :=
  ∀ c ∈ name, c.toNat < 0x80 → c.isAlphanum = true ∨ c = '-' ∨ c = '.'

instance : DecidablePred IsPlainName := fun name =>
  inferInstanceAs (Decidable (∀ c ∈ name, _))

section

variable {name : List Char}

theorem siteAddress_eq (name : List Char) : siteAddress name =
    'h' :: 't' :: 't' :: 'p' :: 's' :: ':' :: '/' :: '/' :: (name ++ ['/', 'x']) := by
  unfold siteAddress
  simp

/-- A sign of ASCII that does not occur in plain names. -/
def IsSign (c : Char) : Prop := c.toNat < 0x80 ∧ ¬ (c.isAlphanum = true ∨ c = '-' ∨ c = '.')

instance : DecidablePred IsSign := fun _ => inferInstanceAs (Decidable (_ ∧ _))

theorem IsPlainName.not_mem (h : IsPlainName name) {c : Char} (hc : IsSign c) : c ∉ name :=
  fun hmem => hc.2 (h c hmem hc.1)

theorem IsPlainName.ne_of_mem (h : IsPlainName name) {c e : Char} (hc : c ∈ name)
    (he : IsSign e) : c ≠ e :=
  ne_of_mem_of_not_mem hc (h.not_mem he)

theorem head?_siteAddress (name : List Char) : (siteAddress name).head? = some 'h' := by
  rw [siteAddress_eq]
  rfl

theorem getLast?_siteAddress (name : List Char) : (siteAddress name).getLast? = some 'x' := by
  rw [siteAddress_eq, show '/' :: '/' :: (name ++ ['/', 'x']) = ('/' :: '/' :: name ++ ['/']) ++
    ['x'] by simp]
  simp only [← List.cons_append]
  exact List.getLast?_concat

theorem trim_siteAddress (name : List Char) : trim (siteAddress name) = siteAddress name := by
  have hstart : trimStart (siteAddress name) = siteAddress name := by
    refine trimStart_eq_self fun c hc => ?_
    rw [head?_siteAddress] at hc
    cases hc
    rfl
  rw [trim, hstart]
  refine dropEndWhile_eq_self_iff.mpr fun c hc => ?_
  rw [getLast?_siteAddress] at hc
  cases hc
  rfl

theorem cleaned_siteAddress (h : IsPlainName name) :
    Url.cleaned (siteAddress name) = siteAddress name := by
  have hstart : (siteAddress name).dropWhile Url.isControlOrSpace = siteAddress name := by
    rw [siteAddress_eq]
    exact List.dropWhile_cons_of_neg (by decide)
  have hend : dropEndWhile Url.isControlOrSpace (siteAddress name) = siteAddress name := by
    refine dropEndWhile_eq_self_iff.mpr fun c hc => ?_
    rw [getLast?_siteAddress] at hc
    cases hc
    decide
  rw [Url.cleaned, hstart, hend, List.filter_eq_self]
  have hname : ∀ c ∈ name, (c != '\t' && c != '\n' && c != '\r') = true := by
    intro c hc
    simp only [Bool.and_eq_true, bne_iff_ne]
    exact ⟨⟨h.ne_of_mem hc (by decide), h.ne_of_mem hc (by decide)⟩, h.ne_of_mem hc (by decide)⟩
  intro c hc
  rw [siteAddress_eq] at hc
  simp only [List.mem_cons, List.mem_append, List.not_mem_nil, or_false] at hc
  rcases hc with rfl | rfl | rfl | rfl | rfl | rfl | rfl | rfl | hc | rfl | rfl
  all_goals first | exact hname _ hc | decide

theorem splitScheme?_siteAddress (name : List Char) : Url.splitScheme? (siteAddress name) =
    some ("https".toList, '/' :: '/' :: (name ++ ['/', 'x'])) := by
  rw [siteAddress_eq]
  rfl

/-- A text without a colon is all host. -/
theorem splitHost_eq {cs : List Char} (h : ':' ∉ cs) (inBrackets : Bool) :
    Url.splitHost inBrackets cs = (cs, []) := by
  induction cs generalizing inBrackets with
  | nil => rfl
  | cons c rest ih =>
    rw [List.mem_cons, not_or] at h
    rw [Url.splitHost, if_neg]
    · dsimp only
      rw [ih h.2]
    · rw [Bool.and_eq_true, decide_eq_true_eq]
      rintro ⟨rfl, -⟩
      exact h.1 rfl

/-- A text without an `@` names no user. -/
theorem splitUser_eq {cs : List Char} (h : '@' ∉ cs) : Url.splitUser cs = (none, cs) := by
  have htake : cs.reverse.takeWhile (· != '@') = cs.reverse := by
    refine List.takeWhile_eq_self_iff.mpr fun c hc => ?_
    rw [bne_iff_ne]
    rintro rfl
    exact h (List.mem_reverse.mp hc)
  rw [Url.splitUser, htake, List.reverse_reverse, if_pos rfl]

/-- The part of an address behind its scheme and the slashes, if its host is a plain name. -/
theorem hostOfAuthority?_eq (h : IsPlainName name) (hne : name ≠ []) (rest : List Char) :
    Url.hostOfAuthority? .web (name ++ '/' :: rest) = (Url.Host.ofName? name).map some := by
  have hinside : ∀ c ∈ name, (!Url.endsAuthority .web c) = true := by
    intro c hc
    simp only [Url.endsAuthority, Url.SchemeKind.takesBackslash, Bool.not_eq_true',
      Bool.or_eq_false_iff, beq_eq_false_iff_ne, Bool.and_eq_false_iff]
    refine ⟨⟨⟨?_, ?_⟩, ?_⟩, Or.inr ?_⟩
    all_goals exact h.ne_of_mem hc (by decide)
  have htake : (name ++ '/' :: rest).takeWhile (!Url.endsAuthority .web ·) = name := by
    rw [List.takeWhile_append_of_pos hinside, List.takeWhile_cons_of_neg (by decide),
      List.append_nil]
  have hempty : name.isEmpty = false := List.isEmpty_eq_false_iff.mpr hne
  rw [Url.hostOfAuthority?, htake, splitUser_eq (h.not_mem (by decide))]
  dsimp only
  rw [splitHost_eq (h.not_mem (by decide))]
  dsimp only
  rw [hempty, if_neg Bool.false_ne_true, if_pos (by rfl)]
  rcases Url.Host.ofName? name with _ | host <;> rfl

/-- The request for the page of a host with a plain name. -/
theorem ofText?_siteAddress (h : IsPlainName name) (hne : name ≠ []) :
    Request.ofText? (siteAddress name) = (Url.Host.ofName? name).map fun host =>
      ⟨lowerAscii (dropEndWhile (· == '.') host.text), lower (siteAddress name)⟩ := by
  have hslashes : ('/' :: '/' :: (name ++ ['/', 'x'])).dropWhile (fun c => c == '/' || c == '\\') =
      name ++ ['/', 'x'] := by
    obtain ⟨c, rest, rfl⟩ := List.exists_cons_of_ne_nil hne
    rw [List.dropWhile_cons_of_pos (by decide), List.dropWhile_cons_of_pos (by decide)]
    refine List.dropWhile_cons_of_neg ?_
    simp only [Bool.or_eq_true, beq_iff_eq, not_or]
    have hc : c ∈ c :: rest := List.mem_cons_self ..
    exact ⟨h.ne_of_mem hc (by decide), h.ne_of_mem hc (by decide)⟩
  have hurl : Url.ofText? (siteAddress name) =
      (Url.Host.ofName? name).map fun host => ⟨"https".toList, some host⟩ := by
    rw [Url.ofText?, cleaned_siteAddress h, splitScheme?_siteAddress]
    have hkind : Url.SchemeKind.of "https".toList = .web := by decide
    simp only [Option.bind_eq_bind, Option.bind_some, hkind, hslashes,
      hostOfAuthority?_eq h hne ['x']]
    rcases Url.Host.ofName? name with _ | host <;> rfl
  have hempty : (siteAddress name).isEmpty = false := by
    rw [siteAddress_eq]
    rfl
  rw [Request.ofText?, trim_siteAddress, hempty, if_neg Bool.false_ne_true, hurl]
  rcases Url.Host.ofName? name with _ | host <;> rfl

/-! ## The host -/

/-- What a plain name stands for. -/
theorem ofName?_spec (h : IsPlainName name) {host : Url.Host}
    (hhost : Url.Host.ofName? name = some host) :
    ∃ domain, Url.DomainName.ascii? name = some domain ∧
      ((Url.Ipv4.isNumeric domain = true ∧ ∃ n, Url.Ipv4.ofText? domain = some n ∧ host = .ipv4 n) ∨
        (Url.Ipv4.isNumeric domain = false ∧ host = .name domain)) := by
  have hpercent : name.contains '%' = false := by
    rw [Bool.eq_false_iff, ne_eq, List.contains_iff_mem]
    exact h.not_mem (by decide)
  have hhead : name.head? ≠ some '[' := fun hhead =>
    h.not_mem (by decide) (List.mem_of_head? hhead)
  -- nothing in a plain name stands for another character
  rw [Url.Host.ofName?_eq_bind hhead, hpercent, if_neg Bool.false_ne_true,
    Option.bind_some] at hhost
  obtain ⟨domain, hdomain, hhost⟩ := Option.bind_eq_some_iff.mp hhost
  refine ⟨domain, hdomain, ?_⟩
  split at hhost
  · rename_i hnumeric
    obtain ⟨n, hn, rfl⟩ := Option.map_eq_some_iff.mp hhost
    exact Or.inl ⟨hnumeric, n, hn, rfl⟩
  · rename_i hnumeric
    cases hhost
    exact Or.inr ⟨Bool.eq_false_iff.mpr hnumeric, rfl⟩

/-! ## The host and one below it -/

/-- A name directly below another one. -/
def subName (name : List Char) : List Char := "sub.".toList ++ name

theorem subName_eq (name : List Char) : subName name = 's' :: 'u' :: 'b' :: '.' :: name := by
  unfold subName
  simp

theorem forall_mem_subName {P : Char → Prop} :
    (∀ c ∈ subName name, P c) ↔ P 's' ∧ P 'u' ∧ P 'b' ∧ P '.' ∧ ∀ c ∈ name, P c := by
  rw [subName_eq]
  simp only [List.forall_mem_cons]

theorem isPlainName_subName (h : IsPlainName name) : IsPlainName (subName name) :=
  forall_mem_subName.mpr ⟨by decide, by decide, by decide, by decide, h⟩

theorem isAscii_subName (h : IsAscii name) : IsAscii (subName name) :=
  forall_mem_subName.mpr ⟨by decide, by decide, by decide, by decide, h⟩

theorem parts_subName (domain : List Char) :
    Url.Ipv4.parts (subName domain) = ['s', 'u', 'b'] :: Url.Ipv4.parts domain := by
  have hdot : '.' ∉ ['s', 'u', 'b'] := by decide
  have hsplit : splitOn '.' (subName domain) = ['s', 'u', 'b'] :: splitOn '.' domain := by
    rw [subName_eq]
    exact splitOn_append hdot domain
  have hne := splitOn_ne_nil '.' domain
  rw [Url.Ipv4.parts, Url.Ipv4.parts, hsplit, List.getLast?_cons_of_ne_nil hne,
    List.dropLast_cons_of_ne_nil hne]
  split <;> rfl

/-- A name below another one is no address of version 4. -/
theorem ipv4_subName (domain : List Char) : Url.Ipv4.ofText? (subName domain) = none := by
  rw [Url.Ipv4.ofText?, parts_subName,
    Url.mapM_eq_none (List.mem_cons_self ..) (show Url.Ipv4.part? ['s', 'u', 'b'] = none by decide)]
  rfl

theorem isNumeric_subName {domain : List Char} (h : Url.Ipv4.isNumeric domain = true) :
    Url.Ipv4.isNumeric (subName domain) = true := by
  rw [Url.Ipv4.isNumeric] at h ⊢
  rw [parts_subName]
  rcases hparts : Url.Ipv4.parts domain with _ | ⟨part, parts⟩
  · rw [hparts] at h
    cases h
  · rw [hparts] at h
    rw [List.getLast?_cons_of_ne_nil (List.cons_ne_nil _ _)]
    exact h

theorem lower_subName (h : IsAscii (lower name)) : lower (subName name) = subName (lower name) := by
  have hall : ∀ c ∈ subName name, LowersToAscii c :=
    forall_mem_subName.mpr ⟨by decide, by decide, by decide, by decide, isAscii_lower_iff.mp h⟩
  rw [lower_eq_flatMap hall, lower_eq_flatMap (isAscii_lower_iff.mp h), subName_eq, subName_eq]
  rfl

/-- If a name and one below it both stand for hosts, these are names, and, if the lower case of the
name is in ASCII, these names. -/
theorem ofName?_eq (h : IsPlainName name) (hascii : IsAscii (lower name)) {host sub : Url.Host}
    (hhost : Url.Host.ofName? name = some host)
    (hsub : Url.Host.ofName? (subName name) = some sub) :
    host = .name (lower name) ∧ sub = .name (subName (lower name)) := by
  have hbelow : IsAscii (lower (subName name)) := by
    rw [lower_subName hascii]
    exact isAscii_subName hascii
  obtain ⟨domain, hdomain, hcases⟩ := ofName?_spec h hhost
  obtain ⟨below, hbelowDomain, hsubCases⟩ := ofName?_spec (isPlainName_subName h) hsub
  rw [Url.ascii?_eq_lower hascii hdomain] at hcases
  rw [Url.ascii?_eq_lower hbelow hbelowDomain, lower_subName hascii] at hsubCases
  -- a number at the end would make an address of both, and the name below is none
  rcases hsubCases with ⟨-, n, hn, -⟩ | ⟨hnumeric, rfl⟩
  · rw [ipv4_subName] at hn
    cases hn
  · refine ⟨?_, rfl⟩
    rcases hcases with ⟨htrue, -⟩ | ⟨-, rfl⟩
    · rw [isNumeric_subName htrue] at hnumeric
      cases hnumeric
    · rfl

end

end AdFilter
