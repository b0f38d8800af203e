import AdFilter.Proofs.Text.Spelling
import AdFilter.Proofs.Url.DomainName
import AdFilter.Proofs.Url.Reading
import AdFilter.Rule.Request

/-!
# The text of a host

Whatever kind of host an address has, a name in ASCII, the number of a machine or a word of another
scheme, its text is written in visible characters only (`isVisible_text`).
-/

namespace AdFilter.Url

open Text

/-! ## Numbers of machines -/

theorem exists_of_mem_toDigits {b n : Nat} (hb : 1 < b) {c : Char} (hc : c ∈ Nat.toDigits b n) :
    ∃ d < b, c = Nat.digitChar d := by
  induction n using Nat.strongRecOn with
  | _ n ih =>
    rcases Nat.lt_or_ge n b with hn | hn
    · rw [Nat.toDigits_of_lt_base hn, List.mem_singleton] at hc
      exact ⟨n, hn, hc⟩
    · rw [Nat.toDigits_of_base_le hb hn, List.mem_append, List.mem_singleton] at hc
      rcases hc with hc | hc
      · exact ih _ (Nat.div_lt_self (by omega) hb) hc
      · exact ⟨_, Nat.mod_lt _ (by omega), hc⟩

/-- Digits are visible, as small letters and as capital ones. -/
theorem isVisible_toDigits {b : Nat} (hb : 1 < b) (hle : b ≤ 16) (n : Nat) :
    IsVisible (Nat.toDigits b n) ∧ IsVisible ((Nat.toDigits b n).map Char.toUpper) := by
  have hdigit : ∀ d < 16, (0x20 < (Nat.digitChar d).toNat ∧ (Nat.digitChar d).toNat < 0x7F) ∧
      0x20 < (Nat.digitChar d).toUpper.toNat ∧ (Nat.digitChar d).toUpper.toNat < 0x7F := by
    decide
  refine ⟨fun c hc => ?_, fun c hc => ?_⟩
  · obtain ⟨d, hd, rfl⟩ := exists_of_mem_toDigits hb hc
    exact (hdigit d (by omega)).1
  · obtain ⟨e, he, rfl⟩ := List.mem_map.mp hc
    obtain ⟨d, hd, rfl⟩ := exists_of_mem_toDigits hb he
    exact (hdigit d (by omega)).2

theorem isVisible_ipv4 (n : Nat) : IsVisible (Ipv4.text n) := by
  refine forall_mem_joinWith (by decide) fun part hpart => ?_
  obtain ⟨byte, -, rfl⟩ := List.mem_map.mp hpart
  exact (isVisible_toDigits (by decide) (by decide) _).1

theorem isVisible_ipv6 (ns : List Nat) : IsVisible (Ipv6.text ns) := by
  have hgroups : ∀ ms : List Nat, IsVisible (Ipv6.groupsText ms) := by
    intro ms
    refine forall_mem_joinWith (by decide) fun part hpart => ?_
    obtain ⟨m, -, rfl⟩ := List.mem_map.mp hpart
    exact (isVisible_toDigits (by decide) (by decide) m).1
  rw [Ipv6.text]
  dsimp only
  split
  · exact hgroups ns
  · refine List.forall_mem_append.mpr ⟨hgroups _, ?_⟩
    exact List.forall_mem_cons.mpr ⟨by decide, List.forall_mem_cons.mpr ⟨by decide, hgroups _⟩⟩

namespace Host

variable {cs : List Char} {host : Host}

theorem isVisible_of_ofBrackets? (h : ofBrackets? cs = some host) : IsVisible host.text := by
  rw [ofBrackets?, Option.ite_none_right_eq_some, Option.map_eq_some_iff] at h
  obtain ⟨-, ns, -, rfl⟩ := h
  refine List.forall_mem_cons.mpr ⟨by decide, List.forall_mem_append.mpr ⟨isVisible_ipv6 ns, ?_⟩⟩
  decide

theorem isVisible_of_ofName? (h : ofName? cs = some host) : IsVisible host.text := by
  by_cases hhead : cs.head? = some '['
  · obtain ⟨rest, rfl⟩ := List.head?_eq_some_iff.mp hhead
    exact isVisible_of_ofBrackets? h
  · rw [ofName?_eq_bind hhead] at h
    obtain ⟨plain, -, h⟩ := Option.bind_eq_some_iff.mp h
    obtain ⟨domain, hdomain, h⟩ := Option.bind_eq_some_iff.mp h
    split at h
    · obtain ⟨n, -, rfl⟩ := Option.map_eq_some_iff.mp h
      exact isVisible_ipv4 n
    · cases h
      exact isVisible_of_ascii? hdomain

/-- What is written as bytes is visible, and of what is not only the space is not. -/
theorem isVisible_percentEncode (h : ' ' ∉ cs) : IsVisible (percentEncode cs) := by
  intro d hd
  obtain ⟨c, hc, hd⟩ := List.mem_flatMap.mp hd
  split at hd
  · rename_i hprinted
    rw [Bool.and_eq_true, decide_eq_true_eq, decide_eq_true_eq] at hprinted
    have hspace : c.toNat ≠ 0x20 := fun hnat => h (eq_of_toNat_eq (d := ' ') hnat ▸ hc)
    rw [List.mem_singleton.mp hd]
    omega
  · obtain ⟨b, -, hd⟩ := List.mem_flatMap.mp hd
    rcases List.mem_cons.mp hd with rfl | hd
    · decide
    · obtain ⟨e, he, rfl⟩ := List.mem_map.mp hd
      have hdigits := isVisible_toDigits (b := 16) (by decide) (by decide) (256 + b.toNat)
      refine hdigits.2 _ ?_
      exact List.mem_map_of_mem (List.mem_of_mem_tail he)

theorem isVisible_of_ofWord? (h : ofWord? cs = some host) : IsVisible host.text := by
  by_cases hhead : cs.head? = some '['
  · obtain ⟨rest, rfl⟩ := List.head?_eq_some_iff.mp hhead
    exact isVisible_of_ofBrackets? h
  · rw [ofWord?_eq hhead, Option.ite_none_left_eq_some] at h
    obtain ⟨hallowed, h⟩ := h
    cases h
    refine isVisible_percentEncode fun hspace => hallowed ?_
    exact List.any_eq_true.mpr ⟨' ', hspace, by decide⟩

end Host

/-! ## Hosts of addresses -/

/-- A host is read from a name or from a word. -/
def Host.IsRead (h : Host) : Prop := ∃ cs, ofName? cs = some h ∨ ofWord? cs = some h

theorem Host.IsRead.isVisible {h : Host} (hread : h.IsRead) : IsVisible h.text := by
  obtain ⟨cs, hname | hword⟩ := hread
  · exact isVisible_of_ofName? hname
  · exact isVisible_of_ofWord? hword

theorem isRead_of_hostOfAuthority? {k : SchemeKind} {cs : List Char} {h : Host}
    (hhost : hostOfAuthority? k cs = some (some h)) : h.IsRead := by
  rw [hostOfAuthority?] at hhost
  dsimp only at hhost
  split at hhost
  · split at hhost <;> cases hhost
  · split at hhost
    · split at hhost
      · obtain ⟨found, hfound, hsome⟩ := Option.bind_eq_some_iff.mp hhost
        cases hsome
        exact ⟨_, Or.inr hfound⟩
      · obtain ⟨found, hfound, hsome⟩ := Option.bind_eq_some_iff.mp hhost
        cases hsome
        exact ⟨_, Or.inl hfound⟩
    · cases hhost

theorem isRead_of_hostOfFile? {cs : List Char} {h : Host}
    (hhost : hostOfFile? cs = some (some h)) : h.IsRead := by
  rw [hostOfFile?.eq_def] at hhost
  split at hhost
  · split at hhost
    · dsimp only at hhost
      split at hhost
      · cases hhost
      · obtain ⟨found, hfound, hrest⟩ := Option.bind_eq_some_iff.mp hhost
        -- this machine and drives are left out, and no other host is put in their place
        split at hrest
        · cases hrest
        · split at hrest <;> cases hrest
          exact ⟨_, Or.inl hfound⟩
    · cases hhost
  · cases hhost

theorem isRead_of_hostBehind? {scheme rest : List Char} {h : Host}
    (hhost : hostBehind? scheme rest = some (some h)) : h.IsRead := by
  unfold hostBehind? at hhost
  split at hhost
  · exact isRead_of_hostOfAuthority? hhost
  · exact isRead_of_hostOfFile? hhost
  · unfold hostOfOther? at hhost
    split at hhost
    · exact isRead_of_hostOfAuthority? hhost
    · cases hhost

/-- The host of an address is written in visible characters. -/
theorem isVisible_host {cs : List Char} {u : Url} (hu : ofText? cs = some u) {h : Host}
    (hhost : u.host = some h) : IsVisible h.text := by
  rw [ofText?_eq_bind] at hu
  obtain ⟨⟨scheme, rest⟩, -, hu⟩ := Option.bind_eq_some_iff.mp hu
  obtain ⟨found, hfound, rfl⟩ := Option.map_eq_some_iff.mp hu
  cases hhost
  exact (isRead_of_hostBehind? hfound).isVisible

end AdFilter.Url

/-! ## Hosts of requests -/

namespace AdFilter.Request

open Text

/-- The host of a request is written in visible characters, none of them a capital letter. -/
theorem host_spec {cs : List Char} {r : Request} (h : ofText? cs = some r) :
    IsVisible r.host ∧ lowerAscii r.host = r.host := by
  rw [ofText?] at h
  dsimp only at h
  split at h
  · cases h
  · obtain ⟨u, hu, hr⟩ := Option.bind_eq_some_iff.mp h
    rw [← Option.some.inj hr]
    have htext : IsVisible ((u.host.map Url.Host.text).getD []) := by
      rcases hhost : u.host with _ | host
      · exact fun c hc => absurd hc List.not_mem_nil
      · exact Url.isVisible_host hu hhost
    have hkept : IsVisible (dropEndWhile (· == '.') ((u.host.map Url.Host.text).getD [])) :=
      fun c hc => htext c ((dropEndWhile_prefix_self _ _).subset hc)
    exact ⟨hkept.lowerAscii, lowerAscii_lowerAscii _⟩

end AdFilter.Request
