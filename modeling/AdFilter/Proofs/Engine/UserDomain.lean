import AdFilter.Proofs.Engine.Persistence
import AdFilter.Proofs.Rule.Subtree
import AdFilter.Proofs.Url.Host
import AdFilter.Proofs.Url.Site

/-!
# Domains that the user adds

What happens to the pages of a host when the user adds its name. The name is stored as it was
typed, in lower case, and hosts come in ASCII: so the pages are blocked if the normal form of the
name is in ASCII, and a name with other characters in it makes no difference.
`System.addDomain_spec` says so, and that what is blocked then stays blocked.
-/

namespace AdFilter

open Text

/-! ## The pages of a host -/

section

variable {d : List Char}

/-- The normal form of a name without white space is in ASCII if its lower case is. -/
theorem isAscii_normalDomain_iff (hvalid : isValidDomain d = true) :
    IsAscii (normalDomain d) ↔ IsAscii (lower d) := by
  rw [normalDomain, trim_eq_self (isBlank_of_isValidDomain hvalid), isAscii_lower_iff,
    isAscii_lower_iff]
  constructor
  · intro h c hc
    obtain ⟨dots, hsplit, hdots⟩ := exists_dropEndWhile_append (· == '.') d
    rw [← hsplit, List.mem_append] at hc
    rcases hc with hc | hc
    · exact h c hc
    · rw [beq_iff_eq.mp (hdots c hc)]
      decide
  · intro h c hc
    exact h c ((dropEndWhile_prefix_self _ d).subset hc)

theorem normalDomain_eq_dropEndWhile (hvalid : isValidDomain d = true)
    (hascii : IsAscii (lower d)) : normalDomain d = dropEndWhile (· == '.') (lower d) := by
  rw [normalDomain, trim_eq_self (isBlank_of_isValidDomain hvalid), dropEndWhile_lower hascii]

theorem lowerAscii_normalDomain (d : List Char) : lowerAscii (normalDomain d) = normalDomain d :=
  lowerAscii_lower _

theorem lowerAscii_subName (cs : List Char) :
    lowerAscii (subName cs) = subName (lowerAscii cs) := by
  rw [subName_eq, subName_eq]
  rfl

/-- If the normal form of a name is in ASCII, it is the host of its pages, and what stands behind
`sub.` in the host of the pages below. -/
theorem hosts_of_normalDomain (hvalid : isValidDomain d = true) (hplain : IsPlainName d)
    (hascii : IsAscii (normalDomain d)) (hne : normalDomain d ≠ []) {r rsub : Request}
    (hr : Request.ofText? (siteAddress d) = some r)
    (hrsub : Request.ofText? (siteAddress (subName d)) = some rsub) :
    r.host = normalDomain d ∧ rsub.host = subName (normalDomain d) := by
  have hlower := (isAscii_normalDomain_iff hvalid).mp hascii
  have hnormal := normalDomain_eq_dropEndWhile hvalid hlower
  have hd : d ≠ [] := List.ne_nil_of_mem (mem_of_isValidDomain hvalid)
  have hsub : subName d ≠ [] := by
    rw [subName_eq]
    exact List.cons_ne_nil _ _
  rw [ofText?_siteAddress hplain hd, Option.map_eq_some_iff] at hr
  rw [ofText?_siteAddress (isPlainName_subName hplain) hsub, Option.map_eq_some_iff] at hrsub
  obtain ⟨host, hhost, rfl⟩ := hr
  obtain ⟨sub, hsubHost, rfl⟩ := hrsub
  obtain ⟨rfl, rfl⟩ := ofName?_eq hplain hlower hhost hsubHost
  have hend : dropEndWhile (· == '.') (subName (lower d)) = subName (normalDomain d) := by
    rw [hnormal] at hne ⊢
    exact dropEndWhile_append_of_ne_nil hne _
  dsimp only [Url.Host.text]
  rw [← hnormal, hend, lowerAscii_subName, lowerAscii_normalDomain]
  exact ⟨rfl, rfl⟩

/-- A host in ASCII does not belong to a domain with other characters in it. -/
theorem isAscii_of_belongsTo {host : List Char} (hhost : IsAscii host) (h : BelongsTo host d) :
    IsAscii d := by
  rcases h with rfl | hbelow
  · exact hhost
  · intro c hc
    exact hhost c (hbelow.subset (List.mem_cons_of_mem _ hc))

end

namespace RuleSet

variable {s : RuleSet} {d : List Char}

/-- A name whose normal form is empty, or not in ASCII, makes no difference to a host in ASCII. -/
theorem reason?_addDomain {r : Request} (hhost : IsAscii r.host)
    (h : ¬ (normalDomain d ≠ [] ∧ IsAscii (normalDomain d))) :
    (s.addDomain d).reason? r = s.reason? r := by
  by_cases hne : normalDomain d = []
  · rw [addDomain_of_nil s hne]
  · rw [addDomain_of_ne_nil s hne]
    refine reason?_withDomain fun hbelongs => h ⟨hne, ?_⟩
    exact isAscii_of_belongsTo hhost hbelongs

/-- A name whose normal form is not empty blocks what belongs to that. -/
theorem isSome_reason?_addDomain {r : Request} (hne : normalDomain d ≠ [])
    (h : BelongsTo r.host (normalDomain d)) : ((s.addDomain d).reason? r).isSome = true := by
  rcases reason?_addDomain_of_belongsTo hne h with hreason | ⟨x, hreason⟩
  · rw [hreason]
    rfl
  · rw [hreason]
    rfl

end RuleSet

namespace System

/-- What it does to the pages of a host, and to those of one below it, that the user adds its name:
they are blocked from then on if the normal form of the name is in ASCII and not empty, and they are
blocked as before otherwise. What is blocked stays blocked whatever happens next, as long as nothing
of it removes a domain, turns blocking off or pauses it. -/
theorem addDomain_spec (s : System) (hclock : s.clock.NeverGoesBack) (hactive : s.isActive = true)
    {d : List Char} (hvalid : isValidDomain d = true) (hplain : IsPlainName d)
    (hsite : (Request.ofText? (siteAddress d)).isSome = true)
    (hsub : (Request.ofText? (siteAddress (subName d))).isSome = true)
    {url : List Char} (hurl : url = siteAddress d ∨ url = siteAddress (subName d)) :
    ((s.perform (.change (.addDomain d))).blocks url = true ↔
      (normalDomain d ≠ [] ∧ IsAscii (normalDomain d)) ∨ s.blocks url = true) ∧
    ∀ ops : List Operation, (∀ op ∈ ops, op.KeepsBlocking) →
      (s.perform (.change (.addDomain d))).blocks url = true →
        (s.performAll (.change (.addDomain d) :: ops)).blocks url = true := by
  obtain ⟨r, hr⟩ := Option.isSome_iff_exists.mp hsite
  obtain ⟨rsub, hrsub⟩ := Option.isSome_iff_exists.mp hsub
  -- the request for either page has a host in ASCII, which belongs to the name if that can be
  have hrequest : ∃ q, Request.ofText? url = some q ∧ IsAscii q.host ∧
      (normalDomain d ≠ [] → IsAscii (normalDomain d) → BelongsTo q.host (normalDomain d)) := by
    rcases hurl with rfl | rfl
    · refine ⟨r, hr, (Request.host_spec hr).1.isAscii, fun hne hascii => Or.inl ?_⟩
      exact (hosts_of_normalDomain hvalid hplain hascii hne hr hrsub).1
    · refine ⟨rsub, hrsub, (Request.host_spec hrsub).1.isAscii, ?_⟩
      intro hne hascii
      rw [(hosts_of_normalDomain hvalid hplain hascii hne hr hrsub).2, subName_eq]
      exact Or.inr ⟨['s', 'u', 'b'], rfl⟩
  obtain ⟨q, hq, hqascii, hbelongs⟩ := hrequest
  have hactive' : (s.perform (.change (.addDomain d))).isActive = true := hactive
  have hrules : (s.perform (.change (.addDomain d))).engine.rules =
      s.engine.rules.addDomain d := rfl
  have hclock' : (s.perform (.change (.addDomain d))).clock.NeverGoesBack := hclock
  refine ⟨?_, fun ops hops h => blocks_performAll hops hclock' h⟩
  rw [blocks_iff, blocks_iff, hrules]
  -- a name that is not of this kind leaves the judgement on the page as it was
  by_cases hgood : normalDomain d ≠ [] ∧ IsAscii (normalDomain d)
  · have hblocked := RuleSet.isSome_reason?_addDomain (s := s.engine.rules) hgood.1
      (hbelongs hgood.1 hgood.2)
    exact ⟨fun _ => Or.inl hgood, fun _ => ⟨hactive', q, hq, Or.inr hblocked⟩⟩
  · have hsame := RuleSet.reason?_addDomain (s := s.engine.rules) hqascii hgood
    rw [or_iff_right hgood]
    constructor
    · rintro ⟨-, p, hp, h⟩
      rw [hq] at hp
      cases hp
      rw [hsame] at h
      exact ⟨hactive, q, hq, h⟩
    · rintro ⟨-, p, hp, h⟩
      rw [hq] at hp
      cases hp
      rw [← hsame] at h
      exact ⟨hactive', q, hq, h⟩

/-- An engine without remote lists, just built. -/
def quiet : System :=
  build { sources := [] } {} { otherwise := .status 404 } { wall := fun t => t, steady := id }

/-- What becomes of an umlaut in the host of an address. -/
theorem ofText?_umlaut :
    Request.ofText? (siteAddress "münchen.de".toList) =
      some ⟨"xn--mnchen-3ya.de".toList, "https://münchen.de/x".toList⟩ := by
  decide +kernel

/-- A name with an umlaut in it, which makes no difference to its own pages. -/
theorem addDomain_spec_of_umlaut :
    isValidDomain "münchen.de".toList = true ∧ quiet.isActive = true ∧
      (Request.ofText? (siteAddress "münchen.de".toList)).isSome = true ∧
      (quiet.perform (.change (.addDomain "münchen.de".toList))).blocks
        (siteAddress "münchen.de".toList) = false := by
  have hactive : quiet.isActive = true := by
    decide +kernel
  have hvalid : isValidDomain "münchen.de".toList = true := by
    decide +kernel
  have hsite : (Request.ofText? (siteAddress "münchen.de".toList)).isSome = true := by
    rw [ofText?_umlaut]
    rfl
  have hbefore : ¬ quiet.blocks (siteAddress "münchen.de".toList) = true := by
    rw [blocks_iff, ofText?_umlaut]
    rintro ⟨-, r, hr, hreason⟩
    cases hr
    revert hreason
    decide +kernel
  obtain ⟨hiff, -⟩ := addDomain_spec quiet (fun _ _ h => h) hactive hvalid (by decide +kernel) hsite
    (by decide +kernel) (Or.inl rfl)
  refine ⟨hvalid, hactive, hsite, ?_⟩
  rw [Bool.eq_false_iff, ne_eq, hiff, or_iff_left hbefore]
  decide +kernel

end System

end AdFilter
