import AdFilter.Proofs.Engine.Removal
import AdFilter.Proofs.Engine.UserDomain
import AdFilter.Proofs.Rule.Subtree

/-!
# Hosts that were seen

A user who wants to be rid of a host takes its name from a request. The name is in normal form as it
stands there, whatever kind of host it is (`Request.normalDomain_host`), so it is stored as it is
and found again: the address is blocked as soon as the name is added, and judged as before when it
is taken out again (`System.seenHost_spec`).
-/

namespace AdFilter

open Text

/-- The host of a request is in the normal form of domains. -/
theorem Request.normalDomain_host {url : List Char} {r : Request} (h : ofText? url = some r) :
    normalDomain r.host = r.host := by
  obtain ⟨hvisible, hlower⟩ := host_spec h
  have hdots : dropEndWhile (· == '.') r.host = r.host := by
    refine dropEndWhile_eq_self_iff.mpr fun c hc => ?_
    rw [beq_eq_false_iff_ne]
    rintro rfl
    exact getLast?_host h hc
  rw [normalDomain, trim_eq_self hvisible.isBlank, hdots, lower_eq_lowerAscii hvisible.isAscii,
    hlower]

namespace System

variable {s : System} {url : List Char} {r : Request}

/-- With the host of an address among the domains, the address is blocked while blocking is on. -/
theorem isSome_check_addDomain (hactive : s.isActive = true) (hr : Request.ofText? url = some r)
    (hne : r.host ≠ []) :
    ((s.perform (.change (.addDomain r.host))).check url).1.isSome = true := by
  have hnormal := Request.normalDomain_host hr
  have hreason : ((s.engine.rules.addDomain r.host).reason? r).isSome = true := by
    refine RuleSet.isSome_reason?_addDomain ?_ ?_
    · rwa [hnormal]
    · rw [hnormal]
      exact Or.inl rfl
  exact blocks_iff.mpr ⟨hactive, r, hr, Or.inr hreason⟩

/-- Once it is removed, the host is not named. -/
theorem check_removeDomain_ne (hs : s.engine.rules.domains.Nodup)
    (hr : Request.ofText? url = some r) :
    ((s.perform (.change (.removeDomain r.host))).check url).1 ≠ some .domain := by
  intro h
  obtain ⟨-, -, -, hmem⟩ := (check_eq_domain_iff hr).mp h
  exact ((RuleSet.mem_removeDomain hs).mp hmem).2 (Request.normalDomain_host hr)

/-- To remove a host that was added undoes it, if it was not there before. -/
theorem perform_removeDomain_addDomain (hr : Request.ofText? url = some r) (hne : r.host ≠ [])
    (hnew : r.host ∉ s.engine.rules.domains) :
    (s.perform (.change (.addDomain r.host))).perform (.change (.removeDomain r.host)) = s := by
  rw [← Request.normalDomain_host hr] at hne hnew
  have hrules := RuleSet.removeDomain_addDomain hne hnew
  have hperform : (s.perform (.change (.addDomain r.host))).perform
      (.change (.removeDomain r.host)) = { s with engine := { s.engine with
        rules := (s.engine.rules.addDomain r.host).removeDomain r.host } } := rfl
  rw [hperform, hrules]

/-- What it does to an address, after any run, that the user adds its host and removes it again.
The name of the host is stored as it is. While blocking is on, the address is blocked once the host
is added. Once the host is removed, it is not named as the reason; and if it was not stored before,
the address is judged as before. -/
theorem seenHost_spec (settings : Settings) (files : Files) (web : Web) (clock : Clock)
    (logger : Option Logger) (reporter : Option Reporter) (ops : List Operation) :
    let s := (build settings files web clock logger reporter).performAll ops
    s.isActive = true → ∀ {url : List Char} {r : Request}, Request.ofText? url = some r →
      r.host ≠ [] →
      let added := s.perform (.change (.addDomain r.host))
      let removed := added.perform (.change (.removeDomain r.host))
      normalDomain r.host = r.host ∧
        (added.check url).1.isSome = true ∧
        (removed.check url).1 ≠ some .domain ∧
        (r.host ∉ s.engine.rules.domains → (removed.check url).1 = (s.check url).1) := by
  intro s hactive url r hr hne added removed
  have hvalid : s.engine.rules.Valid := by
    rw [rules_eq_fullHistory]
    exact RuleSet.Valid.ofHistory _
  refine ⟨Request.normalDomain_host hr, isSome_check_addDomain hactive hr hne,
    check_removeDomain_ne (hvalid.addDomain r.host).domains_nodup hr, fun hnew => ?_⟩
  have hsame : removed = s := perform_removeDomain_addDomain hr hne hnew
  rw [hsame]

/-- A word with capital letters and an umlaut, which is the host in a scheme of its own. -/
theorem seenHost_spec_of_word :
    let url := "git://Über.Example/x".toList
    let host := "%c3%9cber.example".toList
    let added := quiet.perform (.change (.addDomain host))
    let removed := added.perform (.change (.removeDomain host))
    Request.ofText? url = some ⟨host, "git://über.example/x".toList⟩ ∧ quiet.isActive = true ∧
      normalDomain host = host ∧ (added.check url).1.isSome = true ∧
      (removed.check url).1 = (quiet.check url).1 := by
  intro url host added removed
  have hr : Request.ofText? url = some ⟨host, "git://über.example/x".toList⟩ := by
    decide +kernel
  have hactive : quiet.isActive = true := by
    decide +kernel
  obtain ⟨hnormal, hadded, -, hremoved⟩ := seenHost_spec _ _ _ _ none none [] hactive hr
    (by decide +kernel)
  exact ⟨hr, hactive, hnormal, hadded, hremoved (by decide +kernel)⟩

end System

end AdFilter
