import AdFilter.Proofs.Engine.Frame
import AdFilter.Proofs.Rule.Growth

/-!
# What stays blocked

While blocking is active it stays so as time goes by, and what is blocked stays blocked, whatever
happens in between, as long as nothing of it removes a domain, turns blocking off or pauses it
(`System.blocks_performAll`).
-/

namespace AdFilter

/-! ## Staying active -/

/-- Whether the clock that pauses are measured with never goes back. -/
def Clock.NeverGoesBack (c : Clock) : Prop := ∀ a b, a ≤ b → c.steady a ≤ c.steady b

theorem Toggle.isActive_iff {t : Toggle} {now : Nat} :
    t.isActive now = true ↔ t.enabled = true ∧ ∀ stop, t.pausedUntil = some stop → stop ≤ now := by
  rw [Toggle.isActive, Bool.and_eq_true, Toggle.remaining?]
  rcases t.pausedUntil with _ | stop
  · simp
  · simp

/-- Whether an operation leaves what is blocked blocked. -/
def Operation.KeepsBlocking (op : Operation) : Prop :=
  match op with
  | .change c => c.Adds
  | .setEnabled on => on = true
  | .pauseFor _ => False
  | _ => True

namespace System

variable {s t : System}

/-- Whether a request for an address is blocked now. -/
def blocks (s : System) (url : List Char) : Bool := (s.check url).1.isSome

theorem blocks_iff {url : List Char} :
    s.blocks url = true ↔ s.isActive = true ∧ ∃ r, Request.ofText? url = some r ∧
      ((criticalReason? r).isSome = true ∨ (s.engine.rules.reason? r).isSome = true) := by
  have hcheck : (s.check url).1 = s.engine.decide? s.clock.now url := rfl
  rw [blocks, hcheck, Engine.decide?, isActive]
  rcases s.engine.toggle.isActive s.clock.now with _ | _
  · simp
  · rw [if_pos rfl, Engine.reason?]
    rcases Request.ofText? url with _ | r
    · simp
    · simp

theorem Continues.isActive (h : s.Continues t) (hclock : s.clock.NeverGoesBack)
    (hactive : s.isActive = true) : t.isActive = true := by
  rw [System.isActive, Toggle.isActive_iff] at hactive ⊢
  rw [h.toggle_eq]
  refine ⟨hactive.1, fun stop hstop => Nat.le_trans (hactive.2 stop hstop) ?_⟩
  rw [Clock.now, Clock.now, h.steady_eq]
  exact hclock _ _ h.timer_le

theorem Continues.neverGoesBack (h : s.Continues t) (hclock : s.clock.NeverGoesBack) :
    t.clock.NeverGoesBack := by
  rw [Clock.NeverGoesBack, h.steady_eq]
  exact hclock

/-- What does not touch the switch, or turns it towards blocking, leaves blocking active. -/
theorem isActive_perform {op : Operation} (h : op.KeepsBlocking) (hclock : s.clock.NeverGoesBack)
    (hactive : s.isActive = true) :
    (s.perform op).isActive = true ∧ (s.perform op).clock.NeverGoesBack := by
  -- all but the two that move the switch just go on
  have hgoes : ∀ {t}, s.Continues t → t.isActive = true ∧ t.clock.NeverGoesBack :=
    fun ht => ⟨ht.isActive hclock hactive, ht.neverGoesBack hclock⟩
  cases op with
  | change c => exact hgoes ⟨rfl, rfl, Nat.le_refl _⟩
  | hydrate => exact hgoes (Continues.hydrate s)
  | refresh => exact hgoes (Continues.refresh s)
  | setEnabled on =>
    refine ⟨?_, hclock⟩
    rw [isActive, Toggle.isActive_iff] at hactive ⊢
    exact ⟨h, hactive.2⟩
  | pauseFor duration => cases h
  | resume =>
    refine ⟨?_, hclock⟩
    rw [isActive, Toggle.isActive_iff] at hactive ⊢
    refine ⟨hactive.1, fun stop hstop => ?_⟩
    cases hstop
  | check url => exact hgoes ⟨rfl, rfl, Nat.le_refl _⟩
  | navigate url => exact hgoes ⟨rfl, rfl, Nat.le_refl _⟩
  | advance duration => exact hgoes (Continues.runUntil s _)
  | startScheduler period =>
    exact hgoes ((Continues.deliver s).trans ⟨rfl, rfl, Nat.le_refl _⟩)
  | trigger => exact hgoes (Continues.trigger s)
  | stopScheduler => exact hgoes (Continues.stopScheduler s)
  | surround files web => exact hgoes ⟨rfl, rfl, Nat.le_refl _⟩

/-! ## Staying blocked -/

theorem adds_of_isLoad {c : RuleChange} (h : c.IsLoad) : c.Adds := by
  rcases h with rfl | ⟨text, rfl | rfl⟩ <;> exact trivial

/-- What keeps blocking removes no rule, whatever it brings in. -/
theorem adds_of_mem_changes {op : Operation} (hop : op.KeepsBlocking) {c : RuleChange}
    (h : c ∈ s.changes op) : c.Adds := by
  rcases isLoad_of_mem_changes h with rfl | hload
  · exact hop
  · exact adds_of_isLoad hload

/-- An address that is blocked stays so while other things happen. -/
theorem blocks_perform {op : Operation} (hop : op.KeepsBlocking)
    (hclock : s.clock.NeverGoesBack) {url : List Char} (h : s.blocks url = true) :
    (s.perform op).blocks url = true := by
  rw [blocks_iff] at h ⊢
  obtain ⟨hactive, r, hr, hreason⟩ := h
  refine ⟨(isActive_perform hop hclock hactive).1, r, hr, ?_⟩
  rcases hreason with hcritical | hrules
  · exact Or.inl hcritical
  · rw [perform_rules]
    have hwithin : s.engine.rules.Within (s.engine.rules.changeAll (s.changes op)) :=
      RuleSet.within_changeAll fun c hc => adds_of_mem_changes hop hc
    exact Or.inr (hwithin.isSome_reason? hrules)

theorem blocks_performAll {ops : List Operation} (hops : ∀ op ∈ ops, op.KeepsBlocking)
    (hclock : s.clock.NeverGoesBack) {url : List Char} (h : s.blocks url = true) :
    (s.performAll ops).blocks url = true := by
  induction ops generalizing s with
  | nil => exact h
  | cons op ops ih =>
    have hop := hops op (List.mem_cons_self ..)
    have hactive := (blocks_iff.mp h).1
    exact ih (fun e he => hops e (List.mem_cons_of_mem _ he))
      (isActive_perform hop hclock hactive).2 (blocks_perform hop hclock h)

end System

end AdFilter
