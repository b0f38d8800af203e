import AdFilter.Proofs.Fetch.Run
import Mathlib.Algebra.GroupWithZero.Nat

/-!
# How long a pass takes

A pass has a limited number of steps (`Pass.stepsLeft`), and it is over by a time that is known from
its start (`Pass.latest`): a step brings the one down and does not put the other off.
-/

namespace AdFilter

/-- How long a list in work can still wait between its attempts. -/
def Job.patience (attempt : Nat) : Nat :=
  ((List.range Fetcher.attempts).drop attempt).sum * Fetcher.backoff

theorem Job.patience_of_lt {attempt : Nat} (h : attempt < Fetcher.attempts) :
    Job.patience attempt = attempt * Fetcher.backoff + Job.patience (attempt + 1) := by
  have hcases : attempt = 0 ∨ attempt = 1 ∨ attempt = 2 := by
    have hattempts : Fetcher.attempts = 3 := rfl
    omega
  rcases hcases with rfl | rfl | rfl <;> rfl

namespace Pass

variable {f : Fetcher} {now : Moment} {p q : Pass} {st st' : Stock} {made : Log}

/-- How many steps a pass can still make. -/
def stepsLeft (p : Pass) : Nat :=
  (Fetcher.attempts + 1) * p.waiting.length +
    (p.running.map fun j => Fetcher.attempts + 1 - j.attempt).sum

/-- The time by which a pass is over, the lists in work coming one after the other. -/
def latest (p : Pass) (now : Nat) : Nat :=
  now + Job.patience 1 * p.waiting.length +
    (p.running.map fun j => (j.due - now) + Job.patience j.attempt).sum

/-- No list takes more steps than one to begin with it and one for each attempt. -/
theorem IsOf.stepsLeft_le (h : p.IsOf f) :
    p.stepsLeft ≤ (Fetcher.attempts + 1) * f.sources.length := by
  have hlength := h.sources_perm.length_eq
  rw [sources, List.length_append, List.length_append, List.length_map, List.length_map] at hlength
  have hsum : ∀ js : List Job, (js.map fun j => Fetcher.attempts + 1 - j.attempt).sum ≤
      (Fetcher.attempts + 1) * js.length := by
    intro js
    induction js with
    | nil => exact Nat.le_refl _
    | cons j js ih =>
      rw [List.map_cons, List.sum_cons, List.length_cons, Nat.mul_add_one]
      omega
  have hrunning := hsum p.running
  rw [stepsLeft, ← hlength, Nat.mul_add, Nat.mul_add]
  omega

/-- Each step is one step less to be made. -/
theorem Move.stepsLeft_lt (hbounds : ∀ j ∈ p.running, j.attempt ≤ Fetcher.attempts)
    (h : Move f now p st made q st') : q.stepsLeft < p.stepsLeft := by
  have hattempts : Fetcher.attempts = 3 := rfl
  cases h with
  | hit =>
    simp only [stepsLeft, List.length_cons, hattempts]
    omega
  | miss =>
    simp only [stepsLeft, List.length_cons, List.map_append, List.sum_append, List.map_cons,
      List.map_nil, List.sum_cons, List.sum_nil, hattempts]
    omega
  | retry _ _ hleft =>
    simp only [stepsLeft, List.map_append, List.sum_append, List.map_cons, List.map_nil,
      List.sum_cons, List.sum_nil, hattempts] at hleft ⊢
    omega
  | @conclude waiting before j after =>
    have hj : j.attempt ≤ 3 := hbounds j (by simp)
    simp only [stepsLeft, List.map_append, List.sum_append, List.map_cons, List.sum_cons,
      hattempts]
    omega

/-- No step puts the end off. -/
theorem Move.latest_le (h : Move f now p st made q st') :
    q.latest now.timer ≤ p.latest now.timer := by
  cases h with
  | hit =>
    simp only [latest, List.length_cons, Nat.mul_add]
    omega
  | miss =>
    simp only [latest, List.length_cons, Nat.mul_add, List.map_append, List.sum_append,
      List.map_cons, List.map_nil, List.sum_cons, List.sum_nil]
    omega
  | @retry waiting before j after finished st a web _ _ hleft =>
    have hpatience := Job.patience_of_lt hleft
    simp only [latest, List.map_append, List.sum_append, List.map_cons, List.map_nil,
      List.sum_cons, List.sum_nil]
    omega
  | conclude =>
    simp only [latest, List.map_append, List.sum_append, List.map_cons, List.sum_cons]
    omega

/-! ## Waiting -/

theorem sum_due_le {now time : Nat} (h : now ≤ time) (js : List Job) :
    (js.map fun j => (j.due - time) + Job.patience j.attempt).sum ≤
      (js.map fun j => (j.due - now) + Job.patience j.attempt).sum := by
  induction js with
  | nil => exact Nat.le_refl _
  | cons j js ih =>
    rw [List.map_cons, List.sum_cons, List.map_cons, List.sum_cons]
    omega

/-- To wait for what is due does not put the end off. -/
theorem latest_mono {now time : Nat} (h : now ≤ time)
    (hdue : ∀ j ∈ p.running, time ≤ max now j.due) (hidle : p.running = [] → time = now) :
    p.latest time ≤ p.latest now := by
  rw [latest, latest]
  rcases hrunning : p.running with _ | ⟨j, js⟩
  · rw [hidle hrunning]
  · -- the first of the lists in work is nearer to its call by the time that has gone by
    have hj := hdue j (by rw [hrunning]; exact List.mem_cons_self ..)
    have hrest := sum_due_le h js
    rw [List.map_cons, List.sum_cons, List.map_cons, List.sum_cons]
    omega

theorem le_latest (p : Pass) (now : Nat) : now ≤ p.latest now := by
  rw [latest]
  omega

theorem due_of_earliest? {js rest : List Job} {j : Job} (h : earliest? js = some (j, rest)) :
    ∀ k ∈ js, j.due ≤ k.due := by
  induction js generalizing j rest with
  | nil => cases h
  | cons i js ih =>
    intro k hk
    rw [earliest?] at h
    rcases hjs : earliest? js with _ | ⟨first, tail⟩
    · -- nothing comes after it
      rcases js with _ | ⟨i', js⟩
      · rw [List.mem_singleton.mp hk]
        cases h
        exact Nat.le_refl _
      · obtain ⟨first, tail, hsome⟩ := exists_earliest? (List.cons_ne_nil i' js)
        rw [hsome] at hjs
        cases hjs
    · have hfirst := ih hjs
      rw [hjs] at h
      dsimp only at h
      split at h
      · rename_i hle
        cases h
        rcases List.mem_cons.mp hk with rfl | hk
        · exact Nat.le_refl _
        · exact Nat.le_trans hle (hfirst k hk)
      · rename_i hlt
        cases h
        rcases List.mem_cons.mp hk with rfl | hk
        · exact Nat.le_of_lt (Nat.lt_of_not_le hlt)
        · exact hfirst k hk

/-- As long as a pass is not done, something is due: no later than any list in work, and at once if
there is none. -/
theorem exists_due? (h : p.isDone = false) (now : Nat) : ∃ time, p.due? f now = some time ∧
    now ≤ time ∧ (∀ j ∈ p.running, time ≤ max now j.due) ∧ (p.running = [] → time = now) := by
  rw [due?]
  by_cases hroom : (!p.waiting.isEmpty && decide (p.running.length < f.limit)) = true
  · rw [if_pos hroom]
    exact ⟨now, rfl, Nat.le_refl _, fun j _ => Nat.le_max_left _ _, fun _ => rfl⟩
  · rw [if_neg hroom]
    have hne : p.running ≠ [] := by
      intro hnil
      rw [isDone, hnil, List.isEmpty_nil, Bool.and_true] at h
      rw [h, hnil] at hroom
      have hlimit : 0 < f.limit := Nat.lt_of_lt_of_le Nat.zero_lt_one (Nat.le_max_right _ _)
      exact hroom (by simpa using hlimit)
    obtain ⟨j, rest, hj⟩ := exists_earliest? hne
    rw [hj]
    refine ⟨max now j.due, rfl, Nat.le_max_left _ _, fun k hk => ?_, fun hnil => absurd hnil hne⟩
    have := due_of_earliest? hj k hk
    omega

end Pass

end AdFilter
