import AdFilter.Fetch.Web
import Mathlib.Data.List.Basic
import Mathlib.Data.List.Range

/-!
# What the network will answer

For each address it is settled beforehand what the first, the second and every later call will be
answered (`Web.answer`). A call takes the first of these answers (`Web.answer_call`), and leaves
those for other addresses as they are.
-/

namespace AdFilter

namespace Web

variable {w : Web} {now : Nat} {url other : List Char}

/-- What the call after so many others for an address is answered. -/
def answer (w : Web) (url : List Char) (n : Nat) : Answer :=
  ((w.pending.lookup url).getD [])[n]?.getD (.error w.otherwise)

theorem takeFrom?_cons_of_ne {u : List Char} {as : List Answer}
    {pending : List (List Char × List Answer)} (h : u ≠ url) :
    takeFrom? url ((u, as) :: pending) =
      (takeFrom? url pending).map fun x => (x.1, (u, as) :: x.2) := by
  rcases as with _ | ⟨a, as⟩ <;> rw [takeFrom?, if_neg h]

/-- Where an answer is taken, it was the first of those still to come for the address. -/
theorem lookup_of_takeFrom? {pending rest : List (List Char × List Answer)} {a : Answer}
    (h : takeFrom? url pending = some (a, rest)) :
    ∃ as, pending.lookup url = some (a :: as) ∧ rest.lookup url = some as ∧
      ∀ other, other ≠ url → rest.lookup other = pending.lookup other := by
  induction pending generalizing rest with
  | nil => cases h
  | cons e pending ih =>
    obtain ⟨u, as⟩ := e
    by_cases hu : u = url
    · subst hu
      rcases as with _ | ⟨b, as⟩
      · rw [takeFrom?, if_pos rfl] at h
        cases h
      · rw [takeFrom?, if_pos rfl] at h
        cases h
        refine ⟨as, List.lookup_cons_self, List.lookup_cons_self, fun other hother => ?_⟩
        rw [List.lookup_cons, List.lookup_cons, beq_eq_false_iff_ne.mpr hother]
    · rw [takeFrom?_cons_of_ne hu] at h
      obtain ⟨⟨b, tail⟩, htail, hb⟩ := Option.map_eq_some_iff.mp h
      cases hb
      obtain ⟨as', hfirst, hrest, hothers⟩ := ih htail
      have hne : (url == u) = false := beq_eq_false_iff_ne.mpr (Ne.symm hu)
      refine ⟨as', ?_, ?_, fun other hother => ?_⟩
      · rw [List.lookup_cons, hne]
        exact hfirst
      · rw [List.lookup_cons, hne]
        exact hrest
      · rw [List.lookup_cons, List.lookup_cons, hothers other hother]

/-- Where none is taken, none is still to come. -/
theorem lookup_of_takeFrom?_eq_none {pending : List (List Char × List Answer)}
    (h : takeFrom? url pending = none) : (pending.lookup url).getD [] = [] := by
  induction pending with
  | nil => rfl
  | cons e pending ih =>
    obtain ⟨u, as⟩ := e
    by_cases hu : u = url
    · subst hu
      rw [List.lookup_cons_self]
      rcases as with _ | ⟨b, as⟩
      · rfl
      · rw [takeFrom?, if_pos rfl] at h
        cases h
    · rw [takeFrom?_cons_of_ne hu] at h
      rw [List.lookup_cons, beq_eq_false_iff_ne.mpr (Ne.symm hu)]
      exact ih (Option.map_eq_none_iff.mp h)

/-- A call is answered as was settled, and so are all later ones. -/
theorem answer_call (w : Web) (now : Nat) (url : List Char) :
    (w.call now url).1 = w.answer url 0 ∧
      (∀ n, (w.call now url).2.answer url n = w.answer url (n + 1)) ∧
      (∀ other n, other ≠ url → (w.call now url).2.answer other n = w.answer other n) ∧
      (w.call now url).2.calls = w.calls ++ [(now, url)] := by
  rw [call]
  dsimp only
  rcases h : takeFrom? url w.pending with _ | ⟨a, rest⟩
  · -- the answers have run out
    have hnone := lookup_of_takeFrom?_eq_none h
    refine ⟨?_, fun n => ?_, fun _ _ _ => rfl, rfl⟩
    · rw [answer, hnone]
      rfl
    · rw [answer, answer]
      dsimp only
      rw [hnone]
      rfl
  · obtain ⟨as, hfirst, hrest, hothers⟩ := lookup_of_takeFrom? h
    refine ⟨?_, fun n => ?_, fun other n hother => ?_, rfl⟩
    · rw [answer, hfirst]
      rfl
    · rw [answer, answer, hfirst]
      dsimp only
      rw [hrest]
      rfl
    · rw [answer, answer]
      dsimp only
      rw [hothers other hother]

end Web

end AdFilter
