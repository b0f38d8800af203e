import AdFilter.Engine.Basic
import AdFilter.Proofs.Url.Spelling
import Mathlib.Data.List.Find

/-!
# Spellings of an address and the engine

Whether an address is typed in capital letters or small ones, and with how much white space around
it, decides nothing (`Engine.respelling_spec`). Requests are judged by the address without the white
space. Navigations are looked through for certain words with it, and these words have none.
-/

namespace AdFilter

open Text

/-- Whether a text is another one with the case of some ASCII letters changed, and white space added
before and after. -/
def IsRespelling (u v : List Char) : Prop :=
  ∃ front core back, v = front ++ core ++ back ∧ lowerAscii core = lowerAscii u ∧
    (∀ c ∈ front, isBlank c = true) ∧ ∀ c ∈ back, isBlank c = true

theorem Request.ofText?_append_blanks {front back : List Char}
    (hfront : ∀ c ∈ front, isBlank c = true) (hback : ∀ c ∈ back, isBlank c = true)
    (cs : List Char) : ofText? (front ++ cs ++ back) = ofText? cs := by
  rw [ofText?, trim_append_blanks hfront hback, ofText?]

theorem popupIndicator?_lowerAscii (url : List Char) :
    popupIndicator? (lowerAscii url) = popupIndicator? url := by
  rw [popupIndicator?, lower_lowerAscii, popupIndicator?]

theorem popupIndicator?_append_blanks {front back : List Char}
    (hfront : ∀ c ∈ front, isBlank c = true) (hback : ∀ c ∈ back, isBlank c = true)
    (url : List Char) : popupIndicator? (front ++ url ++ back) = popupIndicator? url := by
  have hwords : ∀ i ∈ BuiltIn.popupIndicators, i ≠ [] ∧ ∀ c ∈ i, isBlank c = false := by
    decide
  rw [popupIndicator?, lower_append_blanks hfront hback, popupIndicator?]
  refine List.find?_congr fun i hi => ?_
  rw [Bool.eq_iff_iff, occursIn_iff, occursIn_iff]
  exact infix_append_blanks hfront hback (hwords i hi).1 (hwords i hi).2 _

section

variable {u v : List Char}

theorem IsRespelling.ofText?_eq (h : IsRespelling u v) :
    Request.ofText? v = Request.ofText? u := by
  obtain ⟨front, core, back, rfl, hcase, hfront, hback⟩ := h
  rw [Request.ofText?_append_blanks hfront hback, ← Request.ofText?_lowerAscii, hcase,
    Request.ofText?_lowerAscii]

theorem IsRespelling.popupIndicator?_eq (h : IsRespelling u v) :
    popupIndicator? v = popupIndicator? u := by
  obtain ⟨front, core, back, rfl, hcase, hfront, hback⟩ := h
  rw [popupIndicator?_append_blanks hfront hback, ← popupIndicator?_lowerAscii, hcase,
    popupIndicator?_lowerAscii]

namespace Engine

variable (e : Engine)

theorem reason?_eq_of_respelling (h : IsRespelling u v) : e.reason? v = e.reason? u := by
  rw [reason?, h.ofText?_eq, reason?]

/-- An address spelt in another way is the same request, and is judged in the same way by whatever
engine at whatever time, be it as a request or as a navigation, and for the same reason. -/
theorem respelling_spec (h : IsRespelling u v) :
    Request.ofText? v = Request.ofText? u ∧
      (∀ now, (e.check now v).1 = (e.check now u).1) ∧
      (e.navigate v).1 = (e.navigate u).1 := by
  have hreason := e.reason?_eq_of_respelling h
  refine ⟨h.ofText?_eq, fun now => ?_, ?_⟩
  · have hdecide : e.decide? now v = e.decide? now u := by
      rw [decide?, hreason, decide?]
    exact hdecide
  · have hverdict : e.verdict v = e.verdict u := by
      rw [verdict, hreason, h.popupIndicator?_eq, verdict]
    exact hverdict

/-- An address in capital letters with an ideographic space in front. -/
theorem respelling_spec_of_capitals :
    let e := Engine.build { sources := [] } {}
    let u := "https://ad.doubleclick.net/x".toList
    let v := "\u3000HTTPS://AD.DoubleClick.Net/X\n".toList
    IsRespelling u v ∧ (e.check 0 v).1 = (e.check 0 u).1 ∧ (e.navigate v).1 = (e.navigate u).1 ∧
      (e.check 0 u).1 = some (.criticalDomain "doubleclick.net".toList) := by
  intro e u v
  have h : IsRespelling u v :=
    ⟨"\u3000".toList, "HTTPS://AD.DoubleClick.Net/X".toList, "\n".toList, by decide,
      by decide, by decide, by decide⟩
  obtain ⟨-, hcheck, hnavigate⟩ := respelling_spec e h
  exact ⟨h, hcheck 0, hnavigate, by decide +kernel⟩

end Engine

end

end AdFilter
