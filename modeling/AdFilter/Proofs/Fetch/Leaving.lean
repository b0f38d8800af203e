import AdFilter.Proofs.Fetch.Run
import AdFilter.Proofs.Rule.Representation

/-!
# How a pass leaves a list

When the work on a list ends, a pass has reported on it, and the file of the list in the cache is in
some state. `Leaving` keeps both. A list that was had from the cache, or downloaded and put there,
is *held*: its file then holds the text that was brought in (`Pass.Move.holds_of_isHeld`).
-/

namespace AdFilter

open Text

/-- How a pass leaves a list. -/
structure Leaving where
  status : SourceStatus
  /-- what the path of its file in the cache leads to then -/
  file : Option FileEntry
  /-- whether the text was put into the cache, if it was downloaded -/
  stored : Bool
deriving Repr, DecidableEq

namespace Leaving

/-- Whether the text of a list is in the cache for later passes. -/
def IsHeld (l : Leaving) : Prop :=
  l.status.outcome = some .cached ∨ (l.status.outcome = some .downloaded ∧ l.stored = true)

instance (l : Leaving) : Decidable l.IsHeld := inferInstanceAs (Decidable (_ ∨ _))

end Leaving

/-- The rules that a text gives, repeated ones counted. -/
def countsOf (text : List Char) : RuleSet.Counts := Yield.counts ⟨.cached, some text⟩

namespace Pass

variable {f : Fetcher} {now : Moment} {p q : Pass} {st st' : Stock} {made : Log}
  {x : SourceStatus}

/-- How a list is left that a step from some stock to another has reported on. -/
def leaving (f : Fetcher) (now : Moment) (st st' : Stock) (x : SourceStatus) : Leaving where
  status := x
  file := st'.files.stat? (f.cachePath x.source)
  stored := match (st.web.call now.timer x.source.url).1 with
    | .ok text => (Cache.store st.files now.wall f.folder (f.cachePath x.source) text).2
    | .error _ => false

/-- How a step leaves the lists on which it ends the work: one at most. -/
def leavings (f : Fetcher) (now : Moment) (p : Pass) (st : Stock) : List Leaving :=
  let next := p.step f now st
  (p.ended next.1).map (leaving f now st next.2)

theorem map_status_leavings (f : Fetcher) (now : Moment) (p : Pass) (st : Stock) :
    (p.leavings f now st).map (·.status) = p.ended (p.step f now st).1 := by
  rw [leavings, List.map_map]
  exact List.map_id _

/-- The text of a file that is read is all that is in it. -/
theorem exists_stat?_of_readText? {files : Files} {path text : List Char}
    (h : files.readText? path = some text) :
    ∃ modified, files.stat? path = some (.file (.text text) modified) := by
  rw [Files.readText?] at h
  rcases hstat : files.stat? path with _ | ⟨c | bytes, t⟩ | t
  · rw [hstat] at h
    cases h
  · rw [hstat] at h
    cases h
    exact ⟨t, rfl⟩
  · rw [hstat] at h
    cases h
  · rw [hstat] at h
    cases h

theorem modified?_of_stat? {files : Files} {path : List Char} {c : Contents} {modified : Int}
    (h : files.stat? path = some (.file c modified)) : files.modified? path = some modified := by
  rw [Files.modified?, h]
  rfl

/-- A step ends the work on no list, or on one: it is had from the cache, or an answer for it is the
last one. -/
theorem Move.ended_cases (h : Move f now p st made q st') :
    (p.ended q = [] ∧ q.isDone = false ∧ st'.files = st.files) ∨
    (∃ s text, p.ended q = [Yield.status ⟨.cached, some text⟩ f s st.files] ∧
      beginText? f now s st = some text ∧
      st' = { st with rules := withText st.rules (some text) }) ∨
    ∃ s a y, p.ended q = [Yield.status y f s st'.files] ∧
      (st.web.call now.timer s.url).1 = a ∧ filesAfter f now s st.files a = st'.files ∧
      Pass.conclude (st.files.readText? (f.cachePath s)) a = y ∧
      st'.rules = withText st.rules y.text? := by
  rw [ended]
  cases h with
  | hit _ htext => exact Or.inr (Or.inl ⟨_, _, List.drop_left, htext, rfl⟩)
  | miss => exact Or.inl ⟨List.drop_length, by simp [isDone], rfl⟩
  | retry => exact Or.inl ⟨List.drop_length, by simp [isDone], rfl⟩
  | conclude hcall _ hfiles hyield =>
    exact Or.inr (Or.inr ⟨_, _, _, List.drop_left, by rw [hcall], hfiles, hyield, rfl⟩)

/-- The last answer for a list is a text if the list counts as downloaded, and never has it count as
had from the cache. -/
theorem conclude_outcome (held : Option (List Char)) (a : Answer) :
    (conclude held a).outcome ≠ .cached ∧
      ((conclude held a).outcome = .downloaded → ∃ text, a = .ok text) := by
  rcases a with e | text
  · rcases held with _ | text
    · exact ⟨fun h => (by cases h), fun h => (by cases h)⟩
    · exact ⟨fun h => (by cases h), fun h => (by cases h)⟩
  · exact ⟨fun h => (by cases h), fun _ => ⟨text, rfl⟩⟩

/-- The file of a list that was downloaded and put into the cache holds the text, under the date of
the step. -/
theorem Move.stat?_of_downloaded (hf : st.files.IsTree) (h : Move f now p st made q st')
    (hx : x ∈ p.ended q) (hdownloaded : x.outcome = some .downloaded)
    (hstored : (leaving f now st st' x).stored = true) : ∃ text,
      st'.files.stat? (f.cachePath x.source) = some (.file (.text text) now.wall) ∧
      x.counts = countsOf text ∧ st'.rules = st.rules.change (.apply (FilterList.ofText text)) := by
  rcases h.ended_cases with ⟨hended, -⟩ | ⟨s, text, hended, -⟩ |
      ⟨s, a, y, hended, hcall, hfiles, hyield, hrules⟩ <;> rw [hended] at hx
  · cases hx
  · rw [List.mem_singleton.mp hx] at hdownloaded
    cases hdownloaded
  · obtain rfl := List.mem_singleton.mp hx
    subst hyield
    obtain ⟨text, rfl⟩ := (conclude_outcome _ a).2 (Option.some.inj hdownloaded)
    dsimp only [leaving, Yield.status] at hstored
    rw [hcall] at hstored
    refine ⟨text, ?_, rfl, hrules⟩
    rw [← hfiles]
    exact Cache.stat?_store hf hstored

/-- The file of a list that was had from the cache is young enough, and it is left as it is. -/
theorem Move.stat?_of_cached (h : Move f now p st made q st') (hx : x ∈ p.ended q)
    (hcached : x.outcome = some .cached) : ∃ text modified,
      st.files.stat? (f.cachePath x.source) = some (.file (.text text) modified) ∧
      now.wall - modified ≤ Cache.staleAfter ∧ st'.files = st.files ∧
      x.counts = countsOf text ∧ st'.rules = st.rules.change (.apply (FilterList.ofText text)) := by
  rcases h.ended_cases with ⟨hended, -⟩ | ⟨s, text, hended, htext, rfl⟩ |
      ⟨s, a, y, hended, -, -, hyield, -⟩ <;> rw [hended] at hx
  · cases hx
  · obtain rfl := List.mem_singleton.mp hx
    rw [beginText?, Option.ite_none_left_eq_some] at htext
    obtain ⟨hfresh, hread⟩ := htext
    obtain ⟨modified, hstat⟩ := exists_stat?_of_readText? hread
    rw [Cache.needsRefresh, modified?_of_stat? hstat] at hfresh
    exact ⟨text, modified, hstat, by simpa using hfresh, rfl, rfl, rfl⟩
  · rw [List.mem_singleton.mp hx, ← hyield] at hcached
    exact absurd (Option.some.inj hcached) (conclude_outcome _ a).1

/-- A list that is held was brought in with the text that its file then holds. -/
theorem Move.holds_of_isHeld (hf : st.files.IsTree) (h : Move f now p st made q st')
    (hx : x ∈ p.ended q) (hheld : (leaving f now st st' x).IsHeld) : ∃ text modified,
      st'.files.stat? (f.cachePath x.source) = some (.file (.text text) modified) ∧
      x.updated = some modified ∧ x.counts = countsOf text ∧
      st'.rules = st.rules.change (.apply (FilterList.ofText text)) := by
  have hupdated : ∀ m, st'.files.modified? (f.cachePath x.source) = some m →
      x.updated = some m := by
    intro m hm
    rcases h.ended_cases with ⟨hended, -⟩ | ⟨s, text, hended, -, rfl⟩ | ⟨s, a, y, hended, -⟩ <;>
      rw [hended] at hx
    · cases hx
    · rw [List.mem_singleton.mp hx] at hm ⊢
      exact hm
    · rw [List.mem_singleton.mp hx] at hm ⊢
      exact hm
  rcases hheld with hcached | ⟨hdownloaded, hstored⟩
  · obtain ⟨text, modified, hstat, -, hfiles, hcounts, hrules⟩ := h.stat?_of_cached hx hcached
    rw [← hfiles] at hstat
    exact ⟨text, modified, hstat, hupdated _ (modified?_of_stat? hstat), hcounts, hrules⟩
  · obtain ⟨text, hstat, hcounts, hrules⟩ := h.stat?_of_downloaded hf hx hdownloaded hstored
    exact ⟨text, now.wall, hstat, hupdated _ (modified?_of_stat? hstat), hcounts, hrules⟩

/-- The same for what a step of a pass that is under way does. -/
theorem holds_of_mem_leavings (hf : st.files.IsTree) (hdone : p.isDone = false) {l : Leaving}
    (hl : l ∈ p.leavings f now st) (hheld : l.IsHeld) : ∃ text modified,
      l.file = some (.file (.text text) modified) ∧ l.status.updated = some modified ∧
      l.status.counts = countsOf text ∧
      (p.step f now st).2.rules.Holds (FilterList.ofText text) := by
  obtain ⟨made, hmove⟩ := step_move hdone (f := f) now st
  obtain ⟨x, hx, rfl⟩ := List.mem_map.mp hl
  obtain ⟨text, modified, hstat, hupdated, hcounts, hrules⟩ := hmove.holds_of_isHeld hf hx hheld
  refine ⟨text, modified, hstat, hupdated, hcounts, ?_⟩
  rw [hrules]
  exact RuleSet.holds_change _ _

end Pass

end AdFilter
