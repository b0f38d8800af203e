import AdFilter.Proofs.Engine.Refresh
import AdFilter.Proofs.Fetch.Interleaving

/-!
# How many lists are in work at once

How many lists may be in work at once, and in which order they are given, decides when each of them
is come by, but not what becomes of it. `System.refresh_spec` says so of two refreshes that begin
with the same files, answers and rules. For that, what is found in the cache must not change as the
pass goes on for reasons that have nothing to do with the list itself: that its folder can be
reached only when another list has been stored, or that a file grows too old meanwhile
(`System.limit_shows`).
-/

namespace AdFilter

open Text

namespace System

variable {s : System}

/-- The same system with other settings for the lists. -/
def withFetcher (s : System) (f : Fetcher) : System :=
  { s with engine := { s.engine with fetcher := f } }

theorem IsRegular.withFetcher (hs : s.IsRegular) {f : Fetcher}
    (hsources : f.sources.Perm s.engine.fetcher.sources) : (s.withFetcher f).IsRegular := by
  have hpass : ∀ p : Pass, p.IsUnderWay s.engine.fetcher → p.IsUnderWay f := fun p hp =>
    ⟨⟨hp.isOf.sources_perm.trans hsources.symm, hp.isOf.attempt_bounds⟩, hp.isDone_eq⟩
  refine ⟨hs.isTree, fun p hp => hpass p (hs.pass p hp), fun sch hsch => ?_, hs.interval_pos⟩
  have hold := hs.scheduler sch hsch
  exact ⟨hold.period_pos, hold.next_le, fun p hp => hpass p (hold.pass p hp)⟩

/-- The lists of the engines that follow. -/
def twoLists : List Source :=
  [⟨"a".toList, "https://l.example/a".toList⟩, ⟨"b".toList, "https://l.example/b".toList⟩]

theorem isApart_twoLists {folder : List Char}
    (hfolder : folder = "c".toList ∨ folder = "x/../c".toList) (limit : Nat) :
    Fetcher.IsApart ⟨twoLists, folder, limit⟩ := by
  have hpaths : (twoLists.map fun s => Cache.path folder s.name).Nodup := by
    rcases hfolder with rfl | rfl <;> decide
  have htemporary : (twoLists.map fun s => Cache.temporary (Cache.path folder s.name)).Nodup := by
    rcases hfolder with rfl | rfl <;> decide
  have hplain : ∀ s ∈ twoLists, '/' ∉ s.name := by decide
  exact ⟨hplain, hpaths, htemporary⟩

/-- An engine with these lists, of which so many may be in work at once. -/
def fetching (folder : List Char) (limit : Nat) (files : Files) (answers : List Answer) : System :=
  (build {} files
    { pending := [("https://l.example/a".toList, answers),
        ("https://l.example/b".toList, [.ok "0.0.0.0 new.example.org".toList])]
      otherwise := .status 503 }
    { wall := fun t => t, steady := id }).withFetcher ⟨twoLists, folder, limit⟩

/-- Files with no overrides and an older text for the second list, of a given date. -/
def keeping (date : Int) : Files where
  entries := [(["adblocker_hosts.txt".toList], .file (.text []) 0), (["c".toList], .folder 0),
    (["c".toList, "b.txt".toList], .file (.text "0.0.0.0 old.example.org".toList) date)]

theorem isRegular_fetching (folder : List Char) (limit : Nat) (date : Int) (answers : List Answer) :
    (fetching folder limit (keeping date) answers).IsRegular := by
  refine ⟨Files.isTree_of_entries rfl fun e he => ?_, fun p hp => ?_, fun sch hsch => ?_,
    fun r hr => ?_⟩
  · have he : e ∈ (keeping date).entries := he
    simp only [keeping, List.mem_cons, List.not_mem_nil, or_false] at he
    rcases he with rfl | rfl | rfl <;> rfl
  · cases hp
  · cases hsch
  · cases hr

theorem isQuiet_fetching (folder : List Char) (limit : Nat) (files : Files)
    (answers : List Answer) : (fetching folder limit files answers).IsQuiet := by
  intro sch hsch
  cases hsch

/-- A text of today stays young enough. -/
theorem isOrderly_fetching (answers : List Answer) :
    let s := fetching "c".toList 1 (keeping 0) answers
    s.engine.fetcher.IsOrderly s.files s.passDates s.clock.date := by
  have hsettled : Files.Step.up ∉ Files.steps "c".toList := by decide
  refine ⟨isApart_twoLists (Or.inl rfl) 1, (isRegular_fetching "c".toList 1 0 answers).isTree,
    Or.inl hsettled, ?_⟩
  rintro date ⟨time, -, htime, hdate⟩ s hs
  have htimer : (fetching "c".toList 1 (keeping 0) answers).clock.timer = 0 := rfl
  have hlength : (fetching "c".toList 1 (keeping 0) answers).engine.fetcher.sources.length = 2 :=
    rfl
  have hjob : longestJob = 6000 := rfl
  rw [passEnd, htimer, hlength, hjob] at htime
  have hdate : (time : Int) = date := hdate
  have hs : s ∈ twoLists := hs
  simp only [twoLists, List.mem_cons, List.not_mem_nil, or_false] at hs
  rcases hs with rfl | rfl
  · rfl
  · have hfresh : ∀ d : Int, Fetcher.freshText? ⟨twoLists, "c".toList, 1⟩ (keeping 0) d
        ⟨"b".toList, "https://l.example/b".toList⟩ =
          if decide ((86400000 : Int) < d - 0) then none
          else some "0.0.0.0 old.example.org".toList := fun d => rfl
    have hage : decide ((86400000 : Int) < date - 0) = decide ((86400000 : Int) < 0 - 0) :=
      decide_eq_decide.mpr (by omega)
    have hnow : (fetching "c".toList 1 (keeping 0) answers).clock.date = 0 := rfl
    rw [hnow]
    exact (hfresh date).trans (hage ▸ (hfresh 0).symm)

end System

end AdFilter
