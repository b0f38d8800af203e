import AdFilter.Proofs.Fetch.Texts

/-!
# Lists are isolated

What becomes of a list in a pass does not hang on the other lists: it is settled by its own file in
the cache and by what its own calls are answered (`Fetcher.fate`, `Pass.Run.isSound`). For that, the
lists must have files of their own (`Fetcher.IsApart`), and neither the making of the folder nor the
time that goes by in the pass may change what is found in the cache (`Files.IsSettled`,
`Fetcher.IsSteady`).
-/

namespace AdFilter

open Text

/-! ## Files of one's own -/

namespace Fetcher

variable {f : Fetcher} {s t : Source}

/-- Whether the lists of a fetcher have plain names and files of their own in the cache. -/
structure IsApart (f : Fetcher) : Prop where
  isPlain : ∀ s ∈ f.sources, '/' ∉ s.name
  nodup_paths : (f.sources.map f.cachePath).Nodup
  nodup_temporary : (f.sources.map fun s => Cache.temporary (f.cachePath s)).Nodup

/-- The name of the file of a list in the cache. -/
def leaf (s : Source) : List Char := s.name ++ ".txt".toList

/-- Where the file of a list is. -/
def place (f : Fetcher) (files : Files) (s : Source) : Place := files.placeOf f.folder ++ [leaf s]

/-- Where the file is that is written first for that of a list. -/
def temporaryPlace (f : Fetcher) (files : Files) (s : Source) : Place :=
  files.placeOf f.folder ++ [Cache.temporaryName (leaf s)]

theorem suffix_leaf (s : Source) : ".txt".toList <:+ leaf s := List.suffix_append _ _

theorem isLeaf_leaf (h : '/' ∉ s.name) : Files.IsLeaf (leaf s) := by
  refine Cache.isLeaf_of_suffix ?_ (suffix_leaf s) (by decide)
  rw [leaf, List.mem_append, not_or]
  exact ⟨h, by decide⟩

theorem placeOf_cachePath (files : Files) (h : '/' ∉ s.name) :
    files.placeOf (f.cachePath s) = f.place files s :=
  Files.aim_pathIn f.folder (isLeaf_leaf h)

theorem temporary_cachePath (h : '/' ∉ s.name) : Cache.temporary (f.cachePath s) =
    Cache.pathIn f.folder (Cache.temporaryName (leaf s)) :=
  Cache.temporary_pathIn f.folder (isLeaf_leaf h).not_mem

/-- Where no name has a slash in it, and none comes twice, every list has a file of its own. -/
theorem nodup_places (files : Files) (hplain : ∀ s ∈ f.sources, '/' ∉ s.name)
    (hnames : (f.sources.map (·.name)).Nodup) :
    (f.sources.map fun s => files.placeOf (f.cachePath s)).Nodup := by
  refine List.Nodup.map_on (fun s hs t ht hplace => ?_) (hnames.of_map _)
  rw [placeOf_cachePath files (hplain s hs), placeOf_cachePath files (hplain t ht)] at hplace
  have hleaf := List.singleton_inj.mp (List.append_cancel_left hplace)
  exact List.inj_on_of_nodup_map hnames hs ht (List.append_cancel_right hleaf)

theorem place_congr (f : Fetcher) {files files' : Files} (h : files'.home = files.home)
    (s : Source) :
    f.place files' s = f.place files s ∧ f.temporaryPlace files' s = f.temporaryPlace files s := by
  rw [place, place, temporaryPlace, temporaryPlace, Files.placeOf_congr h]
  exact ⟨rfl, rfl⟩

namespace IsApart

theorem nodup_sources (h : f.IsApart) : f.sources.Nodup := h.nodup_paths.of_map _

theorem nodup_names (h : f.IsApart) : (f.sources.map (·.name)).Nodup := by
  have hpaths : f.sources.map f.cachePath = (f.sources.map (·.name)).map (Cache.path f.folder) := by
    rw [List.map_map]
    rfl
  refine List.Nodup.of_map (Cache.path f.folder) ?_
  rw [← hpaths]
  exact h.nodup_paths

/-- Different lists have different files, before and after they are renamed. -/
theorem leaf_ne (h : f.IsApart) (hs : s ∈ f.sources) (ht : t ∈ f.sources) (hne : s ≠ t) :
    leaf s ≠ leaf t ∧ Cache.temporaryName (leaf s) ≠ Cache.temporaryName (leaf t) := by
  constructor
  · intro heq
    refine hne (List.inj_on_of_nodup_map h.nodup_paths hs ht ?_)
    exact congrArg (Cache.pathIn f.folder) heq
  · intro heq
    refine hne (List.inj_on_of_nodup_map h.nodup_temporary hs ht ?_)
    rw [temporary_cachePath (h.isPlain s hs), temporary_cachePath (h.isPlain t ht), heq]

theorem nodup_places (h : f.IsApart) (files : Files) :
    (f.sources.map fun s => files.placeOf (f.cachePath s)).Nodup :=
  Fetcher.nodup_places files h.isPlain h.nodup_names

end IsApart

end Fetcher

namespace Fetcher

variable {f : Fetcher} {files : Files} {s : Source}

/-! ## A list by itself -/

/-- The text of the file of a list, if it is young enough. -/
def freshText? (f : Fetcher) (files : Files) (date : Int) (s : Source) : Option (List Char) :=
  if Cache.needsRefresh files date (f.cachePath s) then none
  else files.readText? (f.cachePath s)

/-- Whether what is young enough in the cache at one date is so at others. -/
def IsSteady (f : Fetcher) (files : Files) (dates : Int → Prop) (date : Int) : Prop :=
  ∀ d, dates d → ∀ s ∈ f.sources, f.freshText? files d s = f.freshText? files date s

/-- Whether the lists of a fetcher cannot get in each other's way: they have files of their own, and
neither the making of the folder nor the time that goes by changes what is found there. -/
structure IsOrderly (f : Fetcher) (files : Files) (dates : Int → Prop) (date : Int) : Prop where
  isApart : f.IsApart
  isTree : files.IsTree
  isSettled : files.IsSettled f.folder
  isSteady : f.IsSteady files dates date

/-- What becomes of a list by itself, given its file and what its calls are answered. -/
def fate (f : Fetcher) (files : Files) (date : Int) (s : Source) (answers : List Answer) : Yield :=
  match f.freshText? files date s with
  | some text => ⟨.cached, some text⟩
  | none =>
    match answers.getLast? with
    | some a => Pass.conclude (files.readText? (f.cachePath s)) a
    | none => ⟨.failed, none⟩

/-- Whether the file of a list is replaced when the list is come by in some way. -/
def isReplaced (f : Fetcher) (files : Files) (s : Source) (y : Yield) : Bool :=
  decide (y.outcome = .downloaded) && Cache.isWritable files f.folder (leaf s)

theorem fate_of_fresh {date : Int} {text : List Char} (h : f.freshText? files date s = some text)
    (answers : List Answer) : f.fate files date s answers = ⟨.cached, some text⟩ := by
  rw [fate, h]

theorem fate_of_last {date : Int} (h : f.freshText? files date s = none) (init : List Answer)
    (last : Answer) : f.fate files date s (init ++ [last]) =
      Pass.conclude (files.readText? (f.cachePath s)) last := by
  rw [fate, h]
  dsimp only
  rw [List.getLast?_concat]

end Fetcher

namespace Pass

variable {f : Fetcher} {now : Moment} {p q : Pass} {st st' st₀ : Stock} {dates : Int → Prop}
  {log log' made : Log} {s t : Source} {x : SourceStatus} {date : Int} {files files' : Files}

/-- Whether some answers end the work on a list with the last of them, and not before. -/
def IsHearing (answers : List Answer) : Prop :=
  ∃ init last, answers = init ++ [last] ∧ (∀ a ∈ init, retries a = true) ∧
    init.length < Fetcher.attempts ∧
    (retries last = true → init.length + 1 = Fetcher.attempts)

/-- Whether the file of a list, and the one beside it, are as they were. -/
structure Untouched (f : Fetcher) (files files' : Files) (s : Source) : Prop where
  get?_place : files'.get? (f.place files s) = files.get? (f.place files s)
  get?_temporary : files'.get? (f.temporaryPlace files s) = files.get? (f.temporaryPlace files s)

/-- What is known of a list that is done with, given its file before the pass and its calls. -/
structure IsDone (f : Fetcher) (files : Files) (date : Int) (answers : List Answer) (files' : Files)
    (x : SourceStatus) : Prop where
  answers_eq : (f.freshText? files date x.source).isSome = true → answers = []
  isHearing : f.freshText? files date x.source = none → IsHearing answers
  outcome_eq : x.outcome = some (f.fate files date x.source answers).outcome
  counts_eq : x.counts = (f.fate files date x.source answers).counts
  updated_eq : f.isReplaced files x.source (f.fate files date x.source answers) = false →
    x.updated = files.modified? (f.cachePath x.source)
  get?_eq : f.isReplaced files x.source (f.fate files date x.source answers) = false →
    files'.get? (f.place files x.source) = files.get? (f.place files x.source)
  get?_replaced : f.isReplaced files x.source (f.fate files date x.source answers) = true →
    ∃ text t, (f.fate files date x.source answers).text? = some text ∧
      files'.get? (f.place files x.source) = some (.file (.text text) t)

/-- What is known of a list at some point of a pass, given its file before the pass. -/
structure IsSound (f : Fetcher) (files : Files) (date : Int) (log : Log) (p : Pass)
    (files' : Files) (s : Source) : Prop where
  waiting : s ∈ p.waiting → heard log s = [] ∧ Untouched f files files' s
  running : ∀ j ∈ p.running, j.source = s → f.freshText? files date s = none ∧
    (∀ a ∈ heard log s, retries a = true) ∧ (heard log s).length + 1 = j.attempt ∧
    Untouched f files files' s
  finished : ∀ x ∈ p.finished, x.source = s → IsDone f files date (heard log s) files' x

/-! ## One list moves -/

theorem not_mem_sources_iff : s ∉ p.sources ↔ s ∉ p.waiting ∧ (∀ j ∈ p.running, j.source ≠ s) ∧
    ∀ x ∈ p.finished, x.source ≠ s := by
  simp only [sources, List.mem_append, List.mem_map, not_or, not_exists, not_and, and_assoc, ne_eq]

/-- A list that is taken out of those in work is nowhere else. -/
theorem not_mem_of_running {waiting : List Source} {before after : List Job} {j : Job}
    {finished : List SourceStatus}
    (h : (⟨waiting, before ++ j :: after, finished⟩ : Pass).sources.Nodup) :
    j.source ∉ (⟨waiting, before ++ after, finished⟩ : Pass).sources := by
  have hperm : (⟨waiting, before ++ j :: after, finished⟩ : Pass).sources.Perm
      (j.source :: (⟨waiting, before ++ after, finished⟩ : Pass).sources) := by
    rw [List.perm_iff_count]
    intro s
    simp only [sources, List.map_append, List.map_cons, List.count_append, List.count_cons]
    omega
  exact (List.nodup_cons.mp (hperm.nodup_iff.mp h)).1

/-- What is of another kind than the last element is one of those before it. -/
theorem mem_of_mem_concat {α β : Type} {g : α → β} {xs : List α} {y z : α} {b : β}
    (hz : z ∈ xs ++ [y]) (hb : g z = b) (hy : g y ≠ b) : z ∈ xs := by
  rcases List.mem_append.mp hz with hz | hz
  · exact hz
  · rw [List.mem_singleton.mp hz] at hb
    exact absurd hb hy

theorem isSound_of_goesOn {waiting : List Source} {running : List Job}
    {finished : List SourceStatus} {attempt due : Nat}
    (hrest : s ∉ (⟨waiting, running, finished⟩ : Pass).sources)
    (hfresh : f.freshText? files date s = none)
    (hretries : ∀ a ∈ heard log s, retries a = true)
    (hattempt : (heard log s).length + 1 = attempt) (huntouched : Untouched f files files' s) :
    IsSound f files date log ⟨waiting, running ++ [⟨s, attempt, due⟩], finished⟩ files' s := by
  obtain ⟨hwaiting, hrunning, hfinished⟩ := not_mem_sources_iff.mp hrest
  refine ⟨fun h => absurd h hwaiting, fun k hk hsource => ?_, fun x hx hsource =>
    absurd hsource (hfinished x hx)⟩
  rcases List.mem_append.mp hk with hk | hk
  · exact absurd hsource (hrunning k hk)
  · rw [List.mem_singleton.mp hk]
    exact ⟨hfresh, hretries, hattempt, huntouched⟩

theorem isSound_of_ends {waiting : List Source} {running : List Job}
    {finished : List SourceStatus} (hrest : s ∉ (⟨waiting, running, finished⟩ : Pass).sources)
    (hdone : IsDone f files date (heard log s) files' x) :
    IsSound f files date log ⟨waiting, running, finished ++ [x]⟩ files' s := by
  obtain ⟨hwaiting, hrunning, hfinished⟩ := not_mem_sources_iff.mp hrest
  refine ⟨fun h => absurd h hwaiting, fun k hk hsource => absurd hsource (hrunning k hk),
    fun y hy hsource => ?_⟩
  rcases List.mem_append.mp hy with hy | hy
  · exact absurd hsource (hfinished y hy)
  · rw [List.mem_singleton.mp hy]
    exact hdone

/-- A list is left alone when another one moves. -/
theorem IsSound.frame (h : IsSound f files date log p files' s) {files'' : Files}
    (hheard : heard log' s = heard log s) (hwaiting : s ∈ q.waiting → s ∈ p.waiting)
    (hrunning : ∀ j ∈ q.running, j.source = s → j ∈ p.running)
    (hfinished : ∀ x ∈ q.finished, x.source = s → x ∈ p.finished)
    (hplace : files''.get? (f.place files s) = files'.get? (f.place files s))
    (htemporary : files''.get? (f.temporaryPlace files s) =
      files'.get? (f.temporaryPlace files s)) :
    IsSound f files date log' q files'' s := by
  have huntouched : Untouched f files files' s → Untouched f files files'' s := fun hold =>
    ⟨hplace.trans hold.get?_place, htemporary.trans hold.get?_temporary⟩
  refine ⟨fun hs => ?_, fun j hj hsource => ?_, fun x hx hsource => ?_⟩
  · obtain ⟨hnone, hold⟩ := h.waiting (hwaiting hs)
    exact ⟨hheard.trans hnone, huntouched hold⟩
  · obtain ⟨hfresh, hretries, hattempt, hold⟩ := h.running j (hrunning j hj hsource) hsource
    rw [hheard]
    exact ⟨hfresh, hretries, hattempt, huntouched hold⟩
  · have hdone := h.finished x (hfinished x hx hsource) hsource
    rw [hheard]
    subst hsource
    refine ⟨hdone.answers_eq, hdone.isHearing, hdone.outcome_eq, hdone.counts_eq, hdone.updated_eq,
      fun hkept => hplace.trans (hdone.get?_eq hkept), fun hnew => ?_⟩
    obtain ⟨text, t, htext, hget⟩ := hdone.get?_replaced hnew
    exact ⟨text, t, htext, hplace.trans hget⟩

/-! ## What is found in the cache -/

/-- What is read for a list does not change as long as its file does not. -/
theorem stat?_cachePath (hplain : '/' ∉ s.name) (hf : files.IsTree)
    (hgrows : files.Grows files' (files.IsIn f.folder)) (hsettled : files.IsSettled f.folder)
    (hget : files'.get? (f.place files s) = files.get? (f.place files s)) :
    files'.stat? (f.cachePath s) = files.stat? (f.cachePath s) :=
  Files.stat?_pathIn_congr hf hgrows hsettled (Fetcher.isLeaf_leaf hplain) hget

theorem readText?_congr {path : List Char} (h : files'.stat? path = files.stat? path) :
    files'.readText? path = files.readText? path := by
  rw [Files.readText?, Files.readText?, h]

theorem modified?_congr {path : List Char} (h : files'.stat? path = files.stat? path) :
    files'.modified? path = files.modified? path := by
  rw [Files.modified?, Files.modified?, h]

theorem freshText?_congr (h : files'.stat? (f.cachePath s) = files.stat? (f.cachePath s)) :
    f.freshText? files' date s = f.freshText? files date s := by
  rw [Fetcher.freshText?, Fetcher.freshText?, Cache.needsRefresh, Cache.needsRefresh,
    modified?_congr h, readText?_congr h]

end Pass

namespace Fetcher

variable {f : Fetcher} {files files' : Files} {s : Source} {changed : Place → Prop}

theorem freshText?_eq (f : Fetcher) (files : Files) (date : Int) (s : Source) :
    f.freshText? files date s = (files.locate? (f.cachePath s)).bind fun p =>
      (files.fileAt? p).bind fun e =>
        if Cache.staleAfter < date - e.2 then none else e.1.text? := by
  rw [freshText?, Cache.needsRefresh, Files.modified?, Files.readText?, Files.stat?,
    Option.bind_eq_bind]
  rcases files.locate? (f.cachePath s) with _ | p
  · rfl
  · rw [Option.bind_some, Option.bind_some, Files.fileAt?]
    rcases files.get? p with _ | ⟨c, t⟩ | t
    · rfl
    · simp [FileEntry.modified]
    · simp

/-- What is read for a list is settled by its file, whatever else is made beside it. -/
theorem reads_congr (hplain : '/' ∉ s.name) (hf : files.IsTree)
    (hgrows : files.Grows files' changed) (hsettled : files.IsSettled f.folder)
    (hfile : files'.fileAt? (f.place files s) = files.fileAt? (f.place files s)) :
    files'.readText? (f.cachePath s) = files.readText? (f.cachePath s) ∧
      ∀ date, f.freshText? files' date s = f.freshText? files date s := by
  have hbind : ∀ {α : Type} (g : Contents × Int → Option α),
      ((files'.locate? (f.cachePath s)).bind fun p => (files'.fileAt? p).bind g) =
        (files.locate? (f.cachePath s)).bind fun p => (files.fileAt? p).bind g := by
    intro α g
    refine Files.bind_locate?_congr hf hgrows hsettled (isLeaf_leaf hplain)
      (congrArg (Option.bind · g) hfile) fun hnone => ?_
    rw [Files.fileAt?, hnone]
    rfl
  rw [Files.readText?_eq, Files.readText?_eq]
  refine ⟨hbind _, fun date => ?_⟩
  rw [freshText?_eq, freshText?_eq]
  exact hbind _

/-- What becomes of a list by itself is settled by its file. -/
theorem fate_congr (hplain : '/' ∉ s.name) (hf : files.IsTree)
    (hgrows : files.Grows files' changed) (hsettled : files.IsSettled f.folder)
    (hfile : files'.fileAt? (f.place files s) = files.fileAt? (f.place files s)) (date : Int)
    (answers : List Answer) : f.fate files' date s answers = f.fate files date s answers := by
  obtain ⟨hread, hfresh⟩ := reads_congr hplain hf hgrows hsettled hfile
  rw [fate, fate, hfresh, hread]

theorem IsOrderly.of_grows {dates : Int → Prop} {date : Int} (h : f.IsOrderly files dates date)
    (hgrows : files.Grows files' changed)
    (hfiles : ∀ s ∈ f.sources, files'.fileAt? (f.place files s) = files.fileAt? (f.place files s)) :
    f.IsOrderly files' dates date := by
  refine ⟨h.isApart, hgrows.isTree, h.isSettled.of_grows hgrows, fun d hd s hs => ?_⟩
  obtain ⟨-, hfresh⟩ :=
    reads_congr (h.isApart.isPlain s hs) h.isTree hgrows h.isSettled (hfiles s hs)
  rw [hfresh, hfresh]
  exact h.isSteady d hd s hs

end Fetcher

namespace Pass

variable {f : Fetcher} {now : Moment} {p q : Pass} {st st' st₀ : Stock} {dates : Int → Prop}
  {log log' made : Log} {s t : Source} {x : SourceStatus} {date : Int} {files files' : Files}

/-- A pass over lists with plain names changes files in the folder of the cache only. -/
theorem Run.grows_isIn (hplain : ∀ s ∈ f.sources, '/' ∉ s.name) (hf : st₀.files.IsTree)
    (h : Run f dates st₀ log p st) : st₀.files.Grows st.files (st₀.files.IsIn f.folder) := by
  refine (h.grows hf).mono ?_
  rintro r (⟨s, hs, hr⟩ | ⟨x, -, hsource, -, hr⟩)
  · rw [Fetcher.temporary_cachePath (hplain s hs), Files.aim_pathIn f.folder
      (Cache.isLeaf_temporaryName (Fetcher.isLeaf_leaf (hplain s hs)).not_mem)] at hr
    exact ⟨_, hr⟩
  · rw [Fetcher.placeOf_cachePath _ (hplain _ hsource)] at hr
    exact ⟨_, hr⟩

/-- A new text for a list leaves the files of the others as they are. -/
theorem get?_filesAfter_of_ne (hap : f.IsApart) (hf : files.IsTree)
    (hsettled : files.IsSettled f.folder) (hs : s ∈ f.sources) (ht : t ∈ f.sources) (hne : t ≠ s)
    (now : Moment) (a : Answer) :
    (filesAfter f now s files a).get? (f.place files t) = files.get? (f.place files t) ∧
      (filesAfter f now s files a).get? (f.temporaryPlace files t) =
        files.get? (f.temporaryPlace files t) := by
  rcases a with e | text
  · exact ⟨rfl, rfl⟩
  · obtain ⟨hleaf, htemporary⟩ := hap.leaf_ne ht hs hne
    have hstore : (Cache.store files now.wall f.folder (f.cachePath s) text).1 =
      filesAfter f now s files (.ok text) := rfl
    obtain ⟨-, hothers⟩ := Cache.get?_store hf hsettled (Fetcher.isLeaf_leaf (hap.isPlain s hs))
      (Cache.temporaryName_ne (Fetcher.suffix_leaf s)) hstore
    exact ⟨hothers _ hleaf (Cache.temporaryName_ne (Fetcher.suffix_leaf t)).symm,
      hothers _ (Cache.temporaryName_ne (Fetcher.suffix_leaf s)) htemporary⟩

/-- A new text for a list is in its file then, if the file can be replaced. -/
theorem get?_filesAfter_self (hplain : '/' ∉ s.name) (hf : files.IsTree)
    (hsettled : files.IsSettled f.folder) (now : Moment) (text : List Char) :
    (filesAfter f now s files (.ok text)).get? (f.place files s) =
      if Cache.isWritable files f.folder (Fetcher.leaf s) then some (.file (.text text) now.wall)
      else files.get? (f.place files s) := by
  have hstore : (Cache.store files now.wall f.folder (f.cachePath s) text).1 =
    filesAfter f now s files (.ok text) := rfl
  exact (Cache.get?_store hf hsettled (Fetcher.isLeaf_leaf hplain)
    (Cache.temporaryName_ne (Fetcher.suffix_leaf s)) hstore).1

/-! ## All lists -/

/-- Where a list is taken into work, its file is as it was, and so is what is read there. -/
theorem beginText?_eq (hsteady : f.IsSteady st₀.files dates date) (hdate : dates now.wall)
    (hs : s ∈ f.sources)
    (hstat : st.files.stat? (f.cachePath s) = st₀.files.stat? (f.cachePath s)) :
    beginText? f now s st = f.freshText? st₀.files date s := by
  have hthen : beginText? f now s st = f.freshText? st.files now.wall s := rfl
  rw [hthen, freshText?_congr hstat, hsteady _ hdate s hs]

/-- What is known of a list that was had from the cache. -/
theorem isDone_of_hit {text : List Char} (hfresh : f.freshText? files date s = some text)
    (huntouched : Untouched f files files' s)
    (hstat : files'.stat? (f.cachePath s) = files.stat? (f.cachePath s)) :
    IsDone f files date [] files' (Yield.status ⟨.cached, some text⟩ f s files') where
  answers_eq _ := rfl
  isHearing hnone := by
    have hnone : f.freshText? files date s = none := hnone
    rw [hfresh] at hnone
    cases hnone
  outcome_eq := congrArg (fun y : Yield => some y.outcome) (Fetcher.fate_of_fresh hfresh []).symm
  counts_eq := congrArg Yield.counts (Fetcher.fate_of_fresh hfresh []).symm
  updated_eq _ := modified?_congr hstat
  get?_eq _ := huntouched.get?_place
  get?_replaced h := by
    have h : f.isReplaced files s (f.fate files date s []) = true := h
    rw [Fetcher.fate_of_fresh hfresh] at h
    cases h

/-- What is known of a list whose last call has been answered. -/
theorem isDone_of_last (hplain : '/' ∉ s.name) (hf : files.IsTree)
    (hsettled : files.IsSettled f.folder) (hgrows : files.Grows files' (files.IsIn f.folder))
    (hfresh : f.freshText? files date s = none) (hold : Untouched f files files' s)
    {answers : List Answer} {a : Answer} (hhearing : IsHearing (answers ++ [a]))
    (hafter : files.Grows (filesAfter f now s files' a) (files.IsIn f.folder)) :
    IsDone f files date (answers ++ [a]) (filesAfter f now s files' a)
      ((conclude (files'.readText? (f.cachePath s)) a).status f s
        (filesAfter f now s files' a)) := by
  have hstat := stat?_cachePath hplain hf hgrows hsettled hold.get?_place
  have hfate : f.fate files date s (answers ++ [a]) =
      conclude (files'.readText? (f.cachePath s)) a := by
    rw [Fetcher.fate_of_last hfresh, readText?_congr hstat]
  have hplace := (Fetcher.place_congr f hgrows.home_eq s).1
  have hwritable : Cache.isWritable files' f.folder (Fetcher.leaf s) =
      Cache.isWritable files f.folder (Fetcher.leaf s) :=
    Cache.isWritable_congr hf hgrows hsettled hold.get?_temporary hold.get?_place
  have hkept : f.isReplaced files s (f.fate files date s (answers ++ [a])) = false →
      (filesAfter f now s files' a).get? (f.place files s) = files.get? (f.place files s) := by
    rw [hfate]
    intro h
    rcases a with e | text
    · exact hold.get?_place
    · have hfalse : Cache.isWritable files f.folder (Fetcher.leaf s) = false := h
      have hown := get?_filesAfter_self hplain hgrows.isTree (hsettled.of_grows hgrows) now text
      rw [hwritable, hfalse, if_neg Bool.false_ne_true, hplace] at hown
      exact hown.trans hold.get?_place
  refine ⟨fun hsome => ?_, fun _ => hhearing, ?_, ?_, fun h => ?_, hkept, fun h => ?_⟩
  · have hsome : (f.freshText? files date s).isSome = true := hsome
    rw [hfresh] at hsome
    cases hsome
  · exact congrArg (fun y : Yield => some y.outcome) hfate.symm
  · exact congrArg Yield.counts hfate.symm
  · exact modified?_congr (stat?_cachePath hplain hf hafter hsettled (hkept h))
  · have h : f.isReplaced files s (f.fate files date s (answers ++ [a])) = true := h
    rw [hfate] at h
    rcases a with e | text
    · -- without a new text the outcome is another
      rcases hheld : files'.readText? (f.cachePath s) with _ | text
      · rw [hheld] at h
        cases h
      · rw [hheld] at h
        cases h
    · have htrue : Cache.isWritable files f.folder (Fetcher.leaf s) = true := h
      have hown := get?_filesAfter_self hplain hgrows.isTree (hsettled.of_grows hgrows) now text
      rw [hwritable, htrue, if_pos rfl, hplace] at hown
      exact ⟨text, now.wall, congrArg Yield.text? hfate, hown⟩

/-- A list that is taken into work has had no calls yet. -/
theorem IsSound.miss (h : IsSound f files date log p files' s) (hs : s ∈ p.waiting)
    (hfresh : f.freshText? files date s = none) {waiting : List Source} {running : List Job}
    {finished : List SourceStatus} {due : Nat}
    (hrest : s ∉ (⟨waiting, running, finished⟩ : Pass).sources) :
    IsSound f files date log ⟨waiting, running ++ [⟨s, 1, due⟩], finished⟩ files' s := by
  obtain ⟨hheard, hold⟩ := h.waiting hs
  refine isSound_of_goesOn hrest hfresh ?_ ?_ hold
  · rw [hheard]
    intro a ha
    cases ha
  · rw [hheard]
    rfl

/-- A list that is to be called once more has had one call more. -/
theorem IsSound.retry {j : Job} (h : IsSound f files date log p files' j.source)
    (hj : j ∈ p.running) {a : Answer} (hretries : retries a = true) {waiting : List Source}
    {running : List Job} {finished : List SourceStatus} {due : Nat}
    (hrest : j.source ∉ (⟨waiting, running, finished⟩ : Pass).sources) :
    IsSound f files date (log ++ [(j.source, a)])
      ⟨waiting, running ++ [⟨j.source, j.attempt + 1, due⟩], finished⟩ files' j.source := by
  obtain ⟨hfresh, hall, hattempt, hold⟩ := h.running j hj rfl
  refine isSound_of_goesOn hrest hfresh ?_ ?_ hold
  · rw [heard_concat_self]
    intro b hb
    rcases List.mem_append.mp hb with hb | hb
    · exact hall b hb
    · rw [List.mem_singleton.mp hb]
      exact hretries
  · rw [heard_concat_self, List.length_append, List.length_singleton, hattempt]

/-- In a pass each list is as its own file and its own calls have it. -/
theorem Run.isSound (horderly : f.IsOrderly st₀.files dates date)
    (h : Run f dates st₀ log p st) :
    ∀ s ∈ f.sources, IsSound f st₀.files date log p st.files s := by
  obtain ⟨hap, hf, hsettled, hsteady⟩ := horderly
  induction h with
  | start =>
    intro s _
    refine ⟨fun _ => ⟨rfl, rfl, rfl⟩, fun j hj => ?_, fun x hx => ?_⟩
    · cases hj
    · cases hx
  | @move now log made p q st st' hrun hdate hmove ih =>
    have hnodup := hrun.nodup_sources hap.nodup_sources
    have hgrows := hrun.grows_isIn hap.isPlain hf
    have hafter := (hrun.move hdate hmove).grows_isIn hap.isPlain hf
    have hstat : ∀ s ∈ f.sources, Untouched f st₀.files st.files s →
        st.files.stat? (f.cachePath s) = st₀.files.stat? (f.cachePath s) := fun s hs hold =>
      stat?_cachePath (hap.isPlain s hs) hf hgrows hsettled hold.get?_place
    intro t ht
    -- either the list is the one that moves, or it is left alone
    cases hmove with
    | @hit s waiting running finished st text _ htext =>
      rw [List.append_nil]
      by_cases hst : s = t
      · subst hst
        obtain ⟨hheard, hold⟩ := (ih s ht).waiting (List.mem_cons_self ..)
        rw [beginText?_eq hsteady hdate ht (hstat s ht hold)] at htext
        have hdone := isDone_of_hit htext hold (hstat s ht hold)
        rw [← hheard] at hdone
        exact isSound_of_ends (List.nodup_cons.mp hnodup).1 hdone
      · exact (ih t ht).frame rfl (List.mem_cons_of_mem _) (fun _ hj _ => hj)
          (fun x hx hsource => mem_of_mem_concat hx hsource hst) rfl rfl
    | @miss s waiting running finished st _ htext =>
      rw [List.append_nil]
      by_cases hst : s = t
      · subst hst
        obtain ⟨-, hold⟩ := (ih s ht).waiting (List.mem_cons_self ..)
        rw [beginText?_eq hsteady hdate ht (hstat s ht hold)] at htext
        exact (ih s ht).miss (List.mem_cons_self ..) htext (List.nodup_cons.mp hnodup).1
      · exact (ih t ht).frame rfl (List.mem_cons_of_mem _)
          (fun j hj hsource => mem_of_mem_concat hj hsource hst) (fun _ hx _ => hx) rfl rfl
    | @retry waiting before j after finished st a web _ hretries _ =>
      by_cases hst : j.source = t
      · subst hst
        exact (ih _ ht).retry (by simp) hretries (not_mem_of_running hnodup)
      · exact (ih t ht).frame (heard_concat_of_ne log hst a) id
          (fun k hk hsource => subset_of_running _ _ _ (mem_of_mem_concat hk hsource hst))
          (fun _ hx _ => hx) rfl rfl
    | @conclude waiting before j after finished st a web files y _ hlast hfiles hyield =>
      have hj : j ∈ before ++ j :: after := by simp
      by_cases hst : j.source = t
      · subst hst
        obtain ⟨hfresh, hall, hattempt, hold⟩ := (ih _ ht).running j hj rfl
        obtain ⟨-, hmost⟩ := hrun.isOf.attempt_bounds j hj
        refine isSound_of_ends (not_mem_of_running hnodup) ?_
        rw [heard_concat_self, ← hyield, ← hfiles]
        rw [← hfiles] at hafter
        refine isDone_of_last (hap.isPlain _ ht) hf hsettled hgrows hfresh hold
          ⟨heard log j.source, a, rfl, hall, ?_, fun ha => ?_⟩ hafter
        · omega
        · exact Nat.le_antisymm (hattempt ▸ hmost) (hattempt ▸ hlast ha)
      · obtain ⟨hplace, htemporary⟩ := get?_filesAfter_of_ne hap hgrows.isTree
          (hsettled.of_grows hgrows) (hrun.mem_sources_of_running hj) ht (Ne.symm hst) now a
        rw [hfiles, (Fetcher.place_congr f hgrows.home_eq t).1] at hplace
        rw [hfiles, (Fetcher.place_congr f hgrows.home_eq t).2] at htemporary
        exact (ih t ht).frame (heard_concat_of_ne log hst a) id
          (fun k hk _ => subset_of_running _ _ _ hk)
          (fun x hx hsource => mem_of_mem_concat hx hsource hst) hplace htemporary

/-- The text that a list brought in is the one that is settled by its own file and its own calls. -/
theorem textOf_eq (hdone : IsDone f files date (heard log x.source) files' x) :
    textOf f files log x = (f.fate files date x.source (heard log x.source)).text? := by
  have hheld : ∀ text, files.readText? (f.cachePath x.source) = some text →
      (files.fileAt? (files.placeOf (f.cachePath x.source))).bind (·.1.text?) = some text :=
    fun text => fileText_of_readText?
  rw [textOf, hdone.outcome_eq]
  rcases hfresh : f.freshText? files date x.source with _ | text
  · obtain ⟨init, last, hheard, -⟩ := hdone.isHearing hfresh
    rw [hheard, Fetcher.fate_of_last hfresh, List.getLast?_concat]
    rcases last with e | text
    · rcases hread : files.readText? (f.cachePath x.source) with _ | text
      · rfl
      · exact hheld text hread
    · rfl
  · rw [Fetcher.fate_of_fresh hfresh]
    rw [Fetcher.freshText?, Option.ite_none_left_eq_some] at hfresh
    exact hheld text hfresh.2

end Pass

end AdFilter
