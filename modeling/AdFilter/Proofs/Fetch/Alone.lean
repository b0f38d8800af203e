import AdFilter.Proofs.Fetch.Location

/-!
# Lists that are alone with their files

If no other list has its file in the same place, nothing that becomes of the other lists changes the
file of a list (`Pass.Run.fileAt?_of_isAlone`). What is read of the file is then the same throughout
a pass, unless the folder that it is in can be reached only when something has been made that is
missing at first (`Fetcher.reads_of_way`).
-/

namespace AdFilter

/-- Whether no other list has its file in the cache where a list has it. -/
def Fetcher.IsAlone (f : Fetcher) (files : Files) (s : Source) : Prop :=
  (f.sources.map fun t => files.placeOf (f.cachePath t)).count (files.placeOf (f.cachePath s)) = 1

instance (f : Fetcher) (files : Files) (s : Source) : Decidable (f.IsAlone files s) :=
  inferInstanceAs (Decidable (_ = 1))

/-- Only one element has a value that occurs once among those of a list. -/
theorem eq_of_count_map_eq_one {α β : Type} [BEq β] [LawfulBEq β] {g : α → β} {xs : List α}
    {x y : α} (h : (xs.map g).count (g x) = 1) (hx : x ∈ xs) (hy : y ∈ xs) (hxy : g y = g x) :
    y = x := by
  obtain ⟨before, after, rfl⟩ := List.append_of_mem hx
  rw [List.map_append, List.map_cons, List.count_append, List.count_cons_self] at h
  have hbefore : g x ∉ before.map g := List.not_mem_of_count_eq_zero (by omega)
  have hafter : g x ∉ after.map g := List.not_mem_of_count_eq_zero (by omega)
  rw [List.mem_append, List.mem_cons] at hy
  rcases hy with hy | hy | hy
  · exact absurd (hxy ▸ List.mem_map_of_mem hy) hbefore
  · exact hy
  · exact absurd (hxy ▸ List.mem_map_of_mem hy) hafter

namespace Fetcher.IsAlone

variable {f : Fetcher} {files : Files}

theorem eq_source {s t : Source} (h : f.IsAlone files s) (hs : s ∈ f.sources) (ht : t ∈ f.sources)
    (hplace : files.placeOf (f.cachePath t) = files.placeOf (f.cachePath s)) : t = s :=
  eq_of_count_map_eq_one (g := fun t => files.placeOf (f.cachePath t)) h hs ht hplace

/-- A pass comes to know of such a list once. -/
theorem eq_status {p : Pass} {x y : SourceStatus} (h : f.IsAlone files x.source) (hof : p.IsOf f)
    (hdone : p.isDone = true) (hx : x ∈ p.finished) (hy : y ∈ p.finished)
    (hplace : files.placeOf (f.cachePath y.source) = files.placeOf (f.cachePath x.source)) :
    y = x := by
  refine eq_of_count_map_eq_one (g := fun z : SourceStatus => files.placeOf (f.cachePath z.source))
    ?_ hx hy hplace
  have hperm := (hof.finished_perm hdone).map fun t => files.placeOf (f.cachePath t)
  rw [List.map_map] at hperm
  exact (hperm.count_eq _).trans h

end Fetcher.IsAlone

namespace Fetcher

variable {f : Fetcher} {files files' : Files} {s : Source} {changed : Place → Prop}

/-- The path of the folder that the file of a list is in. -/
def way (f : Fetcher) (s : Source) : List Char := Cache.pathIn f.folder (Cache.front s.name)

/-- The file of a list is under a name in this folder. -/
theorem cachePath_eq (f : Fetcher) (s : Source) : f.cachePath s =
      Cache.pathIn (f.way s) (Cache.lastName s.name ++ ".txt".toList) ∧
    Files.IsLeaf (Cache.lastName s.name ++ ".txt".toList) := by
  obtain ⟨hname, hfront, htail⟩ := Cache.front_append_lastName s.name
  have hslash : '/' ∉ Cache.lastName s.name ++ ".txt".toList := by
    rw [List.mem_append, not_or]
    exact ⟨htail, by decide⟩
  have hleaf : Files.IsLeaf (Cache.lastName s.name ++ ".txt".toList) :=
    Cache.isLeaf_of_suffix hslash (List.suffix_append _ _) (by decide)
  refine ⟨?_, hleaf⟩
  obtain ⟨up, hup, hpath⟩ := Cache.exists_front_pathIn f.folder hfront
  have hway : f.way s = up := by
    have hself := hpath [] List.not_mem_nil
    rwa [List.append_nil, List.append_nil] at hself
  have hwhole : f.cachePath s = up ++ (Cache.lastName s.name ++ ".txt".toList) := by
    rw [← hpath _ hslash, ← List.append_assoc, hname]
    rfl
  rw [hwhole, hway, Cache.pathIn, Files.isAbsolute_of_not_mem hslash, Bool.false_or]
  rcases hup with rfl | ⟨path, rfl⟩
  · rfl
  · rw [List.isEmpty_eq_false_iff.mpr (by simp), if_neg Bool.false_ne_true, List.getLast?_concat,
      if_pos rfl]

/-- What is read for a list is settled by its file, whatever else is made, if that cannot change
where its path leads. -/
theorem reads_of_way (hf : files.IsTree) (hgrows : files.Grows files' changed)
    (hsettled : files.IsSettled (f.way s))
    (hfile : files'.fileAt? (files.placeOf (f.cachePath s)) =
      files.fileAt? (files.placeOf (f.cachePath s))) :
    files'.readText? (f.cachePath s) = files.readText? (f.cachePath s) ∧
      ∀ date, f.freshText? files' date s = f.freshText? files date s := by
  obtain ⟨hpath, hleaf⟩ := f.cachePath_eq s
  have hplace : files.placeOf (f.cachePath s) =
      files.placeOf (f.way s) ++ [Cache.lastName s.name ++ ".txt".toList] := by
    rw [hpath]
    exact Files.aim_pathIn _ hleaf
  rw [hplace] at hfile
  have hbind : ∀ {α : Type} (g : Contents × Int → Option α),
      ((files'.locate? (f.cachePath s)).bind fun p => (files'.fileAt? p).bind g) =
        (files.locate? (f.cachePath s)).bind fun p => (files.fileAt? p).bind g := by
    intro α g
    rw [hpath]
    refine Files.bind_locate?_congr hf hgrows hsettled hleaf
      (congrArg (Option.bind · g) hfile) fun hnone => ?_
    rw [Files.fileAt?, hnone]
    rfl
  rw [Files.readText?_eq, Files.readText?_eq]
  refine ⟨hbind _, fun date => ?_⟩
  rw [freshText?_eq, freshText?_eq]
  exact hbind _

/-- Such a list occurs once. -/
theorem IsAlone.place_ne (h : f.IsAlone files s) {before after : List Source}
    (hperm : (before ++ s :: after).Perm f.sources) {t : Source} (ht : t ∈ before ++ after) :
    files.placeOf (f.cachePath t) ≠ files.placeOf (f.cachePath s) := by
  intro hplace
  have hcount := (hperm.map fun t => files.placeOf (f.cachePath t)).count_eq
    (files.placeOf (f.cachePath s))
  rw [h, List.map_append, List.map_cons, List.count_append, List.count_cons_self] at hcount
  have hmem := List.count_pos_iff.mpr (List.mem_map_of_mem (f := fun t =>
    files.placeOf (f.cachePath t)) ht)
  rw [List.map_append, List.count_append, hplace] at hmem
  omega

end Fetcher

namespace Pass

variable {f : Fetcher} {p q : Pass} {st st' st₀ : Stock} {dates : Int → Prop} {log made : Log}
  {now : Moment} {s : Source}

/-- As long as such a list is not done with, its file is as it was. -/
theorem Run.fileAt?_of_isAlone (h : Run f dates st₀ log p st) (hf : st₀.files.IsTree)
    (halone : f.IsAlone st₀.files s)
    (hs : s ∈ p.waiting ∨ ∃ j ∈ p.running, j.source = s) :
    st.files.fileAt? (st₀.files.placeOf (f.cachePath s)) =
      st₀.files.fileAt? (st₀.files.placeOf (f.cachePath s)) := by
  refine (h.grows hf).fileAt?_eq ?_
  rintro (⟨t, -, ht⟩ | ⟨x, hx, -, -, hplace⟩)
  · exact Cache.placeOf_temporary_ne _ _ t.name s.name ht.symm
  · -- it would have to be the list itself
    have hperm := h.isOf.sources_perm
    have hmem : s ∈ p.waiting ++ p.running.map (·.source) := by
      rw [List.mem_append]
      refine hs.imp_right ?_
      rintro ⟨j, hj, rfl⟩
      exact List.mem_map_of_mem hj
    obtain ⟨before, after, hsplit⟩ := List.append_of_mem hmem
    rw [sources, hsplit, List.append_assoc, List.cons_append] at hperm
    refine halone.place_ne hperm ?_ hplace.symm
    exact List.mem_append_right _ (List.mem_append_right _ (List.mem_map_of_mem hx))

/-- What becomes of other lists leaves the file of such a list as it is. -/
theorem Move.fileAt?_of_isAlone (h : Move f now p st made q st') (hf : st.files.IsTree)
    (hp : p.IsOf f) (halone : f.IsAlone st.files s) (hs : s ∈ p.finished.map (·.source)) :
    ∃ changed, st.files.Grows st'.files changed ∧ ¬ changed (st.files.placeOf (f.cachePath s)) := by
  refine ⟨_, h.grows hf hp, ?_⟩
  rintro (⟨t, -, ht⟩ | ⟨x, hx, -, -, hplace⟩)
  · exact Cache.placeOf_temporary_ne _ _ t.name s.name ht.symm
  · have hperm := (h.isOf hp).sources_perm
    obtain ⟨before, after, hsplit⟩ := List.append_of_mem hs
    rw [sources, h.finished_eq, List.map_append, hsplit] at hperm
    have hwhole : ((q.waiting ++ q.running.map (·.source) ++ before) ++
        s :: (after ++ (p.ended q).map (·.source))).Perm f.sources := by
      simpa only [List.append_assoc, List.cons_append] using hperm
    refine halone.place_ne hwhole ?_ hplace.symm
    exact List.mem_append_right _ (List.mem_append_right _ (List.mem_map_of_mem hx))

end Pass

end AdFilter
