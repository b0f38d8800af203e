import AdFilter.Proofs.Files.Folder

/-!
# The files of the cache

A file of the cache is replaced by way of a file beside it, whose name no file of the cache has
(`Cache.placeOf_temporary_ne`); no other file is changed (`Cache.store_grows`). In a settled folder
it is known beforehand whether that works out (`Cache.isWritable`, `Cache.get?_store`).
-/

namespace AdFilter

open Text Files

namespace Cache

/-! ## Names -/

/-- The name of the file beside another that is written first. -/
def temporaryName (leaf : List Char) : List Char := stem leaf ++ ".txt.tmp".toList

theorem stem_prefix_self (name : List Char) : stem name <+: name := by
  rw [stem]
  split
  · exact List.prefix_refl _
  · exact (List.dropLast_prefix _).trans (dropEndWhile_prefix_self _ name)

theorem stem_append_txt {tail : List Char} : stem (tail ++ ".txt".toList) =
    if tail = [] then ".txt".toList else tail := by
  have hdrop : (tail ++ ".txt".toList).reverse.dropWhile (· != '.') = '.' :: tail.reverse := by
    rw [List.reverse_append]
    rfl
  have hstem : ((tail ++ ".txt".toList).reverse.dropWhile (· != '.')).reverse.dropLast = tail := by
    rw [hdrop, List.reverse_cons, List.reverse_reverse, List.dropLast_concat]
  rw [stem, hstem]
  by_cases htail : tail = []
  · rw [if_pos (List.isEmpty_iff.mpr htail), if_pos htail, htail]
    rfl
  · rw [if_neg fun h => htail (List.isEmpty_iff.mp h), if_neg htail]

theorem isLeaf_of_suffix {leaf ending : List Char} (h : '/' ∉ leaf) (hend : ending <:+ leaf)
    (hlen : 2 < ending.length) : IsLeaf leaf :=
  ⟨h, ofName_of_lt_length (Nat.lt_of_lt_of_le hlen hend.length_le)⟩

theorem isLeaf_temporaryName {leaf : List Char} (h : '/' ∉ leaf) :
    IsLeaf (temporaryName leaf) := by
  refine isLeaf_of_suffix ?_ (List.suffix_append _ _) (by decide)
  rw [temporaryName, List.mem_append, not_or]
  exact ⟨fun hmem => h ((stem_prefix_self leaf).subset hmem), by decide⟩

theorem lastName_append {front name : List Char} (hfront : IsFront front) (hname : '/' ∉ name) :
    lastName (front ++ name) = name := by
  have hall : ∀ c ∈ name.reverse, (c != '/') = true := by
    intro c hc
    rw [bne_iff_ne]
    rintro rfl
    exact hname (List.mem_reverse.mp hc)
  have hnone : front.reverse.takeWhile (· != '/') = [] := by
    rcases hfront with rfl | ⟨up, rfl⟩
    · rfl
    · rw [List.reverse_append]
      rfl
  rw [lastName, List.reverse_append, List.takeWhile_append_of_pos hall, hnone, List.append_nil,
    List.reverse_reverse]

/-- The file beside another has the same in front of its name. -/
theorem temporary_append {front name : List Char} (hfront : IsFront front) (hname : '/' ∉ name) :
    temporary (front ++ name) = front ++ temporaryName name := by
  rw [temporary, lastName_append hfront hname, List.length_append, Nat.add_sub_cancel,
    List.take_left, temporaryName, List.append_assoc]

/-- What stands in front of a name in a folder does not hang on the name. -/
theorem exists_front_pathIn (folder : List Char) {front : List Char} (hfront : IsFront front) :
    ∃ up, IsFront up ∧ ∀ leaf, '/' ∉ leaf → pathIn folder (front ++ leaf) = up ++ leaf := by
  have habsolute : ∀ leaf, '/' ∉ leaf → isAbsolute (front ++ leaf) = isAbsolute front := by
    intro leaf hleaf
    rcases front with _ | ⟨c, front⟩
    · exact isAbsolute_of_not_mem hleaf
    · rfl
  -- behind the folder the front is one as well
  have hbehind : ∀ before, IsFront before → IsFront (before ++ front) := by
    intro before hbefore
    rcases hfront with rfl | ⟨up, rfl⟩
    · rwa [List.append_nil]
    · exact Or.inr ⟨before ++ up, (List.append_assoc ..).symm⟩
  by_cases hself : (isAbsolute front || folder.isEmpty) = true
  · refine ⟨front, hfront, fun leaf hleaf => ?_⟩
    rw [pathIn, habsolute leaf hleaf, if_pos hself]
  · by_cases hslash : folder.getLast? = some '/'
    · refine ⟨folder ++ front, hbehind folder (Or.inr ?_), fun leaf hleaf => ?_⟩
      · obtain ⟨up, hup⟩ := List.getLast?_eq_some_iff.mp hslash
        exact ⟨up, hup⟩
      · rw [pathIn, habsolute leaf hleaf, if_neg hself, if_pos hslash, List.append_assoc]
    · refine ⟨folder ++ ['/'] ++ front, hbehind _ (Or.inr ⟨folder, rfl⟩), fun leaf hleaf => ?_⟩
      rw [pathIn, habsolute leaf hleaf, if_neg hself, if_neg hslash, List.append_assoc,
        List.append_assoc]
      rfl

theorem temporary_pathIn {leaf : List Char} (folder : List Char) (h : '/' ∉ leaf) :
    temporary (pathIn folder leaf) = pathIn folder (temporaryName leaf) := by
  obtain ⟨front, hfront, hpath⟩ := exists_front_pathIn folder (Or.inl rfl)
  have hleaf : pathIn folder leaf = front ++ leaf := hpath leaf h
  have htemporary : pathIn folder (temporaryName leaf) = front ++ temporaryName leaf :=
    hpath _ (isLeaf_temporaryName h).not_mem
  rw [hleaf, htemporary, temporary_append hfront h]

/-- The path of a file of the cache ends in a name for such files. -/
theorem exists_name_path (folder name : List Char) : ∃ front leaf,
    path folder name = front ++ leaf ∧
    IsFront front ∧ '/' ∉ leaf ∧ ".txt".toList <:+ leaf := by
  have hend : ".txt".toList <:+ path folder name := by
    rw [path, pathIn]
    split
    · exact List.suffix_append _ _
    · split
      · exact (List.suffix_append _ _).trans (List.suffix_append _ _)
      · exact ((List.suffix_append _ _).trans (List.suffix_cons _ _)).trans
          (List.suffix_append _ _)
  obtain ⟨front, leaf, hpath, hfront, hleaf⟩ := exists_front (path folder name)
  refine ⟨front, leaf, hpath, hfront, hleaf, ?_⟩
  rw [hpath] at hend
  rcases List.suffix_or_suffix_of_suffix hend (List.suffix_append front leaf) with h | h
  · exact h
  · -- a longer ending would take in the slash
    obtain ⟨rest, hrest⟩ := h
    obtain ⟨before, hbefore⟩ := hend
    rw [← hrest, ← List.append_assoc] at hbefore
    have hfrontEq := List.append_cancel_right hbefore
    rcases List.eq_nil_or_concat rest with rfl | ⟨init, c, rfl⟩
    · rw [← hrest]
      exact List.suffix_refl _
    · rw [List.concat_eq_append] at hrest hfrontEq
      rcases hfront with rfl | ⟨up, rfl⟩
      · simp at hfrontEq
      · rw [← List.append_assoc] at hfrontEq
        have hc := (List.append_inj_right' hfrontEq rfl)
        have hmem : '/' ∈ ".txt".toList := by
          rw [← hrest, hc]
          simp
        exact absurd hmem (by decide)

/-- No name for a file of the cache is that of a file that is written first. -/
theorem temporaryName_ne {leaf other : List Char} (h : ".txt".toList <:+ other) :
    temporaryName leaf ≠ other := by
  obtain ⟨init, rfl⟩ := h
  intro heq
  -- the names differ in their last letters
  have hletters := congrArg List.getLast? heq
  rw [temporaryName, List.getLast?_append, List.getLast?_append] at hletters
  have hdiffer : some 'p' = some 't' := hletters
  exact absurd hdiffer (by decide)

/-- No file of the cache is the one that is written first for another. -/
theorem placeOf_temporary_ne (f : Files) (folder name other : List Char) :
    f.placeOf (temporary (path folder name)) ≠ f.placeOf (path folder other) := by
  obtain ⟨front, leaf, hpath, hfront, hleaf, -⟩ := exists_name_path folder name
  obtain ⟨front', leaf', hpath', hfront', hleaf', hend'⟩ := exists_name_path folder other
  intro heq
  have hlast := congrArg List.getLast? heq
  rw [hpath, temporary_append hfront hleaf, hpath',
    getLast?_placeOf hfront (isLeaf_temporaryName hleaf),
    getLast?_placeOf hfront' (isLeaf_of_suffix hleaf' hend' (by decide))] at hlast
  exact temporaryName_ne hend' (Option.some.inj hlast)

/-! ## Replacing a file -/

variable {f g : Files} {folder leaf : List Char} {now : Int}

/-- How far a replacement gets: to the folder, to the file beside, or to the end. -/
theorem store_cases {path text : List Char} {ok : Bool}
    (h : store f now folder path text = (g, ok)) :
    (ok = false ∧ g = (f.makeFolders now folder).1 ∧ ((f.makeFolders now folder).2 = true →
      g.write? now (temporary path) (.text text) = none)) ∨
    ∃ written, (f.makeFolders now folder).2 = true ∧
      (f.makeFolders now folder).1.write? now (temporary path) (.text text) = some written ∧
      ((ok = false ∧ g = written ∧ written.rename? now (temporary path) path = none) ∨
        (ok = true ∧ written.rename? now (temporary path) path = some g)) := by
  rcases hmade : f.makeFolders now folder with ⟨made, done⟩
  rw [store, hmade] at h
  rcases done with _ | _
  · cases h
    exact Or.inl ⟨rfl, rfl, fun hdone => absurd hdone Bool.false_ne_true⟩
  · dsimp only at h
    rcases hwrite : made.write? now (temporary path) (.text text) with _ | written
    · rw [hwrite] at h
      cases h
      exact Or.inl ⟨rfl, rfl, fun _ => hwrite⟩
    · rw [hwrite] at h
      dsimp only at h
      refine Or.inr ⟨written, rfl, rfl, ?_⟩
      rcases hrename : written.rename? now (temporary path) path with _ | renamed
      · rw [hrename] at h
        cases h
        exact Or.inl ⟨rfl, rfl, rfl⟩
      · rw [hrename] at h
        cases h
        exact Or.inr ⟨rfl, rfl⟩

/-- To replace a file of the cache changes no file but that one and the one beside it. -/
theorem store_grows (hf : f.IsTree) (path text : List Char) :
    f.Grows (store f now folder path text).1
      (fun p => p = f.placeOf (temporary path) ∨ p = f.placeOf path) := by
  have hmade : f.Grows (f.makeFolders now folder).1
      (fun p => p = f.placeOf (temporary path) ∨ p = f.placeOf path) :=
    (makeFolders_grows hf now folder).1.mono fun _ h => h.elim
  rcases hg : store f now folder path text with ⟨g, ok⟩
  rcases store_cases hg with ⟨-, hg, -⟩ | ⟨written, -, hwrite, hrename⟩
  · rw [hg]
    exact hmade
  · have hwritten := (write?_grows hmade.isTree hwrite).1
    rw [placeOf_congr hmade.home_eq] at hwritten
    have hboth := hmade.trans (hwritten.mono fun _ h => Or.inl h)
    rcases hrename with ⟨-, hg, -⟩ | ⟨-, hrename⟩
    · rw [hg]
      exact hboth
    · have hrenamed := (rename?_grows hwritten.isTree hrename).1
      rw [placeOf_congr hboth.home_eq, placeOf_congr hboth.home_eq] at hrenamed
      exact hboth.trans hrenamed

/-- Once a file is replaced, its path leads to the new text, of that date. -/
theorem stat?_store (hf : f.IsTree) {path text : List Char}
    (h : (store f now folder path text).2 = true) :
    (store f now folder path text).1.stat? path = some (.file (.text text) now) := by
  obtain ⟨hmade, -⟩ := makeFolders_grows hf now folder
  rcases hg : store f now folder path text with ⟨g, ok⟩
  rw [hg] at h
  rcases store_cases hg with ⟨hok, -⟩ | ⟨written, -, hwrite, ⟨hok, -⟩ | ⟨-, hrename⟩⟩
  · rw [hok] at h
    cases h
  · rw [hok] at h
    cases h
  · obtain ⟨hwritten, p, hp, hget, -⟩ := write?_grows hmade.isTree hwrite
    obtain ⟨hrenamed, p', q, hp', hq, hmoved, -⟩ := rename?_grows hwritten.isTree hrename
    -- what was written is what is moved
    rw [locate?_mono hwritten.home_eq hwritten.isFolder hp] at hp'
    cases hp'
    rw [stat?, locate?_mono hrenamed.home_eq hrenamed.isFolder hq]
    exact hmoved.trans hget

/-- Whether a file of the cache can be replaced. -/
def isWritable (f : Files) (folder leaf : List Char) : Bool :=
  !folder.contains '\x00' && f.isClear (f.startOf folder) (steps folder) &&
    f.fits folder (temporaryName leaf) && f.fits folder leaf

theorem isWritable_congr (hf : f.IsTree) (hfg : f.Grows g (f.IsIn folder))
    (hfolder : f.IsSettled folder)
    (htemporary : g.get? (f.placeOf folder ++ [temporaryName leaf]) =
      f.get? (f.placeOf folder ++ [temporaryName leaf]))
    (hget : g.get? (f.placeOf folder ++ [leaf]) = f.get? (f.placeOf folder ++ [leaf])) :
    isWritable g folder leaf = isWritable f folder leaf := by
  rw [isWritable, isWritable, isClear_congr_of_isIn hf hfg hfolder,
    fits_congr hfg.home_eq htemporary, fits_congr hfg.home_eq hget]

/-- A file of the cache that can be replaced holds the new text then, and nothing else in the folder
is changed, but for the file beside it. -/
theorem get?_store (hf : f.IsTree) (hfolder : f.IsSettled folder) (hleaf : IsLeaf leaf)
    (hne : temporaryName leaf ≠ leaf) {text : List Char}
    (hg : (store f now folder (pathIn folder leaf) text).1 = g) :
    (g.get? (f.placeOf folder ++ [leaf]) = if isWritable f folder leaf then
      some (.file (.text text) now) else f.get? (f.placeOf folder ++ [leaf])) ∧
    ∀ other, other ≠ leaf → other ≠ temporaryName leaf →
      g.get? (f.placeOf folder ++ [other]) = f.get? (f.placeOf folder ++ [other]) := by
  have htemp := isLeaf_temporaryName hleaf.not_mem
  -- to make the folder changes nothing in it
  obtain ⟨hgrows, hdone⟩ := makeFolders_grows hf now folder
  have henter : (f.makeFolders now folder).2 = true →
      (f.makeFolders now folder).1.enter? folder = some (f.placeOf folder) := enter?_makeFolders hf
  have hsame : ∀ name, (f.makeFolders now folder).1.get? (f.placeOf folder ++ [name]) =
      f.get? (f.placeOf folder ++ [name]) := fun name => get?_makeFolders hfolder now ⟨name, rfl⟩
  have hcases := store_cases (Prod.ext hg rfl)
  rw [temporary_pathIn folder hleaf.not_mem] at hcases
  rw [isWritable, ← hdone]
  generalize f.makeFolders now folder = m at hgrows henter hsame hcases ⊢
  obtain ⟨made, ok⟩ := m
  dsimp only at hgrows henter hsame hcases ⊢
  have hfits : ∀ name, f.fits folder name = made.fits folder name := fun name =>
    (fits_congr hgrows.home_eq (hsame name)).symm
  have hplace := placeOf_congr hgrows.home_eq folder
  rw [hfits, hfits]
  rcases hcases with ⟨-, rfl, hnone⟩ | ⟨written, hok, hwrite, hrename⟩
  · have hfails : (ok && g.fits folder (temporaryName leaf)) = false := by
      rcases ok with _ | _
      · rfl
      · exact fits_of_write?_eq_none (henter rfl) htemp (hnone rfl)
    rw [hfails, Bool.false_and, if_neg Bool.false_ne_true]
    exact ⟨hsame leaf, fun other _ _ => hsame other⟩
  · obtain ⟨hfitsTemp, hwritten, hrest⟩ := fits_of_write? hgrows.isTree htemp hwrite
    have hwgrows := (write?_grows hgrows.isTree hwrite).1
    rw [hplace] at hwritten hrest
    rw [hok, hfitsTemp, Bool.true_and, Bool.true_and]
    have hsameLeaf := (hrest leaf hne.symm).trans (hsame leaf)
    have hwplace := (placeOf_congr hwgrows.home_eq folder).trans hplace
    have hfitsLeaf : written.fits folder leaf = made.fits folder leaf := by
      refine fits_congr hwgrows.home_eq ?_
      rw [hplace]
      exact hrest leaf hne.symm
    rw [← hfitsLeaf]
    rcases hrename with ⟨-, rfl, hnone⟩ | ⟨-, hrename⟩
    · have hname := (Bool.and_eq_true_iff.mp hfitsTemp).1
      rw [← hwplace] at hwritten
      rw [fits_of_rename?_eq_none (enter?_mono hwgrows (henter hok)) htemp hleaf hname hwritten
        hnone,
        if_neg Bool.false_ne_true]
      exact ⟨hsameLeaf, fun other _ hother => (hrest other hother).trans (hsame other)⟩
    · obtain ⟨hfits', hmoved, hothers⟩ := fits_of_rename? hwgrows.isTree htemp hleaf hrename
      rw [hwplace] at hmoved hothers
      rw [hfits', if_pos rfl]
      refine ⟨hmoved.trans hwritten, fun other hother hother' => ?_⟩
      exact (hothers other hother' hother).trans ((hrest other hother').trans (hsame other))

end Cache

end AdFilter
