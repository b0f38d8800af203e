import AdFilter.Proofs.Fetch.Cache

/-!
# All or nothing

A file of the cache is replaced in three steps: the folder is made, the new text goes into a file
beside, and that file takes the name. Up to the second step nothing but folders is made, and after
the third all is done; but if a folder stands where the file should be, the third step fails, and
the file beside stays where it is, with the new text in it. `Cache.replacement_spec` says for every
path of the cache which of the three it is, and what each leaves behind.
-/

namespace AdFilter

open Text Files

namespace Files

variable {f g : Files} {p q : Place} {ss : List Step} {now : Int} {path : List Char}

/-! ## Which folders are made -/

/-- The places that some steps go down to. -/
def waypoints : Place → List Step → List Place
  | _, [] => []
  | p, .here :: rest => waypoints p rest
  | p, .up :: rest => waypoints p.dropLast rest
  | p, .down name :: rest => (p ++ [name]) :: waypoints (p ++ [name]) rest

/-- The folders that the path of a folder goes down to, the last of them being the folder
itself. -/
def wayTo (f : Files) (folder : List Char) : List Place :=
  waypoints (f.startOf folder) (steps folder)

theorem isFolder_put_of_ne (h : q ≠ p) (e : FileEntry) : (f.put p e).isFolder q = f.isFolder q :=
  isFolder_congr (get?_put_of_ne f h e)

/-- Only folders on the way are made. -/
theorem isFolder_of_makeAlong (h : (makeAlong now f p ss).1.isFolder q = true) :
    f.isFolder q = true ∨ q ∈ waypoints p ss := by
  induction ss generalizing f p with
  | nil => exact Or.inl h
  | cons s ss ih =>
    cases s with
    | here => exact ih h
    | up => exact ih h
    | down name =>
      rw [waypoints, List.mem_cons]
      rw [makeAlong] at h
      split at h
      · split at h
        · exact (ih h).imp_right Or.inr
        · exact Or.inl h
        · rcases ih h with hcreated | hway
          · by_cases hq : q = p ++ [name]
            · exact Or.inr (Or.inl hq)
            · rw [create, isFolder_touch, isFolder_put_of_ne hq] at hcreated
              exact Or.inl hcreated
          · exact Or.inr (Or.inr hway)
      · exact Or.inl h

theorem isFolder_of_makeFolders {folder : List Char}
    (h : (f.makeFolders now folder).1.isFolder q = true) :
    f.isFolder q = true ∨ q ∈ f.wayTo folder := by
  rw [makeFolders] at h
  split at h
  · exact Or.inl h
  · exact isFolder_of_makeAlong h

/-- To write a file makes no folder. -/
theorem isFolder_write? (hf : f.IsTree) {c : Contents} (h : f.write? now path c = some g)
    (q : Place) : g.isFolder q = f.isFolder q := by
  obtain ⟨hgrows, p, hp, hget, hrest⟩ := write?_grows hf h
  rw [Bool.eq_iff_iff]
  refine ⟨fun hq => ?_, hgrows.isFolder⟩
  by_cases hqp : q = p
  · rw [hqp, isFolder, hget] at hq
    cases hq
  · by_cases hup : q = p.dropLast
    · rw [hup]
      exact hf.isFolder_dropLast_of_locate? hp
    · rwa [isFolder_congr (hrest q hqp hup)] at hq

/-- To rename a file makes no folder. -/
theorem isFolder_rename? (hf : f.IsTree) {new : List Char} (h : f.rename? now path new = some g)
    (r : Place) : g.isFolder r = f.isFolder r := by
  obtain ⟨hgrows, p, q, hp, hq, hmoved, hgone, hrest⟩ := rename?_grows hf h
  obtain ⟨p', -, c, t, hp', -, hfile, -⟩ := rename?_eq_some_iff.mp h
  rw [hp] at hp'
  rw [← Option.some.inj hp'] at hfile
  rw [Bool.eq_iff_iff]
  refine ⟨fun hr => ?_, hgrows.isFolder⟩
  by_cases hrq : r = q
  · rw [hrq, isFolder, hmoved, hfile] at hr
    cases hr
  · by_cases hrp : r = p
    · rw [hrp, isFolder, hgone fun hpq => hrq (hrp.trans hpq)] at hr
      cases hr
    · by_cases hpup : r = p.dropLast
      · rw [hpup]
        exact hf.isFolder_dropLast_of_locate? hp
      · by_cases hqup : r = q.dropLast
        · rw [hqup]
          exact hf.isFolder_dropLast_of_locate? hq
        · rwa [isFolder_congr (hrest r hrp hrq hpup hqup)] at hr

/-! ## Names that are long enough -/

theorem utf8Length_append (cs ds : List Char) :
    utf8Length (cs ++ ds) = utf8Length cs + utf8Length ds := by
  induction cs with
  | nil => exact (Nat.zero_add _).symm
  | cons c cs ih => rw [List.cons_append, utf8Length, utf8Length, ih, Nat.add_assoc]

/-- What a name begins with is a name. -/
theorem isName_of_prefix {name longer : List Char} (h : name <+: longer)
    (hname : isName longer = true) : isName name = true := by
  obtain ⟨tail, rfl⟩ := h
  simp only [isName, utf8Length_append, Bool.and_eq_true, decide_eq_true_eq, Bool.not_eq_true',
    List.contains_eq_mem, decide_eq_false_iff_not, List.mem_append, not_or] at hname ⊢
  exact ⟨by omega, hname.2.1⟩

end Files

namespace Cache

variable {f g : Files} {folder leaf : List Char} {now : Int}

/-! ## The two names -/

/-- The name of the file beside begins with that of the file. -/
theorem prefix_temporaryName (h : ".txt".toList <:+ leaf) : leaf <+: temporaryName leaf := by
  obtain ⟨tail, rfl⟩ := h
  rw [temporaryName, stem_append_txt]
  split
  · rename_i htail
    rw [htail]
    exact List.prefix_append _ _
  · rw [show ".txt.tmp".toList = ".txt".toList ++ ".tmp".toList from rfl, ← List.append_assoc]
    exact List.prefix_append _ _

/-- What stands in front of a name can be taken for the folder. -/
theorem pathIn_front {front : List Char} (hfront : IsFront front) (hleaf : '/' ∉ leaf) :
    pathIn front leaf = front ++ leaf := by
  rw [pathIn, isAbsolute_of_not_mem hleaf, Bool.false_or]
  rcases hfront with rfl | ⟨up, rfl⟩
  · rfl
  · rw [List.isEmpty_eq_false_iff.mpr (by simp), if_neg Bool.false_ne_true, List.getLast?_concat,
      if_pos rfl]

/-- The path of a file of the cache leads to a name in some folder, and so does that of the file
beside. -/
theorem exists_front_path (folder name : List Char) : ∃ front leaf, IsLeaf leaf ∧
    ".txt".toList <:+ leaf ∧ path folder name = pathIn front leaf ∧
    temporary (path folder name) = pathIn front (temporaryName leaf) := by
  obtain ⟨front, leaf, hpath, hfront, hleaf, hend⟩ := exists_name_path folder name
  refine ⟨front, leaf, isLeaf_of_suffix hleaf hend (by decide), hend, ?_, ?_⟩
  · rw [hpath, pathIn_front hfront hleaf]
  · rw [hpath, temporary_append hfront hleaf,
      pathIn_front hfront (isLeaf_temporaryName hleaf).not_mem]

/-! ## Three ends -/

/-- Whether the file beside can be written once the folder of the cache is made: its path leads
somewhere, and no folder is there. -/
def CanBegin (f : Files) (now : Int) (folder path : List Char) : Prop :=
  (f.makeFolders now folder).2 = true ∧ ∃ p,
    (f.makeFolders now folder).1.locate? (temporary path) = some p ∧
      (f.makeFolders now folder).1.isFolder p = false

theorem canBegin_iff {path : List Char} (text : List Char) : CanBegin f now folder path ↔
    (f.makeFolders now folder).2 = true ∧ ∃ written,
      (f.makeFolders now folder).1.write? now (temporary path) (.text text) = some written := by
  refine and_congr_right fun _ => ?_
  constructor
  · rintro ⟨p, hp, hfolder⟩
    exact ⟨_, write?_eq_some_iff.mpr ⟨p, hp, hfolder, rfl⟩⟩
  · rintro ⟨written, hwrite⟩
    obtain ⟨p, hp, hfolder, -⟩ := write?_eq_some_iff.mp hwrite
    exact ⟨p, hp, hfolder⟩

/-- A file that was written first takes its name unless a folder has that. -/
theorem isFolder_of_rename?_eq_none {c : Contents} (hf : f.IsTree) (hleaf : IsLeaf leaf)
    (hend : ".txt".toList <:+ leaf)
    (hwrite : f.write? now (pathIn folder (temporaryName leaf)) c = some g)
    (h : g.rename? now (pathIn folder (temporaryName leaf)) (pathIn folder leaf) = none) :
    f.isFolder (f.placeOf (pathIn folder leaf)) = true := by
  have htemp := isLeaf_temporaryName hleaf.not_mem
  obtain ⟨hgrows, p, hp, -⟩ := write?_grows hf hwrite
  obtain ⟨hfits, hwritten, -⟩ := fits_of_write? hf htemp hwrite
  have hname := (Bool.and_eq_true_iff.mp hfits).1
  -- the folder could be entered, or nothing would have been written in it
  rw [locate?_pathIn folder htemp, Option.bind_eq_some_iff] at hp
  obtain ⟨up, hup, -⟩ := hp
  have hplace := placeOf_congr hgrows.home_eq folder
  rw [← hplace] at hwritten
  have hnot := fits_of_rename?_eq_none (enter?_mono hgrows hup) htemp hleaf hname hwritten h
  rw [fits, isName_of_prefix (prefix_temporaryName hend) hname, Bool.true_and,
    Bool.not_eq_false', hplace, isFolder_write? hf hwrite] at hnot
  rw [aim_pathIn folder hleaf]
  exact hnot

/-- A replacement ends before anything is written, with the file beside, or with all done. -/
theorem store_ends (hf : f.IsTree) (now : Int) (folder name text : List Char) :
    let path := path folder name
    let made := (f.makeFolders now folder).1
    (¬ CanBegin f now folder path ∧ store f now folder path text = (made, false)) ∨
    (CanBegin f now folder path ∧ ∃ written,
      made.write? now (temporary path) (.text text) = some written ∧
      ((made.isFolder (f.placeOf path) = true ∧ store f now folder path text = (written, false)) ∨
        (made.isFolder (f.placeOf path) = false ∧ ∃ renamed,
          written.rename? now (temporary path) path = some renamed ∧
          store f now folder path text = (renamed, true)))) := by
  intro path made
  obtain ⟨hmade, -⟩ := makeFolders_grows hf now folder
  have hplace : made.placeOf path = f.placeOf path := placeOf_congr hmade.home_eq path
  rcases hstore : store f now folder path text with ⟨g, done⟩
  rcases store_cases hstore with ⟨rfl, rfl, hnone⟩ | ⟨written, hok, hwrite, hrename⟩
  · refine Or.inl ⟨fun hbegin => ?_, rfl⟩
    obtain ⟨hok, written, hwrite⟩ := (canBegin_iff text).mp hbegin
    rw [hnone hok] at hwrite
    cases hwrite
  · refine Or.inr ⟨(canBegin_iff text).mpr ⟨hok, written, hwrite⟩, written, hwrite, ?_⟩
    rcases hrename with ⟨rfl, rfl, hnone⟩ | ⟨rfl, hrename⟩
    · obtain ⟨front, leaf, hleaf, hend, hpath, htemporary⟩ := exists_front_path folder name
      have hpath : path = pathIn front leaf := hpath
      refine Or.inl ⟨?_, rfl⟩
      rw [show temporary path = _ from htemporary] at hwrite hnone
      rw [hpath] at hnone
      rw [← hplace, hpath]
      exact isFolder_of_rename?_eq_none hmade.isTree hleaf hend hwrite hnone
    · refine Or.inr ⟨?_, g, hrename, rfl⟩
      obtain ⟨-, q, -, -, -, hq, -, hfolder, -⟩ := rename?_eq_some_iff.mp hrename
      have hwritten := (write?_grows hmade.isTree hwrite).1
      rwa [eq_placeOf_of_locate? hq, placeOf_congr hwritten.home_eq, hplace,
        isFolder_write? hmade.isTree hwrite] at hfolder

section

variable {path text : List Char} {written : Files}

/-- The second step puts the text into the file beside, and leaves all else as the first one did. -/
theorem written_spec (hf : f.IsTree)
    (hwrite : (f.makeFolders now folder).1.write? now (temporary path) (.text text) =
      some written) :
    (∀ p, written.isFolder p = (f.makeFolders now folder).1.isFolder p) ∧
      written.fileAt? (f.placeOf (temporary path)) = some (.text text, now) ∧
      ∀ p, p ≠ f.placeOf (temporary path) → written.fileAt? p = f.fileAt? p := by
  obtain ⟨hmade, -⟩ := makeFolders_grows hf now folder
  obtain ⟨hgrows, p, hp, hget, -⟩ := write?_grows hmade.isTree hwrite
  have hplace := placeOf_congr hmade.home_eq (temporary path)
  have hp : p = f.placeOf (temporary path) := (eq_placeOf_of_locate? hp).trans hplace
  refine ⟨isFolder_write? hmade.isTree hwrite, ?_, fun q hq => ?_⟩
  · rw [← hp]
    exact fileAt?_eq_some_iff.mpr hget
  · rw [hgrows.fileAt?_eq fun h => hq (h.trans hplace), hmade.fileAt?_eq id]

/-- The third step leaves nothing beside, and all else but the file as it was. -/
theorem renamed_spec (hf : f.IsTree)
    (hwrite : (f.makeFolders now folder).1.write? now (temporary path) (.text text) =
      some written)
    {renamed : Files} (hrename : written.rename? now (temporary path) path = some renamed)
    (hne : f.placeOf (temporary path) ≠ f.placeOf path) :
    (∀ p, renamed.isFolder p = (f.makeFolders now folder).1.isFolder p) ∧
      renamed.get? (f.placeOf (temporary path)) = none ∧
      ∀ p, p ≠ f.placeOf path → p ≠ f.placeOf (temporary path) →
        renamed.fileAt? p = f.fileAt? p := by
  obtain ⟨hmade, -⟩ := makeFolders_grows hf now folder
  obtain ⟨hfolders, -, hothers⟩ := written_spec hf hwrite
  have hwritten := (write?_grows hmade.isTree hwrite).1
  have hplace : ∀ x, written.placeOf x = f.placeOf x := fun x =>
    (placeOf_congr hwritten.home_eq x).trans (placeOf_congr hmade.home_eq x)
  obtain ⟨hrenamed, p, q, hp, hq, -, hgone, -⟩ := rename?_grows hwritten.isTree hrename
  have hp : p = f.placeOf (temporary path) := (eq_placeOf_of_locate? hp).trans (hplace _)
  have hq : q = f.placeOf path := (eq_placeOf_of_locate? hq).trans (hplace _)
  refine ⟨fun r => ?_, ?_, fun r hfile hbeside => ?_⟩
  · rw [isFolder_rename? hwritten.isTree hrename, hfolders]
  · rw [← hp]
    refine hgone ?_
    rwa [hp, hq]
  · rw [hrenamed.fileAt?_eq, hothers r hbeside]
    rintro (h | h)
    · exact hbeside (h.trans (hplace _))
    · exact hfile (h.trans (hplace _))

end

/-- How the replacement of a file of the cache ends, and what it leaves behind, for every file
system, path of the cache and text. No folder goes, and only those are made that lead to the folder
of the cache. It works out just if the file beside can be written and no folder is where the file
should be. If it works out, the file holds the new text, nothing is left beside it, and all other
files are as they were. If it fails, all files are as they were, the old one among them, but for the
file beside: that one holds the new text if it could be written, and otherwise it is as it was
too. -/
theorem replacement_spec (hf : f.IsTree) (now : Int) (folder name text : List Char) :
    let path := path folder name
    let file := f.placeOf path
    let beside := f.placeOf (temporary path)
    let made := (f.makeFolders now folder).1
    let g := (store f now folder path text).1
    let done := (store f now folder path text).2
    (∀ p, (f.isFolder p = true → g.isFolder p = true) ∧
      (g.isFolder p = true → f.isFolder p = true ∨ p ∈ f.wayTo folder)) ∧
    (done = true ↔ CanBegin f now folder path ∧ made.isFolder file = false) ∧
    (done = true → g.stat? path = some (.file (.text text) now) ∧ g.get? beside = none ∧
      ∀ p, p ≠ file → p ≠ beside → g.fileAt? p = f.fileAt? p) ∧
    (done = false → (∀ p, p ≠ beside → g.fileAt? p = f.fileAt? p) ∧
      (CanBegin f now folder path → g.fileAt? beside = some (.text text, now)) ∧
      (¬ CanBegin f now folder path → g.fileAt? beside = f.fileAt? beside)) := by
  intro path file beside made g done
  obtain ⟨hmade, -⟩ := makeFolders_grows hf now folder
  have hway : ∀ p, (f.isFolder p = true → made.isFolder p = true) ∧
      (made.isFolder p = true → f.isFolder p = true ∨ p ∈ f.wayTo folder) :=
    fun _ => ⟨hmade.isFolder, isFolder_of_makeFolders⟩
  have hstat : done = true → g.stat? path = some (.file (.text text) now) := stat?_store hf
  rcases store_ends hf now folder name text with ⟨hnot, hstore⟩ |
      ⟨hbegin, written, hwrite, ⟨hfolder, hstore⟩ | ⟨hfolder, renamed, hrename, hstore⟩⟩
  · -- nothing is written
    have hg : g = made := (Prod.ext_iff.mp hstore).1
    have hdone : done = false := (Prod.ext_iff.mp hstore).2
    rw [hg, hdone]
    refine ⟨hway, ?_, fun h => absurd h Bool.false_ne_true,
      fun _ => ⟨fun p _ => hmade.fileAt?_eq id, fun h => absurd h hnot,
        fun _ => hmade.fileAt?_eq id⟩⟩
    exact iff_of_false Bool.false_ne_true fun h => hnot h.1
  · -- the file beside is written, and stays
    have hg : g = written := (Prod.ext_iff.mp hstore).1
    have hdone : done = false := (Prod.ext_iff.mp hstore).2
    obtain ⟨hfolders, hbeside, hothers⟩ := written_spec hf hwrite
    rw [hg, hdone]
    refine ⟨fun p => ?_, ?_, fun h => absurd h Bool.false_ne_true,
      fun _ => ⟨hothers, fun _ => hbeside, fun h => absurd hbegin h⟩⟩
    · rw [hfolders]
      exact hway p
    · refine iff_of_false Bool.false_ne_true fun h => ?_
      rw [show made.isFolder file = true from hfolder] at h
      exact Bool.false_ne_true h.2.symm
  · -- all is done
    have hg : g = renamed := (Prod.ext_iff.mp hstore).1
    have hdone : done = true := (Prod.ext_iff.mp hstore).2
    obtain ⟨hfolders, hgone, hothers⟩ :=
      renamed_spec hf hwrite hrename (placeOf_temporary_ne f folder name name)
    refine ⟨fun p => ?_, ⟨fun _ => ⟨hbegin, hfolder⟩, fun _ => hdone⟩, fun h => ⟨hstat h, ?_⟩,
      fun h => ?_⟩
    · rw [hg, hfolders]
      exact hway p
    · rw [hg]
      exact ⟨hgone, hothers⟩
    · rw [hdone] at h
      cases h

/-- A folder stands where the file of a list should be, and what was written once is left beside
it. -/
def blocked : Files where
  entries := [(["lists".toList], .folder 0), (["lists".toList, "a.txt".toList], .folder 0),
    (["lists".toList, "a.txt.tmp".toList], .file (.text "old".toList) 0),
    (["lists".toList, "b.txt".toList], .file (.text "0.0.0.0 b.example.org".toList) 0)]

/-- The replacement fails there, and leaves the new text beside the folder, in the place of what was
there; the other list is as it was. -/
theorem replacement_spec_of_folder :
    let result := store blocked 5 "lists".toList (path "lists".toList "a".toList) "new".toList
    result.2 = false ∧
      result.1.fileAt? ["lists".toList, "a.txt.tmp".toList] = some (.text "new".toList, 5) ∧
      result.1.fileAt? ["lists".toList, "b.txt".toList] =
        some (.text "0.0.0.0 b.example.org".toList, 0) := by
  intro result
  have htree : blocked.IsTree := isTree_of_entries rfl (by decide)
  have hbegin : CanBegin blocked 5 "lists".toList (path "lists".toList "a".toList) :=
    ⟨by decide, ["lists".toList, "a.txt.tmp".toList], by decide, by decide⟩
  obtain ⟨-, hdone, -, hfailed⟩ :=
    replacement_spec htree 5 "lists".toList "a".toList "new".toList
  have hnot : result.2 = false := by
    rw [Bool.eq_false_iff, ne_eq, hdone]
    rintro ⟨-, hfolder⟩
    revert hfolder
    decide
  obtain ⟨hothers, hbeside, -⟩ := hfailed hnot
  have hplace : blocked.placeOf (temporary (path "lists".toList "a".toList)) =
      ["lists".toList, "a.txt.tmp".toList] := by decide
  rw [hplace] at hothers hbeside
  exact ⟨hnot, hbeside hbegin, hothers _ (by decide)⟩

end Cache

end AdFilter
