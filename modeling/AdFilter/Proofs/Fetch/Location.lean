import AdFilter.Proofs.Fetch.Isolation

/-!
# Where the files of lists are

A list is kept in a file named after it, but the name of a list may be any text, and what stands
before its last slash is taken for folders: the file is where these lead (`Cache.home`), under the
rest of the name. So it can be told from two names whether the files are the same, and whether a
file is in the folder of the cache. `Pass.location_spec` does so for all names, and says what a pass
does to files: if no name has a slash in it, the folder of the cache is all that a pass touches.
-/

namespace AdFilter

open Text Files

namespace Cache

variable {f : Files} {folder name other tail : List Char}

/-! ## Names -/

/-- What stands before the last part of a path. -/
def front (path : List Char) : List Char := path.take (path.length - (lastName path).length)

/-- Where a name leads, but for its last part. -/
def home (f : Files) (folder name : List Char) : Place := f.placeOf (pathIn folder (front name))

/-- What is put before the ending of the file that is written first. The file of an empty name is
all ending, which is taken for a name then. -/
def beginning (name : List Char) : List Char :=
  if lastName name = [] then ".txt".toList else lastName name

theorem front_append {up : List Char} (hup : IsFront up) (htail : '/' ∉ tail) :
    front (up ++ tail) = up := by
  rw [front, lastName_append hup htail, List.length_append, Nat.add_sub_cancel, List.take_left]

theorem front_append_lastName (name : List Char) : front name ++ lastName name = name ∧
    IsFront (front name) ∧ '/' ∉ lastName name := by
  obtain ⟨up, tail, rfl, hup, htail⟩ := exists_front name
  rw [front_append hup htail, lastName_append hup htail]
  exact ⟨rfl, hup, htail⟩

theorem beginning_eq_iff : beginning name = beginning other ↔ lastName name = lastName other ∨
    (lastName name = [] ∧ lastName other = ".txt".toList) ∨
    (lastName name = ".txt".toList ∧ lastName other = []) := by
  have hending : ".txt".toList ≠ [] := by decide
  rw [beginning, beginning]
  by_cases hname : lastName name = [] <;> by_cases hother : lastName other = []
  · rw [if_pos hname, if_pos hother]
    exact ⟨fun _ => Or.inl (hname.trans hother.symm), fun _ => rfl⟩
  · rw [if_pos hname, if_neg hother]
    refine ⟨fun h => Or.inr (Or.inl ⟨hname, h.symm⟩), ?_⟩
    rintro (h | ⟨-, h⟩ | ⟨-, h⟩)
    · exact absurd (h.symm.trans hname) hother
    · exact h.symm
    · exact absurd h hother
  · rw [if_neg hname, if_pos hother]
    refine ⟨fun h => Or.inr (Or.inr ⟨h, hother⟩), ?_⟩
    rintro (h | ⟨h, -⟩ | ⟨h, -⟩)
    · exact absurd (h.trans hother) hname
    · exact absurd h hname
    · exact h
  · rw [if_neg hname, if_neg hother]
    refine ⟨Or.inl, ?_⟩
    rintro (h | ⟨h, -⟩ | ⟨-, h⟩)
    · exact h
    · exact absurd h hname
    · exact absurd h hother

/-! ## Places -/

theorem home_of_not_mem (h : '/' ∉ name) : home f folder name = f.placeOf folder := by
  have hleaf : IsLeaf "a".toList := ⟨by decide, by decide⟩
  obtain ⟨up, hup, hpath⟩ := exists_front_pathIn folder (Or.inl rfl)
  have hfront : front name = [] := front_append (Or.inl rfl) h
  have hself : pathIn folder [] = up := (hpath [] List.not_mem_nil).trans (List.append_nil _)
  have hplace := aim_pathIn (f := f) folder hleaf
  have hnext : pathIn folder "a".toList = up ++ "a".toList := hpath _ hleaf.not_mem
  rw [hnext, placeOf_append hup hleaf] at hplace
  rw [home, hfront, hself, List.append_cancel_right hplace]

/-- Both files of a list are where its name leads, under the last part of it. -/
theorem placeOf_path (f : Files) (folder name : List Char) :
    f.placeOf (path folder name) = home f folder name ++ [lastName name ++ ".txt".toList] ∧
    f.placeOf (temporary (path folder name)) =
      home f folder name ++ [beginning name ++ ".txt.tmp".toList] := by
  obtain ⟨hname, hfront, htail⟩ := front_append_lastName name
  obtain ⟨up, hup, hpath⟩ := exists_front_pathIn folder hfront
  have hhome : home f folder name = f.placeOf up := by
    have hself := hpath [] List.not_mem_nil
    rw [List.append_nil, List.append_nil] at hself
    rw [home, hself]
  have hfile : '/' ∉ lastName name ++ ".txt".toList := by
    rw [List.mem_append, not_or]
    exact ⟨htail, by decide⟩
  have hwhole : path folder name = up ++ (lastName name ++ ".txt".toList) := by
    rw [← hpath _ hfile, ← List.append_assoc, hname]
    rfl
  have hfirst : temporaryName (lastName name ++ ".txt".toList) =
      beginning name ++ ".txt.tmp".toList := by
    rw [temporaryName, stem_append_txt, beginning]
  rw [hwhole, temporary_append hup hfile, hhome, ← hfirst]
  exact ⟨placeOf_append hup (isLeaf_of_suffix hfile (List.suffix_append _ _) (by decide)),
    placeOf_append hup (isLeaf_temporaryName hfile)⟩

theorem isIn_iff {p : Place} {x : List Char} :
    f.IsIn folder (p ++ [x]) ↔ p = f.placeOf folder := by
  constructor
  · rintro ⟨leaf, h⟩
    exact (List.append_singleton_inj.mp h).1
  · rintro rfl
    exact ⟨x, rfl⟩

end Cache

namespace Pass

open Cache

variable {f : Fetcher} {p : Pass} {st st₀ : Stock} {dates : Int → Prop} {log : Log}

/-- For all names of lists: the two files of a list are where the name leads, but for its last part,
so they are in the folder of the cache if it leads nowhere else. Those of two names are the same if
the names lead to the same place and end in the same part, or, before they are renamed, in nothing
and in the ending alone. A pass changes such files only. If no name has a slash in it, they are in
the folder; and if no name comes twice either, a list that is not downloaded keeps its file, and
brings in what is in it. -/
theorem location_spec (hf : st₀.files.IsTree) (h : Run f dates st₀ log p st) :
    let files := st₀.files
    let file := fun name => files.placeOf (path f.folder name)
    let first := fun name => files.placeOf (temporary (path f.folder name))
    let home := Cache.home files f.folder
    (∀ name, file name = home name ++ [lastName name ++ ".txt".toList] ∧
      first name = home name ++ [beginning name ++ ".txt.tmp".toList] ∧
      (files.IsIn f.folder (file name) ↔ home name = files.placeOf f.folder) ∧
      (files.IsIn f.folder (first name) ↔ home name = files.placeOf f.folder) ∧
      ('/' ∉ name → home name = files.placeOf f.folder ∧ lastName name = name)) ∧
    (∀ name other,
      (file name = file other ↔ home name = home other ∧ lastName name = lastName other) ∧
      (first name = first other ↔ home name = home other ∧ (lastName name = lastName other ∨
        (lastName name = [] ∧ lastName other = ".txt".toList) ∨
        (lastName name = ".txt".toList ∧ lastName other = []))) ∧
      first name ≠ file other) ∧
    files.Grows st.files (fun r => (∃ s ∈ f.sources, r = first s.name) ∨
      ∃ x ∈ p.finished, x.source ∈ f.sources ∧ x.outcome = some .downloaded ∧
        r = file x.source.name) ∧
    ((∀ s ∈ f.sources, '/' ∉ s.name) → files.Grows st.files (files.IsIn f.folder) ∧
      ((f.sources.map (·.name)).Nodup →
        (∀ s ∈ f.sources, (∀ x ∈ p.finished, x.source = s → x.outcome ≠ some .downloaded) →
          st.files.fileAt? (file s.name) = files.fileAt? (file s.name)) ∧
        st.rules = st₀.rules.changeAll
          ((p.finished.filterMap (textOf f files log)).map RuleChange.ofText))) := by
  intro files file first home
  refine ⟨fun name => ?_, fun name other => ?_, h.grows hf,
    fun hplain => ⟨h.grows_isIn hplain hf, fun hnames => ?_⟩⟩
  · obtain ⟨hfile, hfirst⟩ := placeOf_path files f.folder name
    refine ⟨hfile, hfirst, ?_, ?_, fun hname => ⟨home_of_not_mem hname, ?_⟩⟩
    · rw [show file name = _ from hfile]
      exact isIn_iff
    · rw [show first name = _ from hfirst]
      exact isIn_iff
    · exact lastName_append (Or.inl rfl) hname
  · obtain ⟨hfile, hfirst⟩ := placeOf_path files f.folder name
    obtain ⟨hfile', hfirst'⟩ := placeOf_path files f.folder other
    refine ⟨?_, ?_, placeOf_temporary_ne files f.folder name other⟩
    · rw [show file name = _ from hfile, show file other = _ from hfile',
        List.append_singleton_inj, List.append_cancel_right_eq]
    · rw [show first name = _ from hfirst, show first other = _ from hfirst',
        List.append_singleton_inj, List.append_cancel_right_eq, beginning_eq_iff]
  · have hplaces := Fetcher.nodup_places files hplain hnames
    exact ⟨fun s hs hkept => h.fileAt?_eq_of_not_downloaded hf hplaces hs hkept,
      h.rules_eq hf hplaces⟩

/-- Two lists. -/
def twoLists : Fetcher where
  sources := [⟨"a".toList, "https://l.example/a".toList⟩,
    ⟨"b".toList, "https://l.example/b".toList⟩]
  folder := "lists".toList
  concurrency := 1

/-- There is a file of the second list, and the first can be downloaded. -/
def oneFile : Stock where
  files := { entries := [(["lists".toList], .folder 0), (["lists".toList, "b.txt".toList],
    .file (.text "0.0.0.0 b.example.org".toList) 0)] }
  web := { pending := [("https://l.example/a".toList, [.ok "0.0.0.0 a.example.org".toList])]
           otherwise := .status 503 }
  rules := {}

/-- The first list is taken into work. -/
def taken : Pass × Stock := step twoLists ⟨0, 0⟩ (start twoLists) oneFile

/-- It is downloaded. -/
def downloaded : Pass × Stock := step twoLists ⟨0, 0⟩ taken.1 taken.2

/-- The file of the second list is left as it is then. A name with a slash in it would have led out
of the folder. -/
theorem location_spec_of_download :
    downloaded.1.finished.map (·.outcome) = [some .downloaded] ∧
    downloaded.2.files.fileAt? ["lists".toList, "b.txt".toList] =
      some (.text "0.0.0.0 b.example.org".toList, 0) ∧
    ¬ oneFile.files.IsIn "lists".toList
      (oneFile.files.placeOf (path "lists".toList "../b".toList)) := by
  have htree : oneFile.files.IsTree := Files.isTree_of_entries rfl (by decide)
  have hbusy : taken.1.isDone = false := by decide
  obtain ⟨_, htaken⟩ := step_move (f := twoLists) (p := start twoLists) rfl ⟨0, 0⟩ oneFile
  obtain ⟨_, hdownloaded⟩ := step_move (f := twoLists) hbusy ⟨0, 0⟩ taken.2
  have hrun : Run twoLists (fun _ => True) oneFile _ downloaded.1 downloaded.2 :=
    (Run.start.move trivial htaken).move trivial hdownloaded
  obtain ⟨hplaces, -, -, hplain⟩ := location_spec htree hrun
  obtain ⟨-, hnames⟩ := hplain (by decide)
  obtain ⟨hkept, -⟩ := hnames (by decide)
  obtain ⟨-, -, hfolder, -⟩ := hplaces "../b".toList
  refine ⟨by decide, ?_, fun hin => ?_⟩
  · have hb : ⟨"b".toList, "https://l.example/b".toList⟩ ∈ twoLists.sources := by decide
    exact hkept _ hb (by decide)
  · exact absurd (hfolder.mp hin) (by decide)

end Pass

end AdFilter
