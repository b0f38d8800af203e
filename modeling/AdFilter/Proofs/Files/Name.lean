import AdFilter.Fetch.Cache
import AdFilter.Proofs.Files.Path
import AdFilter.Proofs.Text.Layout

/-!
# Names at the end of paths

What a path ends in, and what stands in front of that. Two paths that differ only at their end lead
to two places in one folder, so whether one of them can be reached is a matter of the folder
(`Files.locate?_pathIn`) and what is there a matter of the name.
-/

namespace AdFilter

open Text

namespace Files

variable {f g : Files} {folder leaf : List Char}

theorem isAbsolute_of_not_mem {path : List Char} (h : '/' ∉ path) : isAbsolute path = false := by
  rw [isAbsolute, beq_eq_false_iff_ne]
  exact fun hhead => h (List.mem_of_head? hhead)

/-- Whether a text is a single step down. -/
structure IsLeaf (leaf : List Char) : Prop where
  not_mem : '/' ∉ leaf
  ofName_eq : Step.ofName leaf = .down leaf

theorem IsLeaf.ne_nil (h : IsLeaf leaf) : leaf ≠ [] := by
  rintro rfl
  cases h.ofName_eq

/-- A name that goes on behind its first two characters is a step down. -/
theorem ofName_of_lt_length {name : List Char} (h : 2 < name.length) :
    Step.ofName name = .down name := by
  rw [Step.ofName, if_neg, if_neg]
  · rintro rfl
    exact absurd h (by decide)
  · rw [Bool.or_eq_true, List.isEmpty_iff, decide_eq_true_iff]
    rintro (rfl | rfl) <;> exact absurd h (by decide)

/-! ## What stands in front of a name -/

/-- Whether a name can follow in a path. -/
def IsFront (front : List Char) : Prop := front = [] ∨ ∃ up, front = up ++ ['/']

/-- Every path is a name with something in front of it. -/
theorem exists_front (path : List Char) :
    ∃ front name, path = front ++ name ∧ IsFront front ∧ '/' ∉ name := by
  induction path with
  | nil => exact ⟨[], [], rfl, Or.inl rfl, List.not_mem_nil⟩
  | cons c path ih =>
    obtain ⟨front, name, rfl, hfront, hname⟩ := ih
    rcases hfront with rfl | ⟨up, rfl⟩
    · by_cases hc : c = '/'
      · exact ⟨['/'], name, by rw [hc]; rfl, Or.inr ⟨[], rfl⟩, hname⟩
      · refine ⟨[], c :: name, rfl, Or.inl rfl, ?_⟩
        rw [List.mem_cons, not_or]
        exact ⟨Ne.symm hc, hname⟩
    · exact ⟨c :: (up ++ ['/']), name, rfl, Or.inr ⟨c :: up, rfl⟩, hname⟩

theorem steps_append_cons (up rest : List Char) :
    steps (up ++ '/' :: rest) = steps up ++ steps rest := by
  rw [steps, splitOn_append_cons, List.map_append]
  rfl

theorem steps_of_not_mem {name : List Char} (h : '/' ∉ name) : steps name = [Step.ofName name] := by
  rw [steps, splitOn_eq_singleton h]
  rfl

/-- Where a path ends hangs on its name alone, and how it gets there on what is in front. -/
theorem exists_steps_front {front : List Char} (h : IsFront front) :
    ∃ init, ∀ name, '/' ∉ name → steps (front ++ name) = init ++ [Step.ofName name] := by
  rcases h with rfl | ⟨up, rfl⟩
  · exact ⟨[], fun name hname => steps_of_not_mem hname⟩
  · refine ⟨steps up, fun name hname => ?_⟩
    rw [List.append_assoc, List.singleton_append, steps_append_cons, steps_of_not_mem hname]

/-- The last part of a path leads down from where the front leads. -/
theorem placeOf_append {front : List Char} (h : IsFront front) (hleaf : IsLeaf leaf) :
    f.placeOf (front ++ leaf) = f.placeOf front ++ [leaf] := by
  obtain ⟨init, hinit⟩ := exists_steps_front h
  have hstart : f.startOf (front ++ leaf) = f.startOf front := by
    rcases front with _ | ⟨c, front⟩
    · rw [List.nil_append, startOf, isAbsolute_of_not_mem hleaf.not_mem]
      rfl
    · rfl
  have hfront : steps front = init ++ [.here] := by
    have hempty := hinit [] List.not_mem_nil
    rwa [List.append_nil] at hempty
  rw [placeOf, placeOf, hstart, hinit leaf hleaf.not_mem, hleaf.ofName_eq, hfront, aim_append,
    aim_append]
  rfl

/-- The last part of a path names the last part of its place. -/
theorem getLast?_placeOf {front : List Char} (h : IsFront front) (hleaf : IsLeaf leaf) :
    (f.placeOf (front ++ leaf)).getLast? = some leaf := by
  rw [placeOf_append h hleaf, List.getLast?_concat]

/-! ## Names in a folder -/

/-- The folder that a path leads into. -/
def enter? (f : Files) (folder : List Char) : Option Place :=
  (f.walk? (f.startOf folder) (steps folder)).filter f.isFolder

theorem enter?_eq_some_iff {p : Place} : f.enter? folder = some p ↔
    f.walk? (f.startOf folder) (steps folder) = some p ∧ f.isFolder p = true := by
  rw [enter?, Option.filter_eq_some_iff]

theorem walk?_here {p q : Place} {ss : List Step} : f.walk? p (ss ++ [.here]) = some q ↔
    f.walk? p ss = some q ∧ f.isFolder q = true := by
  rw [walk?_append, Option.bind_eq_some_iff]
  constructor
  · rintro ⟨r, hr, hwalk⟩
    rw [walk?, Option.ite_none_right_eq_some] at hwalk
    obtain ⟨hfolder, hq⟩ := hwalk
    cases hq
    exact ⟨hr, hfolder⟩
  · rintro ⟨hwalk, hfolder⟩
    refine ⟨q, hwalk, ?_⟩
    rw [walk?, if_pos hfolder]
    rfl

/-- A path to a name in a folder first goes to the folder, then down. -/
theorem steps_pathIn (folder : List Char) (hleaf : IsLeaf leaf) :
    ∃ init, steps (Cache.pathIn folder leaf) = init ++ [.down leaf] ∧
      (steps folder = init ∨ steps folder = init ++ [.here]) := by
  have hrel := isAbsolute_of_not_mem hleaf.not_mem
  have hdown : steps leaf = [.down leaf] := by
    rw [steps_of_not_mem hleaf.not_mem, hleaf.ofName_eq]
  rw [Cache.pathIn, hrel, Bool.false_or]
  rcases List.eq_nil_or_concat folder with rfl | ⟨up, c, rfl⟩
  · exact ⟨[], hdown, Or.inr rfl⟩
  · rw [List.concat_eq_append, List.isEmpty_eq_false_iff.mpr (by simp), if_neg Bool.false_ne_true,
      List.getLast?_concat]
    split
    · rename_i hc
      refine ⟨steps up, ?_, Or.inr ?_⟩
      · rw [Option.some.inj hc, List.append_assoc, List.singleton_append, steps_append_cons, hdown]
      · rw [Option.some.inj hc, steps_append_cons]
        rfl
    · exact ⟨_, by rw [steps_append_cons, hdown], Or.inl rfl⟩

theorem startOf_pathIn (folder : List Char) (hleaf : IsLeaf leaf) :
    f.startOf (Cache.pathIn folder leaf) = f.startOf folder := by
  have hrel := isAbsolute_of_not_mem hleaf.not_mem
  rw [startOf, startOf, Cache.pathIn, hrel, Bool.false_or]
  rcases folder with _ | ⟨c, folder⟩
  · rw [List.isEmpty_nil, if_pos rfl, hrel]
    rfl
  · rw [List.isEmpty_cons, if_neg Bool.false_ne_true]
    split <;> rfl

theorem aim_pathIn (folder : List Char) (hleaf : IsLeaf leaf) :
    f.placeOf (Cache.pathIn folder leaf) = f.placeOf folder ++ [leaf] := by
  obtain ⟨init, hsteps, hfolder⟩ := steps_pathIn folder hleaf
  rw [placeOf, placeOf, hsteps, startOf_pathIn folder hleaf, aim_append, aim, aim]
  rcases hfolder with hfolder | hfolder
  · rw [hfolder]
  · rw [hfolder, aim_append, aim, aim]

/-- A name in a folder can be reached if the folder can be, and the name is one. -/
theorem locate?_pathIn (folder : List Char) (hleaf : IsLeaf leaf) :
    f.locate? (Cache.pathIn folder leaf) =
      (f.enter? folder).bind fun up => if isName leaf then some (up ++ [leaf]) else none := by
  obtain ⟨init, hsteps, hfolder⟩ := steps_pathIn folder hleaf
  have hne : (Cache.pathIn folder leaf).isEmpty = false := by
    rw [List.isEmpty_eq_false_iff]
    intro hnil
    rw [hnil] at hsteps
    rcases init with _ | ⟨s, init⟩
    · cases hsteps
    · cases init <;> cases hsteps
  have henter : ∀ up, f.enter? folder = some up ↔
      f.walk? (f.startOf folder) init = some up ∧ f.isFolder up = true := by
    intro up
    rw [enter?_eq_some_iff]
    rcases hfolder with hfolder | hfolder
    · rw [hfolder]
    · rw [hfolder, walk?_here, and_assoc, and_self]
  rw [locate?, hne, if_neg Bool.false_ne_true, hsteps, startOf_pathIn folder hleaf]
  ext p
  rw [walk?_append, Option.bind_eq_some_iff, Option.bind_eq_some_iff]
  refine exists_congr fun up => ?_
  rw [henter, and_assoc]
  refine and_congr_right fun _ => ?_
  rw [walk?, Option.ite_none_right_eq_some]
  rfl

end Files

end AdFilter
