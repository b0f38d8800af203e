import AdFilter.Proofs.Files.Name

/-!
# What is in a folder

A folder may be missing, and be made when it is needed. If that cannot change where paths through it
lead (`Files.IsSettled`), what is found under a name in it is a matter of what is at one place alone
(`Files.stat?_pathIn_congr`), and so is whether a file with that name can be written
(`Files.fits`).
-/

namespace AdFilter

open Text

namespace Files

variable {f g : Files} {changed : Place → Prop} {folder leaf : List Char} {p q : Place}
  {ss : List Step} {now : Int}

/-! ## Paths through a folder -/

/-- Whether paths through a folder lead to the same places when missing parts of it are made: no
step of its path goes up, or nothing is missing. -/
def IsSettled (f : Files) (folder : List Char) : Prop :=
  .up ∉ steps folder ∨ (f.enter? folder).isSome = true

theorem startOf_congr (hhome : g.home = f.home) (path : List Char) :
    g.startOf path = f.startOf path := by
  rw [startOf, startOf, hhome]

theorem enter?_mono (hfg : f.Grows g changed) (h : f.enter? folder = some p) :
    g.enter? folder = some p := by
  rw [enter?_eq_some_iff] at h ⊢
  rw [startOf_congr hfg.home_eq]
  exact ⟨walk?_mono hfg.isFolder h.1, hfg.isFolder h.2⟩

theorem eq_placeOf_of_enter? (h : f.enter? folder = some p) : p = f.placeOf folder :=
  eq_aim_of_walk? (enter?_eq_some_iff.mp h).1

theorem IsSettled.of_grows (hfg : f.Grows g changed) (h : f.IsSettled folder) :
    g.IsSettled folder := by
  refine h.imp_right fun hsome => ?_
  obtain ⟨p, hp⟩ := Option.isSome_iff_exists.mp hsome
  rw [enter?_mono hfg hp]
  rfl

/-- Where no step goes up, one can walk wherever all that leads there are folders. -/
theorem walk?_of_isFolder (hss : .up ∉ ss) (h : g.walk? p ss = some q)
    (hfolders : ∀ r, r <+: q → f.isFolder r = true) : f.walk? p ss = some q := by
  induction ss generalizing p with
  | nil => exact h
  | cons s ss ih =>
    rw [List.mem_cons, not_or] at hss
    have hprefix : p <+: q := by
      rw [eq_aim_of_walk? h]
      exact prefix_aim (by rw [List.mem_cons, not_or]; exact hss)
    obtain ⟨-, r, hr, hwalk⟩ := walk?_cons_eq_some_iff.mp h
    exact walk?_cons_eq_some_iff.mpr ⟨hfolders p hprefix, r, hr, ih hss.2 hwalk⟩

/-- What is found under a name in a folder is a matter of what is at its place. -/
theorem bind_locate?_congr {α : Type} {a b : Place → Option α} (hf : f.IsTree)
    (hfg : f.Grows g changed) (hfolder : f.IsSettled folder) (hleaf : IsLeaf leaf)
    (hab : b (f.placeOf folder ++ [leaf]) = a (f.placeOf folder ++ [leaf]))
    (hnone : f.get? (f.placeOf folder ++ [leaf]) = none → a (f.placeOf folder ++ [leaf]) = none) :
    (g.locate? (Cache.pathIn folder leaf)).bind b =
      (f.locate? (Cache.pathIn folder leaf)).bind a := by
  rw [locate?_pathIn folder hleaf, locate?_pathIn folder hleaf]
  by_cases hname : isName leaf = true
  · simp only [hname, if_true]
    rcases hfe : f.enter? folder with _ | p
    · rcases hge : g.enter? folder with _ | p
      · rfl
      · -- the folder was made: there was nothing in it before
        have hp : p = f.placeOf folder := by
          rw [eq_placeOf_of_enter? hge, placeOf_congr hfg.home_eq]
        have hup : .up ∉ steps folder := by
          rcases hfolder with h | h
          · exact h
          · rw [hfe] at h
            cases h
        have hmissing : f.isFolder p = false := by
          by_contra hthere
          rw [Bool.not_eq_false] at hthere
          obtain ⟨hwalk, -⟩ := enter?_eq_some_iff.mp hge
          rw [startOf_congr hfg.home_eq] at hwalk
          have hthen := walk?_of_isFolder hup hwalk fun r hr => hf.isFolder_of_prefix hthere hr
          rw [enter?_eq_some_iff.mpr ⟨hthen, hthere⟩] at hfe
          cases hfe
        have hget : f.get? (f.placeOf folder ++ [leaf]) = none := by
          rcases h : f.get? (f.placeOf folder ++ [leaf]) with _ | e
          · rfl
          · have := hf.isFolder_dropLast h
            rw [List.dropLast_concat, ← hp, hmissing] at this
            cases this
        rw [hp]
        exact hab.trans (hnone hget)
    · rw [enter?_mono hfg hfe, eq_placeOf_of_enter? hfe]
      exact hab
  · rw [Bool.not_eq_true] at hname
    simp only [hname, Bool.false_eq_true, if_false, Option.bind_fun_none, Option.bind_none]

theorem readText?_eq (path : List Char) : f.readText? path =
    (f.locate? path).bind fun p => (f.fileAt? p).bind (·.1.text?) := by
  rw [readText?, stat?, Option.bind_eq_bind]
  rcases f.locate? path with _ | p
  · rfl
  · rw [Option.bind_some, Option.bind_some, fileAt?]
    rcases f.get? p with _ | ⟨c, t⟩ | t <;> rfl

theorem stat?_pathIn_congr (hf : f.IsTree) (hfg : f.Grows g changed)
    (hfolder : f.IsSettled folder) (hleaf : IsLeaf leaf)
    (hget : g.get? (f.placeOf folder ++ [leaf]) = f.get? (f.placeOf folder ++ [leaf])) :
    g.stat? (Cache.pathIn folder leaf) = f.stat? (Cache.pathIn folder leaf) :=
  bind_locate?_congr hf hfg hfolder hleaf hget id

/-! ## Making the folder -/

/-- A place in a folder. -/
def IsIn (f : Files) (folder : List Char) (p : Place) : Prop :=
  ∃ leaf, p = f.placeOf folder ++ [leaf]

theorem not_prefix_of_isIn (h : f.IsIn folder p) : ¬ p <+: f.placeOf folder := by
  obtain ⟨leaf, rfl⟩ := h
  intro hprefix
  have := hprefix.length_le
  rw [List.length_append, List.length_singleton] at this
  omega

theorem isClear_congr_of_prefix (hss : .up ∉ ss)
    (h : ∀ r, r <+: aim p ss → g.fileAt? r = f.fileAt? r) : g.isClear p ss = f.isClear p ss := by
  induction ss generalizing p with
  | nil => rfl
  | cons s ss ih =>
    rw [List.mem_cons, not_or] at hss
    cases s with
    | here => exact ih hss.2 h
    | up => exact absurd rfl hss.1
    | down name =>
      have hfile : g.fileAt? (p ++ [name]) = f.fileAt? (p ++ [name]) := h _ (prefix_aim hss.2)
      rw [isClear, isClear, hfile, ih hss.2 h]

/-- Nothing is in the way of a folder that is there. -/
theorem isClear_of_enter? (hf : f.IsTree) (h : f.enter? folder = some p) :
    f.isClear (f.startOf folder) (steps folder) = true := by
  obtain ⟨hwalk, hfolder⟩ := enter?_eq_some_iff.mp h
  rw [← (makeAlong_grows hf (hf.isFolder_startOf folder) 0 _).2,
    makeAlong_eq_self hwalk hfolder]

/-- The files in a folder are not in its way. -/
theorem isClear_congr_of_isIn (hf : f.IsTree) (hfg : f.Grows g (f.IsIn folder))
    (hfolder : f.IsSettled folder) :
    g.isClear (g.startOf folder) (steps folder) = f.isClear (f.startOf folder) (steps folder) := by
  rcases hfolder with hup | hsome
  · rw [startOf_congr hfg.home_eq]
    exact isClear_congr_of_prefix hup fun r hr =>
      hfg.fileAt?_eq fun hin => not_prefix_of_isIn hin hr
  · obtain ⟨p, hp⟩ := Option.isSome_iff_exists.mp hsome
    rw [isClear_of_enter? hf hp, isClear_of_enter? hfg.isTree (enter?_mono hfg hp)]

/-- To make a folder changes no file. -/
theorem makeFolders_grows (hf : f.IsTree) (now : Int) (folder : List Char) :
    f.Grows (f.makeFolders now folder).1 (fun _ => False) ∧ (f.makeFolders now folder).2 =
      (!folder.contains '\x00' && f.isClear (f.startOf folder) (steps folder)) := by
  rw [makeFolders]
  rcases folder.contains '\x00' with _ | _
  · exact makeAlong_grows hf (hf.isFolder_startOf folder) now _
  · exact ⟨Grows.refl hf, rfl⟩

theorem enter?_makeFolders (hf : f.IsTree) {now : Int}
    (h : (f.makeFolders now folder).2 = true) :
    (f.makeFolders now folder).1.enter? folder = some (f.placeOf folder) := by
  obtain ⟨hgrows, hdone⟩ := makeFolders_grows hf now folder
  rw [hdone, Bool.and_eq_true, Bool.not_eq_true'] at h
  rw [enter?_eq_some_iff, startOf_congr hgrows.home_eq, makeFolders, h.1, if_neg Bool.false_ne_true]
  exact walk?_makeAlong hf (hf.isFolder_startOf folder) h.2

/-- To make a folder changes nothing in it. -/
theorem get?_makeFolders (hfolder : f.IsSettled folder) (now : Int) (hp : f.IsIn folder p) :
    (f.makeFolders now folder).1.get? p = f.get? p := by
  rw [makeFolders]
  split
  · rfl
  · rcases hfolder with hup | hsome
    · exact get?_makeAlong hup (not_prefix_of_isIn hp)
    · obtain ⟨q, hq⟩ := Option.isSome_iff_exists.mp hsome
      obtain ⟨hwalk, hthere⟩ := enter?_eq_some_iff.mp hq
      rw [makeAlong_eq_self hwalk hthere]

/-! ## Files in the folder -/

/-- Whether a file with a given name can stand in a folder. -/
def fits (f : Files) (folder leaf : List Char) : Bool :=
  isName leaf && !f.isFolder (f.placeOf folder ++ [leaf])

theorem fits_congr (hhome : g.home = f.home)
    (h : g.get? (f.placeOf folder ++ [leaf]) = f.get? (f.placeOf folder ++ [leaf])) :
    g.fits folder leaf = f.fits folder leaf := by
  rw [fits, fits, placeOf_congr hhome, isFolder_congr h]

theorem locate?_of_fits (h : f.enter? folder = some p) (hleaf : IsLeaf leaf)
    (hfits : f.fits folder leaf = true) :
    f.locate? (Cache.pathIn folder leaf) = some (p ++ [leaf]) ∧
      f.isFolder (p ++ [leaf]) = false := by
  rw [fits, Bool.and_eq_true, Bool.not_eq_true', ← eq_placeOf_of_enter? h] at hfits
  rw [locate?_pathIn folder hleaf, h, Option.bind_some, if_pos hfits.1]
  exact ⟨rfl, hfits.2⟩

theorem fits_of_locate? (h : f.locate? (Cache.pathIn folder leaf) = some p) (hleaf : IsLeaf leaf)
    (hp : f.isFolder p = false) :
    f.fits folder leaf = true ∧ p = f.placeOf folder ++ [leaf] := by
  rw [locate?_pathIn folder hleaf, Option.bind_eq_some_iff] at h
  obtain ⟨up, hup, h⟩ := h
  rw [Option.ite_none_right_eq_some] at h
  obtain ⟨hname, hplace⟩ := h
  cases hplace
  rw [eq_placeOf_of_enter? hup] at hp ⊢
  refine ⟨?_, rfl⟩
  rw [fits, hname, hp]
  rfl

/-- The places in a folder are told apart by names, and none of them is the folder. -/
theorem ne_of_isIn (f : Files) (folder : List Char) {name other : List Char} (h : other ≠ name) :
    f.placeOf folder ++ [other] ≠ f.placeOf folder ++ [name] ∧
      f.placeOf folder ++ [other] ≠ (f.placeOf folder ++ [name]).dropLast := by
  constructor
  · intro heq
    exact h (List.singleton_inj.mp (List.append_cancel_left heq))
  · rw [List.dropLast_concat]
    intro heq
    exact List.cons_ne_nil _ _ (List.append_right_eq_self.mp heq)

/-- What is written into a folder fits into it. -/
theorem fits_of_write? (hf : f.IsTree) (hleaf : IsLeaf leaf) {c : Contents}
    (h : f.write? now (Cache.pathIn folder leaf) c = some g) :
    f.fits folder leaf = true ∧ g.get? (f.placeOf folder ++ [leaf]) = some (.file c now) ∧
      ∀ other, other ≠ leaf →
        g.get? (f.placeOf folder ++ [other]) = f.get? (f.placeOf folder ++ [other]) := by
  obtain ⟨p, hp, hfolder, -⟩ := write?_eq_some_iff.mp h
  obtain ⟨hfits, hplace⟩ := fits_of_locate? hp hleaf hfolder
  obtain ⟨-, q, hq, hfile, hrest⟩ := write?_grows hf h
  rw [hp] at hq
  rw [← Option.some.inj hq, hplace] at hfile hrest
  exact ⟨hfits, hfile, fun other hother =>
    hrest _ (ne_of_isIn f folder hother).1 (ne_of_isIn f folder hother).2⟩

/-- What cannot be written into a folder does not fit into it. -/
theorem fits_of_write?_eq_none (henter : f.enter? folder = some p) (hleaf : IsLeaf leaf)
    {c : Contents} (h : f.write? now (Cache.pathIn folder leaf) c = none) :
    f.fits folder leaf = false := by
  by_contra hfits
  obtain ⟨hlocate, hfolder⟩ := locate?_of_fits henter hleaf (Bool.not_eq_false _ ▸ hfits)
  rw [Option.eq_none_iff_forall_ne_some] at h
  exact h _ (write?_eq_some_iff.mpr ⟨_, hlocate, hfolder, rfl⟩)

/-- What is renamed within a folder fits into it. -/
theorem fits_of_rename? (hf : f.IsTree) {old : List Char} (hold : IsLeaf old) (hleaf : IsLeaf leaf)
    (h : f.rename? now (Cache.pathIn folder old) (Cache.pathIn folder leaf) = some g) :
    f.fits folder leaf = true ∧
      g.get? (f.placeOf folder ++ [leaf]) = f.get? (f.placeOf folder ++ [old]) ∧
      ∀ other, other ≠ old → other ≠ leaf →
        g.get? (f.placeOf folder ++ [other]) = f.get? (f.placeOf folder ++ [other]) := by
  obtain ⟨p, q, c, t, hp, hq, hfile, hfolder, -⟩ := rename?_eq_some_iff.mp h
  have hpfolder : f.isFolder p = false := by
    rw [isFolder, hfile]
    rfl
  obtain ⟨-, hpplace⟩ := fits_of_locate? hp hold hpfolder
  obtain ⟨hfits, hqplace⟩ := fits_of_locate? hq hleaf hfolder
  obtain ⟨-, p', q', hp', hq', hmoved, -, hrest⟩ := rename?_grows hf h
  rw [hp] at hp'
  rw [hq] at hq'
  rw [← Option.some.inj hp', ← Option.some.inj hq', hpplace, hqplace] at hmoved hrest
  refine ⟨hfits, hmoved, fun other hother hother' => ?_⟩
  exact hrest _ (ne_of_isIn f folder hother).1 (ne_of_isIn f folder hother').1
    (ne_of_isIn f folder hother).2 (ne_of_isIn f folder hother').2

/-- A file that cannot be renamed within a folder would not fit there. -/
theorem fits_of_rename?_eq_none (henter : f.enter? folder = some p) {old : List Char}
    (hold : IsLeaf old) (hleaf : IsLeaf leaf) (hname : isName old = true) {c : Contents} {t : Int}
    (hfile : f.get? (f.placeOf folder ++ [old]) = some (.file c t))
    (h : f.rename? now (Cache.pathIn folder old) (Cache.pathIn folder leaf) = none) :
    f.fits folder leaf = false := by
  by_contra hfits
  have hlocate : f.locate? (Cache.pathIn folder old) = some (p ++ [old]) := by
    rw [locate?_pathIn folder hold, henter, Option.bind_some, if_pos hname]
  obtain ⟨hlocate', hfolder⟩ := locate?_of_fits henter hleaf (Bool.not_eq_false _ ▸ hfits)
  rw [← eq_placeOf_of_enter? henter] at hfile
  rw [Option.eq_none_iff_forall_ne_some] at h
  exact h _ (rename?_eq_some_iff.mpr ⟨_, _, c, t, hlocate, hlocate', hfile, hfolder, rfl⟩)

end Files

end AdFilter
