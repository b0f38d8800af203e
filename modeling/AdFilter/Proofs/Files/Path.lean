import AdFilter.Proofs.Files.Tree

/-!
# Paths and what is done along them

A path names one place, whether something is there or not (`Files.placeOf`), and what is done under
a path happens at that place: `write?`, `rename?` and `makeFolders` touch no other file
(`write?_grows`, `rename?_grows`, `makeFolders_grows`). Making folders fails only where a file is in
the way or a part of the path is no name (`snd_makeAlong`).
-/

namespace AdFilter

open Text

namespace Files

variable {f g : Files} {p q : Place} {now : Int} {ss : List Step}

/-! ## Where paths lead -/

/-- Where some steps lead from a place if nothing is in the way. -/
def aim : Place → List Step → Place
  | p, [] => p
  | p, .here :: rest => aim p rest
  | p, .up :: rest => aim p.dropLast rest
  | p, .down name :: rest => aim (p ++ [name]) rest

/-- The place that a path names. -/
def placeOf (f : Files) (path : List Char) : Place := aim (f.startOf path) (steps path)

theorem aim_append (ss ts : List Step) : aim p (ss ++ ts) = aim (aim p ss) ts := by
  induction ss generalizing p with
  | nil => rfl
  | cons s ss ih => cases s <;> exact ih

/-- The place that one step leads to, if the step can be named. -/
def Step.from? (p : Place) : Step → Option Place
  | .here => some p
  | .up => some p.dropLast
  | .down name => if isName name then some (p ++ [name]) else none

theorem walk?_cons (s : Step) : f.walk? p (s :: ss) =
    if f.isFolder p then (s.from? p).bind fun q => f.walk? q ss else none := by
  cases s with
  | here => rfl
  | up => rfl
  | down name =>
    rw [walk?, Step.from?]
    by_cases hname : isName name = true
    · rw [if_pos hname, if_pos hname]
      rfl
    · rw [if_neg hname, if_neg hname]
      rfl

theorem aim_cons {s : Step} (h : s.from? p = some q) : aim p (s :: ss) = aim q ss := by
  cases s with
  | here =>
    cases h
    rfl
  | up =>
    cases h
    rfl
  | down name =>
    rw [Step.from?, Option.ite_none_right_eq_some] at h
    rw [← Option.some.inj h.2]
    rfl

theorem walk?_cons_eq_some_iff {s : Step} : f.walk? p (s :: ss) = some q ↔
    f.isFolder p = true ∧ ∃ r, s.from? p = some r ∧ f.walk? r ss = some q := by
  rw [walk?_cons, Option.ite_none_right_eq_some, Option.bind_eq_some_iff]

theorem eq_aim_of_walk? (h : f.walk? p ss = some q) : q = aim p ss := by
  induction ss generalizing p with
  | nil => exact (Option.some.inj h).symm
  | cons s ss ih =>
    obtain ⟨-, r, hr, hwalk⟩ := walk?_cons_eq_some_iff.mp h
    rw [aim_cons hr]
    exact ih hwalk

theorem eq_placeOf_of_locate? {path : List Char} (h : f.locate? path = some p) :
    p = f.placeOf path := by
  rw [locate?] at h
  split at h
  · cases h
  · exact eq_aim_of_walk? h

theorem placeOf_congr (hhome : g.home = f.home) (path : List Char) :
    g.placeOf path = f.placeOf path := by
  rw [placeOf, placeOf, startOf, startOf, hhome]

theorem walk?_append (ss ts : List Step) :
    f.walk? p (ss ++ ts) = (f.walk? p ss).bind fun q => f.walk? q ts := by
  induction ss generalizing p with
  | nil => rfl
  | cons s ss ih =>
    rw [List.cons_append, walk?_cons, walk?_cons]
    split
    · rw [Option.bind_assoc]
      exact congrArg _ (funext fun r => ih)
    · rfl

/-- What can be walked along can still be when there are more folders. -/
theorem walk?_mono (hfg : ∀ {r}, f.isFolder r = true → g.isFolder r = true)
    (h : f.walk? p ss = some q) : g.walk? p ss = some q := by
  induction ss generalizing p with
  | nil => exact h
  | cons s ss ih =>
    obtain ⟨hp, r, hr, hwalk⟩ := walk?_cons_eq_some_iff.mp h
    exact walk?_cons_eq_some_iff.mpr ⟨hfg hp, r, hr, ih hwalk⟩

theorem IsTree.isFolder_up (hf : f.IsTree) (hp : f.isFolder p = true) :
    f.isFolder p.dropLast = true := by
  obtain ⟨t, ht⟩ := isFolder_iff.mp hp
  exact hf.isFolder_dropLast ht

theorem IsTree.isFolder_startOf (hf : f.IsTree) (path : List Char) :
    f.isFolder (f.startOf path) = true := by
  rw [startOf]
  split
  · rfl
  · exact hf.isFolder_home

/-- The place that can be walked to stands in a folder. -/
theorem IsTree.isFolder_dropLast_of_walk? (hf : f.IsTree) (hp : f.isFolder p.dropLast = true)
    (h : f.walk? p ss = some q) : f.isFolder q.dropLast = true := by
  induction ss generalizing p with
  | nil =>
    rw [← Option.some.inj h]
    exact hp
  | cons s ss ih =>
    obtain ⟨hfolder, r, hr, hwalk⟩ := walk?_cons_eq_some_iff.mp h
    refine ih ?_ hwalk
    cases s with
    | here =>
      cases hr
      exact hp
    | up =>
      cases hr
      exact hf.isFolder_up hp
    | down name =>
      rw [Step.from?, Option.ite_none_right_eq_some] at hr
      rw [← Option.some.inj hr.2, List.dropLast_concat]
      exact hfolder

theorem IsTree.isFolder_dropLast_of_locate? (hf : f.IsTree) {path : List Char}
    (h : f.locate? path = some p) : f.isFolder p.dropLast = true := by
  rw [locate?] at h
  split at h
  · cases h
  · exact hf.isFolder_dropLast_of_walk? (hf.isFolder_up (hf.isFolder_startOf path)) h

/-- A path is found where it was found before, when there are more folders. -/
theorem locate?_mono (hhome : g.home = f.home)
    (hfg : ∀ {r}, f.isFolder r = true → g.isFolder r = true) {path : List Char}
    (h : f.locate? path = some p) : g.locate? path = some p := by
  rw [locate?] at h ⊢
  split at h
  · cases h
  · rename_i hpath
    rw [if_neg hpath, startOf, hhome]
    exact walk?_mono hfg h

theorem fileAt?_of_stat? {path : List Char} {c : Contents} {t : Int}
    (h : f.stat? path = some (.file c t)) : f.fileAt? (f.placeOf path) = some (c, t) := by
  rw [stat?, Option.bind_eq_bind, Option.bind_eq_some_iff] at h
  obtain ⟨p, hp, hget⟩ := h
  rw [← eq_placeOf_of_locate? hp]
  exact fileAt?_eq_some_iff.mpr hget

/-- A path still leads to the file that it led to, if that is not changed. -/
theorem stat?_of_grows {changed : Place → Prop} (hfg : f.Grows g changed) {path : List Char}
    {c : Contents} {t : Int} (h : f.stat? path = some (.file c t))
    (hplace : ¬ changed (f.placeOf path)) : g.stat? path = some (.file c t) := by
  rw [stat?, Option.bind_eq_bind, Option.bind_eq_some_iff] at h ⊢
  obtain ⟨p, hp, hget⟩ := h
  rw [← eq_placeOf_of_locate? hp] at hplace
  refine ⟨p, locate?_mono hfg.home_eq hfg.isFolder hp, fileAt?_eq_some_iff.mp ?_⟩
  rw [hfg.fileAt?_eq hplace]
  exact fileAt?_eq_some_iff.mpr hget

/-! ## Writing and renaming -/

theorem ne_nil_of_not_isFolder (h : f.isFolder p = false) : p ≠ [] := by
  rintro rfl
  cases h

theorem write?_eq_some_iff {path : List Char} {c : Contents} :
    f.write? now path c = some g ↔ ∃ p, f.locate? path = some p ∧ f.isFolder p = false ∧
      g = if (f.get? p).isSome then f.put p (.file c now) else f.create now p (.file c now) := by
  rw [write?, Option.bind_eq_bind, Option.bind_eq_some_iff]
  refine exists_congr fun p => and_congr_right fun _ => ?_
  rw [isFolder]
  rcases f.get? p with _ | ⟨d, t⟩ | t
  · simp [eq_comm]
  · simp [FileEntry.isFolder, eq_comm]
  · simp [FileEntry.isFolder]

/-- To write a file changes that file, and no other. -/
theorem write?_grows (hf : f.IsTree) {path : List Char} {c : Contents}
    (h : f.write? now path c = some g) :
    f.Grows g (· = f.placeOf path) ∧ ∃ p, f.locate? path = some p ∧
      g.get? p = some (.file c now) ∧ ∀ q, q ≠ p → q ≠ p.dropLast → g.get? q = f.get? q := by
  obtain ⟨p, hp, hfolder, rfl⟩ := write?_eq_some_iff.mp h
  have hroot := ne_nil_of_not_isFolder hfolder
  have hup := hf.isFolder_dropLast_of_locate? hp
  have hput : f.Grows (f.put p (.file c now)) (· = f.placeOf path) :=
    Grows.putFile hf hfolder hup (eq_placeOf_of_locate? hp) c now
  split
  · refine ⟨hput, p, hp, get?_put_self f hroot _, fun q hq _ => get?_put_of_ne f hq _⟩
  · refine ⟨hput.create hup, p, hp, ?_, fun q hq hqup => ?_⟩
    · -- the folder that is touched is another place
      have hne : p ≠ p.dropLast := by
        intro hself
        rw [← hself, hfolder] at hup
        cases hup
      rw [create, get?_touch, if_neg fun h => hne h.1, get?_put_self f hroot]
    · rw [create, get?_touch, if_neg fun h => hqup h.1, get?_put_of_ne f hq]

theorem rename?_eq_some_iff {old new : List Char} :
    f.rename? now old new = some g ↔ ∃ p q c t, f.locate? old = some p ∧ f.locate? new = some q ∧
      f.get? p = some (.file c t) ∧ f.isFolder q = false ∧
      g = (((f.erase p).put q (.file c t)).touch now p.dropLast).touch now q.dropLast := by
  rw [rename?]
  simp only [Option.bind_eq_bind, Option.bind_eq_some_iff]
  refine exists_congr fun p => ?_
  constructor
  · rintro ⟨hp, q, hq, h⟩
    rcases hold : f.get? p with _ | ⟨c, t⟩ | t
    · rw [hold] at h
      cases h
    · rw [hold] at h
      refine ⟨q, c, t, hp, hq, rfl, ?_⟩
      rw [isFolder]
      rcases hnew : f.get? q with _ | ⟨d, u⟩ | u
      · rw [hnew] at h
        exact ⟨rfl, (Option.some.inj h).symm⟩
      · rw [hnew] at h
        exact ⟨rfl, (Option.some.inj h).symm⟩
      · rw [hnew] at h
        cases h
    · rw [hold] at h
      cases h
  · rintro ⟨q, c, t, hp, hq, hfile, hfolder, rfl⟩
    refine ⟨hp, q, hq, ?_⟩
    rw [hfile]
    rcases hnew : f.get? q with _ | ⟨d, u⟩ | u
    · rfl
    · rfl
    · rw [isFolder, hnew] at hfolder
      cases hfolder

/-- To rename a file moves what is in it, and changes no third file. -/
theorem rename?_grows (hf : f.IsTree) {old new : List Char}
    (h : f.rename? now old new = some g) :
    f.Grows g (fun r => r = f.placeOf old ∨ r = f.placeOf new) ∧
      ∃ p q, f.locate? old = some p ∧ f.locate? new = some q ∧ g.get? q = f.get? p ∧
        (p ≠ q → g.get? p = none) ∧
        ∀ r, r ≠ p → r ≠ q → r ≠ p.dropLast → r ≠ q.dropLast → g.get? r = f.get? r := by
  obtain ⟨p, q, c, t, hp, hq, hfile, hfolder, rfl⟩ := rename?_eq_some_iff.mp h
  have hfileAt := fileAt?_eq_some_iff.mpr hfile
  have hpup := hf.isFolder_dropLast_of_locate? hp
  have hqup := hf.isFolder_dropLast_of_locate? hq
  have hpfolder : f.isFolder p = false := by rw [isFolder, hfile]; rfl
  have hqroot := ne_nil_of_not_isFolder hfolder
  -- first the old file goes, then the new one comes; both folders are there all the time
  have herase : f.Grows (f.erase p) (fun r => r = f.placeOf old ∨ r = f.placeOf new) :=
    Grows.erase hf hfileAt (Or.inl (eq_placeOf_of_locate? hp))
  have hfolder' : (f.erase p).isFolder q = false := by
    rw [isFolder, hf.get?_erase hfileAt]
    split
    · rfl
    · exact hfolder
  have hput : (f.erase p).Grows ((f.erase p).put q (.file c t))
      (fun r => r = f.placeOf old ∨ r = f.placeOf new) :=
    Grows.putFile herase.isTree hfolder' (herase.isFolder hqup)
      (Or.inr (eq_placeOf_of_locate? hq)) c t
  have hboth := herase.trans hput
  have htouch := hboth.trans (Grows.touch hboth.isTree (hboth.isFolder hpup) now)
  refine ⟨htouch.trans (Grows.touch htouch.isTree (htouch.isFolder hqup) now), p, q, hp, hq,
    ?_, ?_, ?_⟩
  · have hqp : q ≠ p.dropLast := by
      rintro rfl
      rw [hpup] at hfolder
      cases hfolder
    have hqq : q ≠ q.dropLast := by
      intro hself
      rw [← hself, hfolder] at hqup
      cases hqup
    rw [get?_touch, if_neg fun h => hqq h.1, get?_touch, if_neg fun h => hqp h.1,
      get?_put_self _ hqroot, hfile]
  · intro hne
    have hpp : p ≠ p.dropLast := by
      intro hself
      rw [← hself, hpfolder] at hpup
      cases hpup
    have hpq : p ≠ q.dropLast := by
      rintro rfl
      rw [hqup] at hpfolder
      cases hpfolder
    rw [get?_touch, if_neg fun h => hpq h.1, get?_touch, if_neg fun h => hpp h.1,
      get?_put_of_ne _ hne, hf.get?_erase hfileAt, if_pos rfl]
  · intro r hrp hrq hrpup hrqup
    rw [get?_touch, if_neg fun h => hrqup h.1, get?_touch, if_neg fun h => hrpup h.1,
      get?_put_of_ne _ hrq, hf.get?_erase hfileAt, if_neg hrp]

/-! ## Making folders -/

/-- Whether no file is in the way of some folders, and all of them can be named. -/
def isClear (f : Files) : Place → List Step → Bool
  | _, [] => true
  | p, .here :: rest => isClear f p rest
  | p, .up :: rest => isClear f p.dropLast rest
  | p, .down name :: rest =>
    isName name && (f.fileAt? (p ++ [name])).isNone && isClear f (p ++ [name]) rest

theorem isClear_congr (h : ∀ p, g.fileAt? p = f.fileAt? p) : g.isClear p ss = f.isClear p ss := by
  induction ss generalizing p with
  | nil => rfl
  | cons s ss ih =>
    cases s with
    | here => exact ih
    | up => exact ih
    | down name => rw [isClear, isClear, h, ih]

/-- To make folders changes no file, and works out if no file is in the way. -/
theorem makeAlong_grows (hf : f.IsTree) (hp : f.isFolder p = true) (now : Int) (ss : List Step) :
    f.Grows (makeAlong now f p ss).1 (fun _ => False) ∧
      (makeAlong now f p ss).2 = f.isClear p ss := by
  induction ss generalizing f p with
  | nil => exact ⟨Grows.refl hf, rfl⟩
  | cons s ss ih =>
    cases s with
    | here => exact ih hf hp
    | up => exact ih hf (hf.isFolder_up hp)
    | down name =>
      have hup : f.isFolder (p ++ [name]).dropLast = true := by
        rw [List.dropLast_concat]
        exact hp
      rw [makeAlong, isClear, fileAt?]
      by_cases hname : isName name = true
      · rw [if_pos hname, hname, Bool.true_and]
        rcases hget : f.get? (p ++ [name]) with _ | ⟨c, t⟩ | t
        · -- a new folder is made, and its path followed
          have hmade : f.Grows (f.create now (p ++ [name]) (.folder now)) (fun _ => False) :=
            (Grows.putFolder hf hget hup now).create hup
          have hthere :
              (f.create now (p ++ [name]) (.folder now)).isFolder (p ++ [name]) = true := by
            rw [create, isFolder_touch, isFolder, get?_put_self f (by simp)]
            rfl
          obtain ⟨hgrows, hdone⟩ := ih hmade.isTree hthere
          refine ⟨hmade.trans hgrows, hdone.trans ?_⟩
          exact isClear_congr fun q => hmade.fileAt?_eq id
        · exact ⟨Grows.refl hf, rfl⟩
        · exact ih hf (isFolder_iff.mpr ⟨t, hget⟩)
      · rw [if_neg hname, Bool.eq_false_iff.mpr hname]
        exact ⟨Grows.refl hf, rfl⟩

/-- Folders that were made can be walked along. -/
theorem walk?_makeAlong (hf : f.IsTree) (hp : f.isFolder p = true) (h : f.isClear p ss = true) :
    (makeAlong now f p ss).1.walk? p ss = some (aim p ss) ∧
      (makeAlong now f p ss).1.isFolder (aim p ss) = true := by
  induction ss generalizing f p with
  | nil => exact ⟨rfl, hp⟩
  | cons s ss ih =>
    have hstays : (makeAlong now f p (s :: ss)).1.isFolder p = true :=
      (makeAlong_grows hf hp now _).1.isFolder hp
    rw [walk?_cons, if_pos hstays]
    cases s with
    | here => exact ih hf hp h
    | up => exact ih hf (hf.isFolder_up hp) h
    | down name =>
      have hup : f.isFolder (p ++ [name]).dropLast = true := by
        rw [List.dropLast_concat]
        exact hp
      rw [isClear, Bool.and_eq_true, Bool.and_eq_true, Option.isNone_iff_eq_none] at h
      obtain ⟨⟨hname, hfile⟩, hclear⟩ := h
      rw [makeAlong, if_pos hname, Step.from?, if_pos hname, Option.bind_some, aim]
      rcases hget : f.get? (p ++ [name]) with _ | ⟨c, t⟩ | t
      · have hmade : f.Grows (f.create now (p ++ [name]) (.folder now)) (fun _ => False) :=
          (Grows.putFolder hf hget hup now).create hup
        have hthere : (f.create now (p ++ [name]) (.folder now)).isFolder (p ++ [name]) = true := by
          rw [create, isFolder_touch, isFolder, get?_put_self f (by simp)]
          rfl
        refine ih hmade.isTree hthere ?_
        rw [isClear_congr fun q => hmade.fileAt?_eq id]
        exact hclear
      · rw [fileAt?, hget] at hfile
        cases hfile
      · exact ih hf (isFolder_iff.mpr ⟨t, hget⟩) hclear

/-- Folders that are there already are not made. -/
theorem makeAlong_eq_self (h : f.walk? p ss = some q) (hq : f.isFolder q = true) :
    makeAlong now f p ss = (f, true) := by
  induction ss generalizing p with
  | nil => rfl
  | cons s ss ih =>
    obtain ⟨-, r, hr, hwalk⟩ := walk?_cons_eq_some_iff.mp h
    cases s with
    | here =>
      cases hr
      exact ih hwalk
    | up =>
      cases hr
      exact ih hwalk
    | down name =>
      rw [Step.from?, Option.ite_none_right_eq_some] at hr
      obtain ⟨hname, hr⟩ := hr
      cases hr
      -- the next place is a folder: the walk goes on from it or ends there
      have hthere : f.isFolder (p ++ [name]) = true := by
        cases ss with
        | nil =>
          rw [Option.some.inj hwalk]
          exact hq
        | cons t ss => exact (walk?_cons_eq_some_iff.mp hwalk).1
      obtain ⟨t, ht⟩ := isFolder_iff.mp hthere
      rw [makeAlong, if_pos hname, ht]
      exact ih hwalk

/-- Where no step goes up, all places on the way lead to the last one. -/
theorem prefix_aim (hss : .up ∉ ss) : p <+: aim p ss := by
  induction ss generalizing p with
  | nil => exact List.prefix_refl p
  | cons s ss ih =>
    rw [List.mem_cons, not_or] at hss
    cases s with
    | here => exact ih hss.2
    | up => exact absurd rfl hss.1
    | down name => exact (List.prefix_append p [name]).trans (ih hss.2)

/-- Where no step goes up, nothing changes but on the way. -/
theorem get?_makeAlong (hss : .up ∉ ss) (hq : ¬ q <+: aim p ss) :
    (makeAlong now f p ss).1.get? q = f.get? q := by
  induction ss generalizing f p with
  | nil => rfl
  | cons s ss ih =>
    have hrest : .up ∉ ss := fun h => hss (List.mem_cons_of_mem _ h)
    cases s with
    | here => exact ih hrest hq
    | up => exact absurd (List.mem_cons_self ..) hss
    | down name =>
      rw [makeAlong]
      split
      · split
        · exact ih hrest hq
        · rfl
        · -- the new folder is on the way, and so is the one that it is made in
          have hnew : q ≠ p ++ [name] := by
            rintro rfl
            exact hq (prefix_aim hrest)
          have hold : q ≠ p := by
            rintro rfl
            exact hq (prefix_aim hss)
          rw [ih hrest hq, create, List.dropLast_concat, get?_touch, if_neg fun h => hold h.1,
            get?_put_of_ne f hnew]
      · rfl

end Files

end AdFilter
