import AdFilter.Files.Basic
import Mathlib.Data.List.Basic
import Mathlib.Data.List.Induction

/-!
# Files in folders

In a file system everything stands in a folder (`Files.IsTree`), and what a program does to files
keeps it so. The lemmas here say what is at each place after a change: `Files.Grows` is a change
that touches the files at some places only, and never takes a folder away.
-/

namespace AdFilter

open Text

namespace Files

variable {f g h : Files} {p q : Place} {now : Int}

/-! ## Trees -/

/-- Everything stands in a folder. -/
structure IsTree (f : Files) : Prop where
  isFolder_home : f.isFolder f.home = true
  isFolder_dropLast : ∀ {p e}, f.get? p = some e → f.isFolder p.dropLast = true

/-- What the file at a place holds and when it was changed last. A folder is no file. -/
def fileAt? (f : Files) (p : Place) : Option (Contents × Int) :=
  match f.get? p with
  | some (.file c t) => some (c, t)
  | _ => none

theorem isFolder_iff : f.isFolder p = true ↔ ∃ t, f.get? p = some (.folder t) := by
  rw [isFolder]
  rcases f.get? p with _ | ⟨c, t⟩ | t
  · simp
  · simp [FileEntry.isFolder]
  · simp [FileEntry.isFolder]

theorem fileAt?_eq_some_iff {c : Contents} {t : Int} :
    f.fileAt? p = some (c, t) ↔ f.get? p = some (.file c t) := by
  rw [fileAt?]
  rcases f.get? p with _ | ⟨d, u⟩ | u <;> simp

@[simp] theorem isFolder_root (f : Files) : f.isFolder [] = true := rfl

theorem ne_nil_of_fileAt? {x : Contents × Int} (h : f.fileAt? p = some x) : p ≠ [] := by
  rintro rfl
  cases h

/-- What is not there is neither file nor folder. -/
theorem fileAt?_eq_none_of_isFolder (h : f.isFolder p = true) : f.fileAt? p = none := by
  obtain ⟨t, ht⟩ := isFolder_iff.mp h
  rw [fileAt?, ht]

theorem isFolder_congr (h : g.get? p = f.get? p) : g.isFolder p = f.isFolder p := by
  rw [isFolder, isFolder, h]

theorem fileAt?_congr (h : g.get? p = f.get? p) : g.fileAt? p = f.fileAt? p := by
  rw [fileAt?, fileAt?, h]

/-- All that leads to a folder are folders. -/
theorem IsTree.isFolder_of_prefix (hf : f.IsTree) (hq : f.isFolder q = true) (h : p <+: q) :
    f.isFolder p = true := by
  obtain ⟨names, rfl⟩ := h
  induction names using List.reverseRecOn with
  | nil => rwa [List.append_nil] at hq
  | append_singleton names name ih =>
    obtain ⟨t, ht⟩ := isFolder_iff.mp hq
    have hup := hf.isFolder_dropLast ht
    rw [← List.append_assoc, List.dropLast_concat] at hup
    exact ih hup

/-- Nothing is below a file. -/
theorem IsTree.get?_below (hf : f.IsTree) {x : Contents × Int} (hp : f.fileAt? p = some x)
    (h : p <+: q) (hne : q ≠ p) : f.get? q = none := by
  rcases hq : f.get? q with _ | e
  · rfl
  · -- otherwise the file would be a folder
    have hup := hf.isFolder_dropLast hq
    have hpre : p <+: q.dropLast := by
      obtain ⟨names, rfl⟩ := h
      rcases List.eq_nil_or_concat names with rfl | ⟨init, name, rfl⟩
      · exact absurd (List.append_nil p) hne
      · rw [List.concat_eq_append, ← List.append_assoc, List.dropLast_concat]
        exact List.prefix_append _ _
    rw [fileAt?_eq_none_of_isFolder (hf.isFolder_of_prefix hup hpre)] at hp
    cases hp

/-- To be a tree is a matter of the entries. -/
theorem isTree_of_entries (hhome : f.isFolder f.home = true)
    (h : ∀ e ∈ f.entries, f.isFolder e.1.dropLast = true) : f.IsTree := by
  refine ⟨hhome, fun {p e} hp => ?_⟩
  rw [get?] at hp
  split at hp
  · rename_i hroot
    rw [hroot]
    exact isFolder_root f
  · obtain ⟨before, after, hentries, -⟩ := List.lookup_eq_some_iff.mp hp
    exact h (p, e) (by rw [hentries]; exact List.mem_append_right _ (List.mem_cons_self ..))

/-! ## Single changes -/

theorem lookup_filter_of_drop {keep : Place → Bool} (h : keep p = false)
    (es : List (Place × FileEntry)) : (es.filter fun e => keep e.1).lookup p = none := by
  rw [List.lookup_eq_none_iff]
  intro e he
  rw [List.mem_filter] at he
  rw [bne_iff_ne]
  rintro rfl
  rw [h] at he
  exact absurd he.2 Bool.false_ne_true

theorem get?_erase_of_below (hp : p ≠ []) (h : p <+: q) : (f.erase p).get? q = none := by
  have hq : q ≠ [] := by
    rintro rfl
    exact hp (List.prefix_nil.mp h)
  have hk : (!p.isPrefixOf q) = false := by
    rw [Bool.not_eq_false', List.isPrefixOf_iff_prefix]
    exact h
  rw [get?, if_neg hq]
  exact @lookup_filter_of_drop q (fun r => !p.isPrefixOf r) hk f.entries

/-- To erase a file changes nothing else. -/
theorem IsTree.get?_erase (hf : f.IsTree) {x : Contents × Int} (hp : f.fileAt? p = some x) :
    (f.erase p).get? q = if q = p then none else f.get? q := by
  by_cases hpre : p <+: q
  · rw [get?_erase_of_below (ne_nil_of_fileAt? hp) hpre]
    split
    · rfl
    · rename_i hne
      exact (hf.get?_below hp hpre hne).symm
  · rw [get?_erase_of_not_below f hpre, if_neg]
    rintro rfl
    exact hpre (List.prefix_refl _)

theorem get?_touch : (f.touch now p).get? q =
    if q = p ∧ p ≠ [] then (f.get? q).map (·.touched now) else f.get? q := by
  rw [touch]
  by_cases hroot : p = []
  · rw [if_neg (fun h => h.2 hroot)]
    rcases f.get? p with _ | e
    · rfl
    · dsimp only
      rw [if_pos hroot]
  · by_cases hq : q = p
    · rw [if_pos ⟨hq, hroot⟩, hq]
      rcases hp : f.get? p with _ | e
      · exact hp
      · dsimp only
        rw [if_neg hroot, get?_put_self f hroot]
        rfl
    · rw [if_neg (fun h => hq h.1)]
      rcases f.get? p with _ | e
      · rfl
      · dsimp only
        rw [if_neg hroot, get?_put_of_ne f hq]

@[simp] theorem home_put (f : Files) (p : Place) (e : FileEntry) : (f.put p e).home = f.home := rfl

@[simp] theorem home_erase (f : Files) (p : Place) : (f.erase p).home = f.home := rfl

@[simp] theorem home_touch (f : Files) (now : Int) (p : Place) :
    (f.touch now p).home = f.home := by
  rw [touch]
  rcases f.get? p with _ | e
  · rfl
  · dsimp only
    split <;> rfl

@[simp] theorem isFolder_touch : (f.touch now p).isFolder q = f.isFolder q := by
  rw [isFolder, isFolder, get?_touch]
  split
  · rcases f.get? q with _ | ⟨c, t⟩ | t <;> rfl
  · rfl

/-! ## Changes that take no folder away -/

/-- What a change may do: files at some places change, folders are made, and all else stays. -/
structure Grows (f g : Files) (changed : Place → Prop) : Prop where
  home_eq : g.home = f.home
  isTree : g.IsTree
  isFolder : ∀ {p}, f.isFolder p = true → g.isFolder p = true
  fileAt?_eq : ∀ {p}, ¬ changed p → g.fileAt? p = f.fileAt? p

namespace Grows

variable {changed : Place → Prop}

theorem refl (hf : f.IsTree) : f.Grows f changed := ⟨rfl, hf, id, fun _ => rfl⟩

theorem trans (hfg : f.Grows g changed) (hgh : g.Grows h changed) : f.Grows h changed :=
  ⟨hgh.home_eq.trans hfg.home_eq, hgh.isTree, fun hp => hgh.isFolder (hfg.isFolder hp),
    fun hp => (hgh.fileAt?_eq hp).trans (hfg.fileAt?_eq hp)⟩

theorem mono {others : Place → Prop} (hfg : f.Grows g changed)
    (h : ∀ p, changed p → others p) : f.Grows g others :=
  ⟨hfg.home_eq, hfg.isTree, hfg.isFolder, fun hp => hfg.fileAt?_eq fun hc => hp (h _ hc)⟩

/-- Where what is there differs at most at one place, which stands in a folder. -/
theorem of_get? (hf : f.IsTree) (hhome : g.home = f.home) (hp : f.isFolder p = false)
    (hup : f.isFolder p.dropLast = true) (hget : ∀ q, q ≠ p → g.get? q = f.get? q)
    (hfile : ∀ x, g.fileAt? p = some x → changed p) (hgone : f.fileAt? p ≠ none → changed p) :
    f.Grows g changed := by
  have hfolder : ∀ {q}, f.isFolder q = true → g.isFolder q = true := by
    intro q hq
    have hne : q ≠ p := by
      rintro rfl
      rw [hp] at hq
      cases hq
    rw [isFolder_congr (hget q hne)]
    exact hq
  refine ⟨hhome, ⟨?_, ?_⟩, hfolder, ?_⟩
  · rw [hhome]
    exact hfolder hf.isFolder_home
  · intro q e hq
    by_cases hqp : q = p
    · rw [hqp]
      exact hfolder hup
    · rw [hget q hqp] at hq
      exact hfolder (hf.isFolder_dropLast hq)
  · intro q hq
    by_cases hqp : q = p
    · rw [hqp] at hq ⊢
      -- neither before nor after is there a file at this place
      have hbefore : f.fileAt? p = none := by
        by_contra hne
        exact hq (hgone hne)
      rcases hafter : g.fileAt? p with _ | x
      · exact hbefore.symm
      · exact absurd (hfile x hafter) hq
    · exact fileAt?_congr (hget q hqp)

theorem touch (hf : f.IsTree) (hp : f.isFolder p = true) (now : Int) :
    f.Grows (f.touch now p) changed := by
  refine ⟨home_touch f now p, ⟨?_, ?_⟩, fun hq => ?_, fun {q} _ => ?_⟩
  · rw [home_touch, isFolder_touch]
    exact hf.isFolder_home
  · intro q e hq
    rw [isFolder_touch]
    rw [get?_touch] at hq
    split at hq
    · obtain ⟨d, hd, -⟩ := Option.map_eq_some_iff.mp hq
      exact hf.isFolder_dropLast hd
    · exact hf.isFolder_dropLast hq
  · rw [isFolder_touch]
    exact hq
  · by_cases hqp : q = p
    · rw [hqp, fileAt?_eq_none_of_isFolder hp]
      exact fileAt?_eq_none_of_isFolder (isFolder_touch.trans hp)
    · refine fileAt?_congr ?_
      rw [get?_touch, if_neg fun h => hqp h.1]

theorem putFile (hf : f.IsTree) (hp : f.isFolder p = false) (hup : f.isFolder p.dropLast = true)
    (hchanged : changed p) (c : Contents) (t : Int) : f.Grows (f.put p (.file c t)) changed :=
  of_get? hf rfl hp hup (fun _ hq => get?_put_of_ne f hq _) (fun _ _ => hchanged) fun _ => hchanged

theorem putFolder (hf : f.IsTree) (hp : f.get? p = none) (hup : f.isFolder p.dropLast = true)
    (t : Int) : f.Grows (f.put p (.folder t)) changed := by
  have hroot : p ≠ [] := by
    rintro rfl
    cases hp
  have hfolder : f.isFolder p = false := by rw [Files.isFolder, hp]; rfl
  have hfile : (f.put p (.folder t)).fileAt? p = none := by rw [fileAt?, get?_put_self f hroot]
  refine of_get? hf rfl hfolder hup (fun _ hq => get?_put_of_ne f hq _) ?_ ?_
  · intro x hx
    rw [hfile] at hx
    cases hx
  · intro hne
    rw [fileAt?, hp] at hne
    exact absurd rfl hne

theorem erase (hf : f.IsTree) {x : Contents × Int} (hp : f.fileAt? p = some x)
    (hchanged : changed p) : f.Grows (f.erase p) changed := by
  obtain ⟨c, t⟩ := x
  have hget := fileAt?_eq_some_iff.mp hp
  have hfolder : f.isFolder p = false := by rw [Files.isFolder, hget]; rfl
  refine of_get? hf rfl hfolder (hf.isFolder_dropLast hget) ?_ (fun _ _ => hchanged)
    fun _ => hchanged
  intro q hq
  rw [hf.get?_erase hp, if_neg hq]

/-- To make something new touches the folder that it is made in. -/
theorem create (hfg : f.Grows (f.put p e) changed) (hup : f.isFolder p.dropLast = true) :
    f.Grows (f.create now p e) changed :=
  hfg.trans (touch hfg.isTree (hfg.isFolder hup) now)

end Grows

end Files

end AdFilter
