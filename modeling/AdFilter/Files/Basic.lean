import AdFilter.Text.Layout
import AdFilter.Text.Order
import AdFilter.Text.Utf8

/-!
# Files

Files and folders as a value: what is where, and when it was changed last. A written path is read
by walking along it, so every part of it but the last has to be a folder that is there.

* `get?`, `put` and `erase` are the plain table, with their lemmas;
* `locate?` reads a path;
* `write?`, `makeFolders`, `rename?` and `remove?` are what a program can do, and say when it
  cannot be done.
-/

namespace AdFilter

open Text

/-- What a file holds. -/
inductive Contents where
  | text (cs : List Char)
  /-- bytes that write no text -/
  | bytes (bs : List UInt8)
deriving Repr, DecidableEq

namespace Contents

/-- The contents that some bytes are. -/
def ofBytes (bs : List UInt8) : Contents :=
  match Utf8.decode? bs with
  | some cs => text cs
  | none => bytes bs

/-- The text of contents that are one. -/
def text? : Contents → Option (List Char)
  | text cs => some cs
  | bytes _ => none

end Contents

/-- A place, as the names that lead to it from the root. -/
abbrev Place := List (List Char)

/-- What is at a place. Times count milliseconds. -/
inductive FileEntry where
  | file (contents : Contents) (modified : Int)
  | folder (modified : Int)
deriving Repr, DecidableEq

namespace FileEntry

def modified : FileEntry → Int
  | file _ t | folder t => t

def isFolder : FileEntry → Bool
  | file .. => false
  | folder _ => true

/-- The same with another time of the last change. -/
def touched (now : Int) : FileEntry → FileEntry
  | file c _ => file c now
  | folder _ => folder now

end FileEntry

/-- Files and folders, and the place that paths start from. -/
structure Files where
  entries : List (Place × FileEntry) := []
  home : Place := []

namespace Files

/-! ## The table -/

/-- Puts an entry in the place of the one that is there, or behind all. -/
def putEntry (p : Place) (e : FileEntry) : List (Place × FileEntry) → List (Place × FileEntry)
  | [] => [(p, e)]
  | (q, d) :: rest => if q = p then (p, e) :: rest else (q, d) :: putEntry p e rest

/-- What is at a place. The root is a folder. -/
def get? (f : Files) (p : Place) : Option FileEntry :=
  if p = [] then some (.folder 0) else f.entries.lookup p

def put (f : Files) (p : Place) (e : FileEntry) : Files :=
  { f with entries := putEntry p e f.entries }

/-- The files without what is at a place, and below it. -/
def erase (f : Files) (p : Place) : Files :=
  { f with entries := f.entries.filter fun e => !p.isPrefixOf e.1 }

theorem lookup_putEntry_self (p : Place) (e : FileEntry) (es : List (Place × FileEntry)) :
    (putEntry p e es).lookup p = some e := by
  induction es with
  | nil => simp [putEntry]
  | cons d es ih =>
    obtain ⟨q, d⟩ := d
    by_cases h : q = p
    · simp [putEntry, h]
    · have : (p == q) = false := by simp [Ne.symm h]
      simp [putEntry, h, List.lookup_cons, this, ih]

theorem lookup_putEntry_of_ne {p q : Place} (h : q ≠ p) (e : FileEntry)
    (es : List (Place × FileEntry)) : (putEntry p e es).lookup q = es.lookup q := by
  induction es with
  | nil =>
    have : (q == p) = false := by simp [h]
    simp [putEntry, List.lookup_cons, this]
  | cons d es ih =>
    obtain ⟨r, d⟩ := d
    by_cases hr : r = p
    · subst hr
      have : (q == r) = false := by simp [h]
      simp [putEntry, List.lookup_cons, this]
    · simp only [putEntry, hr, if_false, List.lookup_cons, ih]

theorem lookup_filter_of_keep {keep : Place → Bool} {p : Place} (h : keep p = true)
    (es : List (Place × FileEntry)) :
    (es.filter fun e => keep e.1).lookup p = es.lookup p := by
  induction es with
  | nil => rfl
  | cons d es ih =>
    obtain ⟨q, d⟩ := d
    by_cases hq : keep q = true
    · simp [hq, List.lookup_cons, ih]
    · have : (p == q) = false := by
        simp only [beq_eq_false_iff_ne]
        rintro rfl
        exact hq h
      simp [hq, List.lookup_cons, this, ih]

@[simp] theorem get?_put_self (f : Files) {p : Place} (h : p ≠ []) (e : FileEntry) :
    (f.put p e).get? p = some e := by
  simp [get?, put, h, lookup_putEntry_self]

theorem get?_put_of_ne (f : Files) {p q : Place} (h : q ≠ p) (e : FileEntry) :
    (f.put p e).get? q = f.get? q := by
  simp [get?, put, lookup_putEntry_of_ne h]

theorem get?_erase_of_not_below (f : Files) {p q : Place} (h : ¬ p <+: q) :
    (f.erase p).get? q = f.get? q := by
  have hk : (!p.isPrefixOf q) = true := by
    rw [Bool.not_eq_true', Bool.eq_false_iff, ne_eq, List.isPrefixOf_iff_prefix]
    exact h
  have hl := @lookup_filter_of_keep (fun r => !p.isPrefixOf r) q hk f.entries
  simp only [get?, erase, hl]

/-- Nothing but the folders that lead to a place, from which paths start. -/
def starting (home : Place) (now : Int) : Files where
  entries := (List.range home.length).map fun n => (home.take (n + 1), .folder now)
  home := home

/-! ## Paths -/

/-- One step along a path. -/
inductive Step where
  | here
  | up
  | down (name : List Char)
deriving Repr, DecidableEq

/-- How many bytes a name may have. -/
def nameLimit : Nat := 255

/-- Whether something can have this name. -/
def isName (name : List Char) : Bool := utf8Length name ≤ nameLimit && !name.contains '\x00'

def Step.ofName (name : List Char) : Step :=
  if name.isEmpty || name = ['.'] then here else if name = ['.', '.'] then up else down name

/-- The steps that a path writes. -/
def steps (path : List Char) : List Step := (splitOn '/' path).map Step.ofName

/-- Whether a path starts from the root. -/
def isAbsolute (path : List Char) : Bool := path.head? == some '/'

def isFolder (f : Files) (p : Place) : Bool := (f.get? p).any (·.isFolder)

/-- Where some steps lead from a place; each starts in a folder. -/
def walk? (f : Files) : Place → List Step → Option Place
  | p, [] => some p
  | p, s :: rest =>
    if f.isFolder p then
      match s with
      | .here => walk? f p rest
      | .up => walk? f p.dropLast rest
      | .down name => if isName name then walk? f (p ++ [name]) rest else none
    else none

/-- Where a path starts. -/
def startOf (f : Files) (path : List Char) : Place := if isAbsolute path then [] else f.home

/-- The place that a path names; something need not be there. -/
def locate? (f : Files) (path : List Char) : Option Place :=
  if path.isEmpty then none else f.walk? (f.startOf path) (steps path)

/-- What a path leads to. -/
def stat? (f : Files) (path : List Char) : Option FileEntry := do f.get? (← f.locate? path)

/-- When what a path leads to was changed last. -/
def modified? (f : Files) (path : List Char) : Option Int := (f.stat? path).map (·.modified)

/-- The text of the file that a path leads to. -/
def readText? (f : Files) (path : List Char) : Option (List Char) :=
  match f.stat? path with
  | some (.file c _) => c.text?
  | _ => none

/-! ## Changes -/

/-- Marks what is at a place as changed. -/
def touch (f : Files) (now : Int) (p : Place) : Files :=
  match f.get? p with
  | some e => if p = [] then f else f.put p (e.touched now)
  | none => f

/-- Puts something new into its folder, which is thereby changed. -/
def create (f : Files) (now : Int) (p : Place) (e : FileEntry) : Files :=
  (f.put p e).touch now p.dropLast

/-- Replaces what a file holds, and makes it if need be. -/
def write? (f : Files) (now : Int) (path : List Char) (c : Contents) : Option Files := do
  let p ← f.locate? path
  match f.get? p with
  | some (.folder _) => none
  | some (.file ..) => return f.put p (.file c now)
  | none => return f.create now p (.file c now)

/-- Makes the folders that are missing along some steps, and tells whether all are there in the
end. -/
def makeAlong (now : Int) : Files → Place → List Step → Files × Bool
  | f, _, [] => (f, true)
  | f, p, .here :: rest => makeAlong now f p rest
  | f, p, .up :: rest => makeAlong now f p.dropLast rest
  | f, p, .down name :: rest =>
    if isName name then
      match f.get? (p ++ [name]) with
      | some (.folder _) => makeAlong now f (p ++ [name]) rest
      | some (.file ..) => (f, false)
      | none => makeAlong now (f.create now (p ++ [name]) (.folder now)) (p ++ [name]) rest
    else (f, false)

/-- Makes the folders of a path that are missing, and tells whether all are there in the end. -/
def makeFolders (f : Files) (now : Int) (path : List Char) : Files × Bool :=
  if path.contains '\x00' then (f, false) else makeAlong now f (f.startOf path) (steps path)

/-- Moves a file to another path, in the place of the file that is there. -/
def rename? (f : Files) (now : Int) (old new : List Char) : Option Files := do
  let p ← f.locate? old
  let q ← f.locate? new
  match f.get? p, f.get? q with
  | some (.file c t), none | some (.file c t), some (.file ..) =>
    return (((f.erase p).put q (.file c t)).touch now p.dropLast).touch now q.dropLast
  | _, _ => none

/-- Removes a file, or a folder with all that is in it. -/
def remove? (f : Files) (now : Int) (path : List Char) : Option Files := do
  let p ← f.locate? path
  if p = [] then none
  else do
    let _ ← f.get? p
    return (f.erase p).touch now p.dropLast

/-- Sets the time of the last change. -/
def setModified? (f : Files) (t : Int) (path : List Char) : Option Files := do
  let p ← f.locate? path
  let e ← f.get? p
  return f.put p (e.touched t)

/-- The paths of all that is below the starting place, in order; those of folders end in a slash. -/
def listing (f : Files) : List (List Char) :=
  sortBy id (f.entries.filterMap fun (p, e) =>
    match p.drop f.home.length with
    | [] => none
    | names =>
      if f.home.isPrefixOf p then
        some (joinWith ['/'] names ++ if e.isFolder then ['/'] else [])
      else none)

end Files

end AdFilter
