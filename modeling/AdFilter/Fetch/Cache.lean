import AdFilter.Files.Basic

/-!
# The cache

Every list that is downloaded is kept in a file, in a folder for all of them. A file that is young
enough is used in place of a download. A file is replaced as a whole: the new text goes into a file
beside it, which then takes its name.
-/

namespace AdFilter.Cache

/-- The age, in milliseconds, above which a file has to be downloaded again: a day. -/
def staleAfter : Nat := 24 * 60 * 60 * 1000

/-- A path that is taken from a folder, unless it starts from the root. -/
def pathIn (folder path : List Char) : List Char :=
  if Files.isAbsolute path || folder.isEmpty then path
  else if folder.getLast? = some '/' then folder ++ path
  else folder ++ '/' :: path

/-- The file for the list of a given name. -/
def path (folder name : List Char) : List Char := pathIn folder (name ++ ".txt".toList)

/-- The last part of a path. -/
def lastName (path : List Char) : List Char := (path.reverse.takeWhile (· != '/')).reverse

/-- A name without its last dot and what follows. A name that begins with its only dot is whole. -/
def stem (name : List Char) : List Char :=
  let front := (name.reverse.dropWhile (· != '.')).reverse.dropLast
  if front.isEmpty then name else front

/-- The file beside another that is written first. -/
def temporary (path : List Char) : List Char :=
  let name := lastName path
  path.take (path.length - name.length) ++ stem name ++ ".txt.tmp".toList

/-- Whether the list in a file has to be downloaded again. -/
def needsRefresh (f : Files) (now : Int) (path : List Char) : Bool :=
  match f.modified? path with
  | some t => staleAfter < now - t
  | none => true

/-- Replaces what a file of the cache holds, and tells whether that was done. -/
def store (f : Files) (now : Int) (folder path text : List Char) : Files × Bool :=
  match f.makeFolders now folder with
  | (f, false) => (f, false)
  | (f, true) =>
    match f.write? now (temporary path) (.text text) with
    | none => (f, false)
    | some f =>
      match f.rename? now (temporary path) path with
      | none => (f, false)
      | some f => (f, true)

end AdFilter.Cache
