import AdFilter.Command.Basic

/-!
# The program

Reads the settings file that is named, or the usual one, brings in the rules, and answers commands
from the standard input. There is no network here, so remote lists are had from the cache alone.
-/

namespace AdFilter.Program

/-- The bytes of a file, if it can be read. -/
def readBytes? (path : List Char) : IO (Option (List UInt8)) := do
  try
    return some (← IO.FS.readBinFile (String.ofList path)).toList
  catch _ => return none

/-- The files among some paths that can be read, as a value. -/
def readFiles (paths : List (List Char)) : IO Files := do
  let mut files := Files.starting [] 0
  for path in paths do
    if let some bytes ← readBytes? path then
      let folder := path.take (path.length - (Cache.lastName path).length)
      files := (files.makeFolders 0 folder).1
      files := (files.write? 0 path (.ofBytes bytes)).getD files
  return files

/-- Writes the user's file of overrides if it is new. -/
def writeOverrides (before after : Files) (path : List Char) : IO Unit := do
  if (before.stat? path).isNone then
    if let some text := after.readText? path then
      IO.FS.writeFile (String.ofList path) (String.ofList text)

/-- Answers the commands of the standard input. -/
partial def answer (input output : IO.FS.Stream) (s : System) : IO Unit := do
  let line ← input.getLine
  if line.isEmpty then return
  let (text, s) := Session.run s line.toList
  output.putStr (String.ofList text)
  output.flush
  answer input output s

/-- Runs the program with a settings file. -/
def run (path : List Char) : IO UInt32 := do
  match Session.settings (← readFiles [path]) path with
  | .error e =>
    IO.eprintln (String.ofList ("Error: ".toList ++ e.text))
    return 1
  | .ok settings =>
    let lists := settings.sourcesSorted.map fun (name, _) => Cache.path settings.cacheDir name
    let files ← readFiles (settings.overrideFile :: lists)
    let clock : Clock := ⟨0, fun _ => 0, fun t => t⟩
    let s := Session.start settings files { otherwise := .transport "no network".toList } clock
    writeOverrides files s.files settings.overrideFile
    answer (← IO.getStdin) (← IO.getStdout) s
    return 0

end AdFilter.Program

/-- The entry point: the first argument names the settings file. -/
def main (args : List String) : IO UInt32 :=
  AdFilter.Program.run ((args.head?.map String.toList).getD AdFilter.Session.defaultPath)
