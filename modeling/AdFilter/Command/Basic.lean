import AdFilter.Command.Report
import AdFilter.Engine.System

/-!
# The command line

Commands come one on a line: a word, and behind a space what it is about. A line that begins with
no such word is an address to be judged.
-/

namespace AdFilter

open Text

/-- What a line asks for. -/
inductive Command where
  | nothing
  /-- judge a navigation -/
  | navigate (url : List Char)
  | addDomain (domain : List Char)
  | removeDomain (domain : List Char)
  | enable
  | disable
  /-- fetch the lists again -/
  | refresh
  | statistics
  /-- judge a request -/
  | check (url : List Char)
deriving Repr, DecidableEq

namespace Command

/-- The command on a line. -/
def ofLine (line : List Char) : Command :=
  let line := trim line
  let word := line.takeWhile (· != ' ')
  let rest := trim (line.drop (word.length + 1))
  if word = [] then nothing
  else if word = "nav".toList then navigate rest
  else if word = "add".toList then addDomain rest
  else if word = "remove".toList then removeDomain rest
  else if word = "enable".toList then enable
  else if word = "disable".toList then disable
  else if word = "refresh".toList then refresh
  else if word = "stats".toList then statistics
  else check word

/-- Does what a command asks for, and gives the text that is printed. -/
def run (s : System) : Command → List Char × System
  | nothing => ([], s)
  | navigate url =>
    let (verdict, s) := s.navigate url
    match verdict with
    | .suppress w => ("SUPPRESS ".toList ++ url ++ " (".toList ++ w.term ++ ")\n".toList, s)
    | .redirect => ("REDIRECT ".toList ++ url ++ ['\n'], s)
  | addDomain d => ([], { s with engine := s.engine.addDomain d })
  | removeDomain d => ([], { s with engine := s.engine.removeDomain d })
  | enable => ([], s.setEnabled true)
  | disable => ([], s.setEnabled false)
  | refresh =>
    let (accepted, s) := s.trigger
    (if accepted = some true then [] else "refresh already pending\n".toList, s.settle)
  | statistics => ((Report.statistics s.engine.statistics).render 0 ++ ['\n'], s)
  | check url =>
    let (reason, s) := s.check url
    match reason with
    | some r => ("BLOCK ".toList ++ url ++ " (".toList ++ r.text ++ ")\n".toList, s)
    | none => ("ALLOW ".toList ++ url ++ ['\n'], s)

end Command

/-! ## Sessions -/

namespace Session

/-- The settings file that is used unless another is named. -/
def defaultPath : List Char := "config.toml".toList

/-- The settings for a run: those of the file, or the defaults if there is no such file. -/
def settings (files : Files) (path : List Char) : Except Settings.LoadError Settings :=
  if (files.stat? path).isSome then Settings.load files path else .ok {}

/-- The milliseconds between two passes of the scheduler. Their count of seconds has 64 bits. -/
def period (s : Settings) : Nat := (max s.updates.intervalHours 1 * 3600) % Nat.pow 2 64 * 1000

/-- The engine with its scheduler, ready for commands. -/
def start (s : Settings) (files : Files) (web : Web) (clock : Clock) : System :=
  (System.initialise s files web clock).startScheduler (period s)

/-- Carries out the commands of an input, and gives all that is printed. -/
def run (s : System) (input : List Char) : List Char × System :=
  (lines input).foldl (fun (out, s) line =>
    let (more, s) := (Command.ofLine line).run s
    (out ++ more, s)) ([], s)

end Session

end AdFilter
