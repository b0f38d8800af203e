import AdFilter.Files.Basic
import AdFilter.Log.Logger
import AdFilter.Text.Order
import AdFilter.Toml.Reader
import AdFilter.Url.Basic

/-!
# Settings

What the user can choose. Every choice has a default, so an empty settings file is a valid one, and
keys that mean nothing are passed over. A value of the wrong sort makes the whole file invalid.
-/

namespace AdFilter

open Text

/-- How lists are kept up to date. -/
structure UpdateSettings where
  intervalHours : Nat := 24
  concurrentDownloads : Nat := 4
  requestTimeoutSecs : Nat := 30
deriving Repr, DecidableEq

/-- How often the counters are shown. -/
structure StatsSettings where
  enable : Bool := true
  logIntervalSeconds : Nat := 300
deriving Repr, DecidableEq

/-- The remote lists that are used unless others are named: name and address. -/
def defaultSources : List (List Char × List Char) := [
  ("EasyList".toList, "https://easylist.to/easylist/easylist.txt".toList),
  ("EasyPrivacy".toList, "https://easylist.to/easylist/easyprivacy.txt".toList),
  ("FanboysAnnoyance".toList, "https://easylist.to/easylist/fanboy-annoyance.txt".toList),
  ("StevenBlackHosts".toList,
    "https://raw.githubusercontent.com/StevenBlack/hosts/master/hosts".toList),
  ("AdGuardBase".toList,
    ("https://raw.githubusercontent.com/AdguardTeam/AdguardFilters/master/" ++
      "BaseFilter/sections/adservers.txt").toList),
  ("UBlockOriginFilters".toList,
    "https://raw.githubusercontent.com/uBlockOrigin/uAssets/master/filters/filters.txt".toList)]

/-- All that the user can choose. -/
structure Settings where
  enabled : Bool := true
  cacheDir : List Char := "FilterLists".toList
  overrideFile : List Char := "adblocker_hosts.txt".toList
  /-- the remote lists: name and address -/
  sources : List (List Char × List Char) := defaultSources
  updates : UpdateSettings := {}
  logging : LogSettings := {}
  stats : StatsSettings := {}
deriving Repr, DecidableEq

namespace Settings

/-- The remote lists to be used, in the order of their names: those at addresses of the web. -/
def sourcesSorted (s : Settings) : List (List Char × List Char) :=
  sortBy (·.1) (s.sources.filter fun (_, url) =>
    match Url.ofText? url with
    | some u => u.scheme = "http".toList || u.scheme = "https".toList
    | none => false)

/-! ## Reading -/

open Toml

/-- A value that is there, or the default. -/
def orDefault (read : Value → Option α) (default : α) : Option Value → Option α
  | some v => read v
  | none => some default

def readBool? : Value → Option Bool
  | .boolean b => some b
  | _ => none

/-- A number of things. -/
def readNat? : Value → Option Nat
  | .integer n => if 0 ≤ n then some n.toNat else none
  | _ => none

def readText? : Value → Option (List Char)
  | .string cs => some cs
  | _ => none

def readTexts? : Value → Option (List (List Char))
  | .array vs => vs.mapM readText?
  | _ => none

/-- The key under which a date stands for itself where a table is wanted. -/
def momentKey : List Char := "$__toml_private_datetime".toList

/-- The entries of a table of texts. -/
def readTextTable? : Value → Option (List (List Char × List Char))
  | .table _ es => es.mapM fun (k, v) => (readText? v).map (k, ·)
  | .moment text => some [(momentKey, text)]
  | _ => none

/-- Where the fields of a group come from: a table has them by name, an array by position. -/
def fieldsOf? (names : List (List Char)) : Value → Option (List (Option Value))
  | .table _ es => some (names.map fun n => Entries.get? es n)
  | .array vs => some ((List.range names.length).map (vs[·]?))
  | .tables ts => some ((List.range names.length).map fun i => ts[i]?.map (.table .header))
  | .moment _ => some (names.map fun _ => none)
  | _ => none

/-- Reads how lists are kept up to date. -/
def readUpdates? (v : Value) : Option UpdateSettings := do
  let d : UpdateSettings := {}
  match ← fieldsOf? ["interval_hours".toList, "concurrent_downloads".toList,
    "request_timeout_secs".toList] v with
  | [interval, concurrent, timeout] =>
    return {
      intervalHours := ← orDefault readNat? d.intervalHours interval
      concurrentDownloads := ← orDefault readNat? d.concurrentDownloads concurrent
      requestTimeoutSecs := ← orDefault readNat? d.requestTimeoutSecs timeout }
  | _ => none

/-- Reads what is logged. -/
def readLogging? (v : Value) : Option LogSettings := do
  let d : LogSettings := {}
  match ← fieldsOf? ["enable".toList, "level".toList, "format".toList, "log_blocked".toList,
    "log_allowed".toList, "sinks".toList] v with
  | [enable, level, format, blocked, allowed, sinks] =>
    return {
      enable := ← orDefault readBool? d.enable enable
      level := ← orDefault readText? d.level level
      format := ← orDefault readText? d.format format
      logBlocked := ← orDefault readBool? d.logBlocked blocked
      logAllowed := ← orDefault readBool? d.logAllowed allowed
      sinks := ← orDefault readTexts? d.sinks sinks }
  | _ => none

/-- Reads how often the counters are shown. -/
def readStats? (v : Value) : Option StatsSettings := do
  let d : StatsSettings := {}
  match ← fieldsOf? ["enable".toList, "log_interval_seconds".toList] v with
  | [enable, interval] =>
    return {
      enable := ← orDefault readBool? d.enable enable
      logIntervalSeconds := ← orDefault readNat? d.logIntervalSeconds interval }
  | _ => none

/-- The settings that the entries of a settings file make. -/
def ofEntries? (es : Entries) : Option Settings := do
  let d : Settings := {}
  return {
    enabled := ← orDefault readBool? d.enabled (es.get? "enabled".toList)
    cacheDir := ← orDefault readText? d.cacheDir (es.get? "cache_dir".toList)
    overrideFile := ← orDefault readText? d.overrideFile (es.get? "override_file".toList)
    sources := ← orDefault readTextTable? d.sources (es.get? "sources".toList)
    updates := ← orDefault readUpdates? d.updates (es.get? "updates".toList)
    logging := ← orDefault readLogging? d.logging (es.get? "logging".toList)
    stats := ← orDefault readStats? d.stats (es.get? "stats".toList) }

/-- Why settings cannot be had. -/
inductive LoadError where
  /-- there is no such file, or it holds no text -/
  | unreadable
  /-- the file breaks a rule -/
  | invalid
deriving Repr, DecidableEq

def LoadError.text : LoadError → List Char
  | unreadable => "Failed to read config file".toList
  | invalid => "Failed to parse config TOML".toList

/-- The settings that the text of a settings file makes. -/
def ofText (cs : List Char) : Except LoadError Settings :=
  match Toml.ofText? cs >>= ofEntries? with
  | some s => .ok s
  | none => .error .invalid

/-- Loads the settings from a file. -/
def load (f : Files) (path : List Char) : Except LoadError Settings :=
  match f.readText? path with
  | some cs => ofText cs
  | none => .error .unreadable

end Settings

end AdFilter
