/-!
# Values of a settings file

A settings file is a table: keys with values, which may be tables again. Headers and dotted keys
reach into tables that are there already, and may do so only where the table was not finished
otherwise; so every table remembers where it comes from (`Origin`). `update?` is the one operation
that reaches into tables, and knows that rule.
-/

namespace AdFilter.Toml

/-- Where a table comes from. -/
inductive Origin where
  /-- braces; such a table is finished -/
  | braces
  /-- a header of its own -/
  | header
  /-- the header of a table below it -/
  | passed
  /-- a dotted key -/
  | dotted
deriving Repr, DecidableEq

/-- A value of a settings file. -/
inductive Value where
  | string (cs : List Char)
  | integer (n : Int)
  | float
  | boolean (b : Bool)
  /-- a date, a time of day or both, as it is written in full -/
  | moment (cs : List Char)
  | array (vs : List Value)
  | table (origin : Origin) (entries : List (List Char × Value))
  /-- tables under headers of one name, the last one last -/
  | tables (ts : List (List (List Char × Value)))

/-- The entries of a table. -/
abbrev Entries := List (List Char × Value)

namespace Entries

/-- The value of a key. -/
def get? (es : Entries) (key : List Char) : Option Value := es.lookup key

/-- Gives a key a value, in the place of the value it has. -/
def put (key : List Char) (v : Value) : Entries → Entries
  | [] => [(key, v)]
  | (k, w) :: es => if k = key then (k, v) :: es else (k, w) :: put key v es

/-- Changes the last of several tables. -/
def updateLast? (f : Entries → Option Entries) (ts : List Entries) : Option (List Entries) := do
  let last ← ts.getLast?
  return ts.dropLast ++ [← f last]

/-- Changes the table at the end of a path by `f`, which also learns where that table comes from.
Tables that are missing on the way are made, by dotted keys or not; a dotted key cannot reach into
a table that has a header. -/
def update? (dotted : Bool) (f : Origin → Entries → Option Entries) :
    List (List Char) → Origin → Entries → Option Entries
  | [], origin, es => f origin es
  | key :: path, _, es =>
    match es.get? key with
    | none => do
      let made := if dotted then .dotted else .passed
      return es.put key (.table made (← update? dotted f path made []))
    | some (.table origin inner) =>
      if origin == .braces || (dotted && origin == .header) then none
      else (update? dotted f path origin inner).map fun inner => es.put key (.table origin inner)
    | some (.tables ts) =>
      (updateLast? (update? dotted f path .header) ts).map fun ts => es.put key (.tables ts)
    | some _ => none

/-- Gives a value to a key, which may be dotted, in a table of the given origin. Nothing has a
value twice, and a dotted key ends in a table that dotted keys have made. -/
def define? (path : List (List Char)) (key : List Char) (v : Value) : Entries → Option Entries :=
  update? true (fun origin es =>
    if !path.isEmpty && origin != .dotted then none
    else if (es.get? key).isSome then none
    else some (es.put key v)) path .header

/-- Begins the table of a header. -/
def openTable? (path : List (List Char)) (key : List Char) : Entries → Option Entries :=
  update? false (fun _ es =>
    match es.get? key with
    | none => some (es.put key (.table .header []))
    | some (.table .passed inner) => some (es.put key (.table .header inner))
    | some _ => none) path .header

/-- Begins one more table under a header of several. -/
def openTables? (path : List (List Char)) (key : List Char) : Entries → Option Entries :=
  update? false (fun _ es =>
    match es.get? key with
    | none => some (es.put key (.tables [[]]))
    | some (.tables ts) => some (es.put key (.tables (ts ++ [[]])))
    | some _ => none) path .header

end Entries

end AdFilter.Toml
