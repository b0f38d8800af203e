import AdFilter.Log.Entry
import AdFilter.Text.Quoted

/-!
# Log events

What the console shows: events with named fields. A decision is shown as one line of text, or field
by field for programs to read.
-/

namespace AdFilter

open Text

/-- An event for the console. -/
structure LogEvent where
  target : List Char
  /-- the fields with their texts, in order -/
  fields : List (List Char × List Char)
deriving Repr, DecidableEq

namespace LogEvent

/-- An event that is one line of text. -/
def message (target text : List Char) : LogEvent := ⟨target, [("message".toList, text)]⟩

/-- How decisions are shown. -/
inductive Format where
  | line
  | fields
deriving Repr, DecidableEq

/-- The format that a setting names. -/
def Format.ofName (name : List Char) : Format := if name = "json".toList then fields else line

/-- The action with its reason, as a line shows it. -/
def actionText (action : Action) (reason : Option (List Char)) : List Char :=
  let word := match action with
    | .allowed => "ALLOWED".toList
    | .blocked => "BLOCKED".toList
    | .suppressed => "SUPPRESSED".toList
    | .redirected => "REDIRECTED to current view".toList
  match reason with
  | some r => if action.isBlock then word ++ " (".toList ++ r ++ [')'] else word
  | none => word

/-- A text that may be missing, as a field shows it. -/
def optionText : Option (List Char) → List Char
  | some cs => "Some(".toList ++ quoted cs ++ [')']
  | none => "None".toList

/-- What is shown of a decision. -/
def ofEntry (format : Format) (e : LogEntry) : LogEvent :=
  let latency := Nat.toDigits 10 e.latency
  match format with
  | .fields =>
    ⟨"decision".toList, [("url".toList, e.url), ("action".toList, e.action.label),
      ("reason".toList, optionText e.reason), ("lat_us".toList, latency)]⟩
  | .line =>
    message "decision".toList (e.url ++ " -> ".toList ++ actionText e.action e.reason ++
      " [".toList ++ latency ++ "us]".toList)

end LogEvent

end AdFilter
