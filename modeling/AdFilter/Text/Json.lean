import AdFilter.Text.Layout

/-!
# Values as JSON

Values written as JSON over several lines, with two spaces for each level.
-/

namespace AdFilter.Text

/-- A value to be written as JSON. -/
inductive Json where
  | null
  | bool (b : Bool)
  | number (n : Nat)
  | text (cs : List Char)
  | array (vs : List Json)
  | object (fields : List (List Char × Json))

namespace Json

/-- A character inside a text. -/
def charText (c : Char) : List Char :=
  match c with
  | '"' => ['\\', '"']
  | '\\' => ['\\', '\\']
  | '\x08' => ['\\', 'b']
  | '\x0c' => ['\\', 'f']
  | '\n' => ['\\', 'n']
  | '\r' => ['\\', 'r']
  | '\t' => ['\\', 't']
  | c =>
    if c.toNat < 0x20 then '\\' :: 'u' :: '0' :: '0' :: (Nat.toDigits 16 (c.toNat + 0x100)).tail
    else [c]

/-- A text between quotation marks. -/
def quote (cs : List Char) : List Char := '"' :: cs.flatMap charText ++ ['"']

/-- The start of a line. -/
def indent (level : Nat) : List Char := '\n' :: List.replicate (2 * level) ' '

/-- Parts on lines of their own, between an opening and a closing mark. -/
def block (level : Nat) (opening closing : Char) (parts : List (List Char)) : List Char :=
  if parts.isEmpty then [opening, closing]
  else
    opening :: joinWith [','] (parts.map (indent (level + 1) ++ ·)) ++ indent level ++ [closing]

mutual

/-- The written form of a value at a level. -/
def render (level : Nat) : Json → List Char
  | null => "null".toList
  | bool b => (if b then "true" else "false").toList
  | number n => Nat.toDigits 10 n
  | text cs => quote cs
  | array vs => block level '[' ']' (renderAll (level + 1) vs)
  | object fields => block level '\x7b' '\x7d' (renderFields (level + 1) fields)

/-- The written forms of several values. -/
def renderAll (level : Nat) : List Json → List (List Char)
  | [] => []
  | v :: vs => v.render level :: renderAll level vs

/-- The written forms of several fields. -/
def renderFields (level : Nat) : List (List Char × Json) → List (List Char)
  | [] => []
  | (name, v) :: fields => (quote name ++ ':' :: ' ' :: v.render level) :: renderFields level fields

end

/-- A value or `null`. -/
def ofOption (f : α → Json) : Option α → Json
  | some a => f a
  | none => null

end Json

end AdFilter.Text
