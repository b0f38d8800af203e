import AdFilter.Text.Number

/-!
# Quoted text

Text in a settings file stands between quotation marks, with escapes, or between apostrophes, as it
is. Three marks in a row enclose text of several lines. Every reader here begins behind the opening
marks, and gives the text and what follows the closing ones.
-/

namespace AdFilter.Toml

open Text

/-- Whether a character may stand in a settings file outside of line ends. -/
def isPlain (c : Char) : Bool := c == '\t' || (0x20 ≤ c.toNat && c.toNat != 0x7F)

/-- Puts a character in front of a text that was read. -/
def onto (c : Char) (read : Option (List Char × List Char)) : Option (List Char × List Char) :=
  read.map fun (text, rest) => (c :: text, rest)

/-- The character that a backslash and a letter stand for. -/
def escape? : Char → Option Char
  | 'b' => some '\x08'
  | 'f' => some '\x0c'
  | 'n' => some '\n'
  | 'r' => some '\r'
  | 't' => some '\t'
  | '"' => some '"'
  | '\\' => some '\\'
  | _ => none

/-- The character whose number hexadecimal digits write. -/
def hexChar? (digits : List Char) : Option Char := do charOfNat? (← number? 16 digits)

/-- Reads the character that an escape stands for, behind the backslash. -/
def readEscape? : List Char → Option (Char × List Char)
  | 'u' :: rest => do
    if rest.length < 4 then none else return (← hexChar? (rest.take 4), rest.drop 4)
  | 'U' :: rest => do
    if rest.length < 8 then none else return (← hexChar? (rest.take 8), rest.drop 8)
  | c :: rest => (escape? c).map (·, rest)
  | [] => none

/-- Reads on to the closing quotation mark. -/
def readBasic? : Nat → List Char → Option (List Char × List Char)
  | 0, _ | _, [] => none
  | fuel + 1, c :: rest =>
    if c = '"' then some ([], rest)
    else if c = '\\' then do
      let (c, rest) ← readEscape? rest
      onto c (readBasic? fuel rest)
    else if isPlain c then onto c (readBasic? fuel rest)
    else none

/-- Reads on to the closing apostrophe. -/
def readLiteral? : List Char → Option (List Char × List Char)
  | [] => none
  | c :: rest =>
    if c = '\'' then some ([], rest) else if isPlain c then onto c (readLiteral? rest) else none

/-- What follows a line end at the start of a text. -/
def dropLineEnd? : List Char → Option (List Char)
  | '\n' :: rest | '\r' :: '\n' :: rest => some rest
  | _ => none

/-- Spaces and tabs. -/
def isGap (c : Char) : Bool := c == ' ' || c == '\t'

/-- Whether only spaces and tabs stand before the end of the line. -/
def isAtLineEnd (cs : List Char) : Bool := (dropLineEnd? (cs.dropWhile isGap)).isSome

/-- What follows three marks in a row, and with them the one or two that may still belong to the
text. -/
def readClosing? (mark : Char) (cs : List Char) : Option (List Char × List Char) :=
  match (cs.takeWhile (· == mark)).length with
  | 0 | 1 | 2 => none
  | n + 3 => some (List.replicate (min n 2) mark, cs.drop (3 + min n 2))

/-- Reads on to the closing three quotation marks. A backslash at the end of a line drops the line
end and all blanks that follow; `dropping` is set while it does. -/
def readBasicBlock? : Nat → Bool → List Char → Option (List Char × List Char)
  | 0, _, _ | _, _, [] => none
  | fuel + 1, dropping, c :: rest =>
    match readClosing? '"' (c :: rest), dropLineEnd? (c :: rest) with
    | some closing, _ => some closing
    | none, some rest =>
      if dropping then readBasicBlock? fuel true rest
      else onto '\n' (readBasicBlock? fuel false rest)
    | none, none =>
      if dropping && isGap c then readBasicBlock? fuel true rest
      else if c = '\\' then
        if isAtLineEnd rest then readBasicBlock? fuel true rest
        else do
          let (c, rest) ← readEscape? rest
          onto c (readBasicBlock? fuel false rest)
      else if isPlain c then onto c (readBasicBlock? fuel false rest)
      else none

/-- Reads on to the closing three apostrophes. -/
def readLiteralBlock? : Nat → List Char → Option (List Char × List Char)
  | 0, _ | _, [] => none
  | fuel + 1, c :: rest =>
    match readClosing? '\'' (c :: rest), dropLineEnd? (c :: rest) with
    | some closing, _ => some closing
    | none, some rest => onto '\n' (readLiteralBlock? fuel rest)
    | none, none => if isPlain c then onto c (readLiteralBlock? fuel rest) else none

/-- A text without a line end at its start. -/
def dropFirstLineEnd (cs : List Char) : List Char := (dropLineEnd? cs).getD cs

/-- Reads text between marks of any sort. -/
def readString? : List Char → Option (List Char × List Char)
  | '"' :: '"' :: '"' :: rest => readBasicBlock? (rest.length + 1) false (dropFirstLineEnd rest)
  | '"' :: rest => readBasic? (rest.length + 1) rest
  | '\'' :: '\'' :: '\'' :: rest => readLiteralBlock? (rest.length + 1) (dropFirstLineEnd rest)
  | '\'' :: rest => readLiteral? rest
  | _ => none

end AdFilter.Toml
