import AdFilter.Toml.Quoted
import AdFilter.Toml.Scalar

/-!
# Reading a settings file

A settings file is a row of lines: headers, each of which begins a table, and keys with values,
which go into the table begun last. Arrays may go over several lines, tables in braces may not.

`Toml.ofText?` is the table that a whole file writes, unless the file breaks a rule. Nesting is
limited to `nestLimit`.
-/

namespace AdFilter.Toml

open Text

/-- How deep arrays and braces may be nested, and how many parts a dotted key may have, before it
is too much. -/
def nestLimit : Nat := 80

/-! ## Blanks and comments -/

/-- A text without spaces and tabs at its start. -/
def skipGap (cs : List Char) : List Char := cs.dropWhile isGap

/-- What follows the blanks, line ends and comments at the start of a text; a comment has to end
with its line. `inComment` is set behind the mark of one. -/
def skipLines? (inComment : Bool) : List Char → Option (List Char)
  | [] => if inComment then none else some []
  | '\r' :: '\n' :: rest => skipLines? false rest
  | c :: rest =>
    if c = '\n' then skipLines? false rest
    else if inComment then if isPlain c then skipLines? true rest else none
    else if isGap c then skipLines? false rest
    else if c = '#' then skipLines? true rest
    else some (c :: rest)

/-- What follows the end of a line, in front of which blanks and a comment may stand. -/
def endLine? (cs : List Char) : Option (List Char) :=
  let rest := match skipGap cs with
    | '#' :: rest => rest.dropWhile isPlain
    | rest => rest
  if rest.isEmpty then some [] else dropLineEnd? rest

/-! ## Keys -/

/-- Whether a character may stand in a key without quotation marks. -/
def isKeyChar (c : Char) : Bool := c.isAlphanum || c == '-' || c == '_'

/-- Reads one part of a key. -/
def readKeyPart? (cs : List Char) : Option (List Char × List Char) :=
  match cs with
  | '"' :: rest => readBasic? (rest.length + 1) rest
  | '\'' :: rest => readLiteral? rest
  | _ =>
    let key := cs.takeWhile isKeyChar
    if key.isEmpty then none else some (key, cs.drop key.length)

/-- Reads the parts of a key, with dots between them and blanks around them. -/
def readParts? : Nat → List Char → Option (List (List Char) × List Char)
  | 0, _ => none
  | fuel + 1, cs => do
    let (part, rest) ← readKeyPart? (skipGap cs)
    match skipGap rest with
    | '.' :: rest =>
      let (parts, rest) ← readParts? fuel rest
      return (part :: parts, rest)
    | rest => return ([part], rest)

/-- A key as a path and the last part. -/
def readKey? (cs : List Char) : Option ((List (List Char) × List Char) × List Char) := do
  let (parts, rest) ← readParts? cs.length cs
  if nestLimit ≤ parts.length then none
  else return ((parts.dropLast, ← parts.getLast?), rest)

/-! ## Values -/

mutual

/-- Reads a value; `depth` counts the arrays and braces around it. -/
def readValue? : Nat → Nat → List Char → Option (Value × List Char)
  | 0, _, _ => none
  | fuel + 1, depth, cs =>
    match cs with
    | [] => none
    | '[' :: rest => do
      if nestLimit ≤ depth + 1 then none
      else
        let (vs, rest) ← readElements? fuel (depth + 1) rest
        return (.array vs, rest)
    | '{' :: rest => do
      if nestLimit ≤ depth + 1 then none
      else
        let (es, rest) ← match skipGap rest with
          | '}' :: rest => some ([], rest)
          | rest => readEntries? fuel (depth + 1) [] rest
        return (.table .braces es, rest)
    | c :: _ =>
      if c = '"' || c = '\'' then (readString? cs).map fun (text, rest) => (.string text, rest)
      else readScalar? cs

/-- Reads on to the end of an array. -/
def readElements? : Nat → Nat → List Char → Option (List Value × List Char)
  | 0, _, _ => none
  | fuel + 1, depth, cs => do
    match ← skipLines? false cs with
    | ']' :: rest => return ([], rest)
    | rest =>
      let (v, rest) ← readValue? fuel depth rest
      match ← skipLines? false rest with
      | ']' :: rest => return ([v], rest)
      | ',' :: rest =>
        let (vs, rest) ← readElements? fuel depth rest
        return (v :: vs, rest)
      | _ => none

/-- Reads on to the end of a table in braces, that has some entries already. -/
def readEntries? : Nat → Nat → Entries → List Char → Option (Entries × List Char)
  | 0, _, _, _ => none
  | fuel + 1, depth, es, cs => do
    let ((path, key), rest) ← readKey? cs
    let rest ← drop? '=' rest
    let (v, rest) ← readValue? fuel depth (skipGap rest)
    let es ← es.define? path key v
    match skipGap rest with
    | '}' :: rest => return (es, rest)
    | ',' :: rest => readEntries? fuel depth es rest
    | _ => none

end

/-! ## Lines -/

/-- What has been read: all entries, and the header of the table that the next ones go into. -/
structure Progress where
  entries : Entries := []
  header : List (List Char) := []

namespace Progress

/-- Gives a value to a key in the table that was begun last. -/
def define? (p : Progress) (path : List (List Char)) (key : List Char) (v : Value) :
    Option Progress := do
  let es ← Entries.update? false (fun _ es => es.define? path key v) p.header .header p.entries
  return { p with entries := es }

/-- Begins the table of a header, or one more of several. -/
def open? (several : Bool) (p : Progress) (path : List (List Char)) (key : List Char) :
    Option Progress := do
  let es ← if several then p.entries.openTables? path key else p.entries.openTable? path key
  return ⟨es, path ++ [key]⟩

end Progress

/-- Reads a header behind its opening brackets. -/
def readHeader? (several : Bool) (p : Progress) (cs : List Char) :
    Option (Progress × List Char) := do
  let ((path, key), rest) ← readKey? cs
  let rest ← drop? ']' rest
  let rest ← if several then drop? ']' rest else some rest
  let rest ← endLine? rest
  return (← p.open? several path key, rest)

/-- Reads a key and its value. -/
def readDefinition? (p : Progress) (cs : List Char) : Option (Progress × List Char) := do
  let ((path, key), rest) ← readKey? cs
  let rest := skipGap (← drop? '=' rest)
  let (v, rest) ← readValue? (2 * rest.length + 2) 0 rest
  let rest ← endLine? rest
  return (← p.define? path key v, rest)

/-- Reads line after line to the end. -/
def readLinesFrom? : Nat → Progress → List Char → Option Progress
  | 0, _, _ => none
  | fuel + 1, p, cs =>
    match skipGap cs with
    | [] => some p
    | '[' :: '[' :: rest => do
      let (p, rest) ← readHeader? true p rest
      readLinesFrom? fuel p rest
    | '[' :: rest => do
      let (p, rest) ← readHeader? false p rest
      readLinesFrom? fuel p rest
    | c :: rest =>
      if c = '#' || c = '\n' || c = '\r' then do
        readLinesFrom? fuel p (← endLine? (c :: rest))
      else do
        let (p, rest) ← readDefinition? p (c :: rest)
        readLinesFrom? fuel p rest

/-- The entries that the text of a settings file writes. A mark of the byte order may stand in
front. -/
def ofText? (cs : List Char) : Option Entries :=
  let cs := match cs with
    | '\ufeff' :: rest => rest
    | _ => cs
  (readLinesFrom? (cs.length + 1) {} cs).map (·.entries)

end AdFilter.Toml
