import AdFilter.Pattern.Wildcard

/-!
# Entries of filter lists

A filter list mixes three ways to write a rule, and each line is judged by itself, the first way
that applies deciding:

* `||domain^…` blocks a domain;
* `0.0.0.0 domain` and `127.0.0.1 domain` block one too, as in a hosts file;
* any other line with `*` or `?` in it is a wildcard rule.

Blank lines, comments (`!`, `#`) and headers (`[`) say nothing, and so does any other line. The
user's own list of overrides is simpler: it holds domains, alone or after an address.
-/

namespace AdFilter

open Text

/-- What a line of a filter list blocks. -/
inductive Entry where
  | domain (name : List Char)
  /-- the addresses that a pattern, given by its source, matches -/
  | pattern (source : List Char)
deriving Repr, DecidableEq

/-- Whether a text is taken for a domain: more than three bytes, a dot and no white space. -/
def isValidDomain (d : List Char) : Bool :=
  3 < utf8Length d && d.contains '.' && !d.any isBlank

/-- The entry for a domain, in lower case, if it is taken for one. -/
def Entry.ofDomain? (d : List Char) : Option Entry :=
  if isValidDomain d then some (.domain (lower d)) else none

/-- What stands between `||` at the start of a line and the next `^`. -/
def anchoredDomain? (line : List Char) : Option (List Char) := do
  let rest ← dropFront? ['|', '|'] line
  if rest.contains '^' then return rest.takeWhile (· != '^') else none

/-- The addresses that a hosts file gives to domains that shall not be reached. -/
def sinkAddresses : List (List Char) := ["0.0.0.0".toList, "127.0.0.1".toList]

/-- What a line of a filter list blocks, if anything. -/
def Entry.ofLine? (line : List Char) : Option Entry :=
  let line := trim line
  if line.isEmpty || line.head?.any ['!', '#', '['].contains then none
  else match anchoredDomain? line with
    | some d => Entry.ofDomain? d
    | none =>
      if sinkAddresses.any (·.isPrefixOf line) then
        match words line with
        | _ :: d :: _ => Entry.ofDomain? d
        | _ => none
      else if line.contains '*' || line.contains '?' then some (.pattern (Wildcard.source line))
      else none

/-- What a filter list blocks: domains, and sources of patterns, each in the order of the lines. -/
structure FilterList where
  domains : List (List Char) := []
  patterns : List (List Char) := []
deriving Repr, DecidableEq

namespace FilterList

/-- The list of what some entries block. -/
def ofEntries (entries : List Entry) : FilterList where
  domains := entries.filterMap fun
    | .domain d => some d
    | .pattern _ => none
  patterns := entries.filterMap fun
    | .domain _ => none
    | .pattern p => some p

/-- What the text of a filter list blocks. -/
def ofText (text : List Char) : FilterList := ofEntries ((lines text).filterMap Entry.ofLine?)

end FilterList

/-- The domain in a line of the user's overrides: the second word, or the only one. -/
def overrideDomain? (line : List Char) : Option (List Char) :=
  let line := trim line
  if line.isEmpty || line.head? == some '#' then none
  else
    let domain := match words line with
      | _ :: d :: _ => d
      | [d] => d
      | [] => []
    if domain.contains '.' then some (lower domain) else none

/-- The domains in the text of the user's overrides. -/
def overrideDomains (text : List Char) : List (List Char) :=
  (lines text).filterMap overrideDomain?

end AdFilter
