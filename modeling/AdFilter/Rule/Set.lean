import AdFilter.Rule.Entry
import AdFilter.Rule.Reason
import AdFilter.Rule.Request

/-!
# Sets of rules

What is blocked at one moment: a set of domains, and patterns in the order in which they came. A
pattern is there once, however often its source is loaded again.

* `addDomain`, `removeDomain`, `addPattern?` and `apply` change a set;
* `Batch` holds rules on their way into a set, with their patterns already read;
* `reason?` is the judgement on a request.
-/

namespace AdFilter

open Text

/-- A pattern and the text it was read from. -/
structure PatternRule where
  source : List Char
  pattern : Pattern

/-- The rule that a source writes. -/
def PatternRule.ofSource? (source : List Char) : Option PatternRule :=
  (Pattern.ofSource? source).map (⟨source, ·⟩)

/-- The form in which a domain is stored. -/
def normalDomain (d : List Char) : List Char := lower (dropEndWhile (· == '.') (trim d))

/-- The domains that a host is below, the nearest first. -/
def parentDomains : List Char → List (List Char)
  | [] => []
  | c :: rest =>
    if c = '.' then if rest.isEmpty then [] else rest :: parentDomains rest
    else parentDomains rest

/-- Rules on their way into a set. -/
structure Batch where
  domains : List (List Char) := []
  patterns : List PatternRule := []

/-- The rules of a list. Sources that write no pattern are left out. -/
def Batch.ofList (l : FilterList) : Batch where
  domains := l.domains.map lower
  patterns := l.patterns.filterMap PatternRule.ofSource?

/-- Without patterns there are no sources. -/
theorem PatternRule.perm_nil :
    ([] : List (List Char)).Perm (([] : List PatternRule).map (·.source)) := .nil

/-- What is blocked. -/
structure RuleSet where
  domains : List (List Char) := []
  patterns : List PatternRule := []
  /-- the sources of the patterns, in which a source is looked up -/
  known : List (List Char) := []
  known_perm : known.Perm (patterns.map (·.source)) := by exact PatternRule.perm_nil

namespace RuleSet

/-- How many rules of either sort there are. -/
structure Counts where
  domains : Nat
  patterns : Nat
deriving Repr, DecidableEq

def counts (s : RuleSet) : Counts := ⟨s.domains.length, s.patterns.length⟩

/-- Blocks a domain, unless its normal form is empty. -/
def addDomain (s : RuleSet) (d : List Char) : RuleSet :=
  if (normalDomain d).isEmpty then s else { s with domains := s.domains.insert (normalDomain d) }

/-- Blocks a domain no longer. -/
def removeDomain (s : RuleSet) (d : List Char) : RuleSet :=
  { s with domains := s.domains.erase (normalDomain d) }

/-- Whether a pattern with this source is there. -/
def hasSource (s : RuleSet) (source : List Char) : Bool := s.known.contains source

/-- Puts a pattern behind the others, unless its source is there. -/
def insertPattern (s : RuleSet) (p : PatternRule) : RuleSet :=
  if s.hasSource p.source then s
  else { s with
    patterns := s.patterns ++ [p]
    known := p.source :: s.known
    known_perm := by
      rw [List.map_append]
      exact (s.known_perm.cons p.source).trans (List.perm_append_singleton ..).symm }

/-- Adds the pattern that a source writes, if it writes one. -/
def addPattern? (s : RuleSet) (source : List Char) : Option RuleSet :=
  (PatternRule.ofSource? source).map s.insertPattern

/-- Adds the rules of a batch. -/
def apply (s : RuleSet) (b : Batch) : RuleSet :=
  b.patterns.foldl insertPattern
    { s with domains := b.domains.foldl (fun ds d => ds.insert d) s.domains }

/-- The rule that blocks a request: its host, then a domain that its host is below, then a pattern
in its address. -/
def reason? (s : RuleSet) (r : Request) : Option Reason :=
  if !r.host.isEmpty && s.domains.contains r.host then some .domain
  else match (parentDomains r.host).find? s.domains.contains with
    | some parent => some (.subdomain parent)
    | none => (s.patterns.find? fun p => p.pattern.occursIn r.url).map (.pattern ·.source)

end RuleSet

end AdFilter
