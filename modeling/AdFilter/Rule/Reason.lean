/-!
# Reasons

Why a request is blocked: which rule applied to it. Reasons are counted by their kind.
-/

namespace AdFilter

/-- The rule that blocks a request. -/
inductive Reason where
  /-- a domain of the fixed table, or one below it -/
  | criticalDomain (domain : List Char)
  /-- a marker of the fixed table, found in the address -/
  | criticalMarker (marker : List Char)
  /-- the host is a blocked domain -/
  | domain
  /-- the host is below a blocked domain -/
  | subdomain (parent : List Char)
  /-- a pattern, given by its source, found in the address -/
  | pattern (source : List Char)
deriving Repr, DecidableEq

namespace Reason

/-- What reasons are counted by. -/
inductive Kind where
  | criticalDomain | criticalMarker | domain | subdomain | pattern
deriving Repr, DecidableEq

/-- Every kind, in the order of reports. -/
def Kind.all : List Kind := [criticalDomain, criticalMarker, domain, subdomain, pattern]

def Kind.label : Kind → List Char
  | criticalDomain => "critical_domain".toList
  | criticalMarker => "critical_marker".toList
  | domain => "domain".toList
  | subdomain => "subdomain".toList
  | pattern => "pattern".toList

def kind : Reason → Kind
  | criticalDomain _ => .criticalDomain
  | criticalMarker _ => .criticalMarker
  | domain => .domain
  | subdomain _ => .subdomain
  | pattern _ => .pattern

/-- The reason in words. -/
def text : Reason → List Char
  | criticalDomain d => "critical domain ".toList ++ d
  | criticalMarker m => "critical marker '".toList ++ m ++ ['\'']
  | domain => "blocked domain".toList
  | subdomain d => "subdomain of ".toList ++ d
  | pattern p => "pattern ".toList ++ p

end Reason

end AdFilter
