import AdFilter.Rule.BuiltIn
import AdFilter.Rule.Reason
import AdFilter.Rule.Request

/-!
# The critical rules

Two fixed tables decide before all other rules: domains, with all that is below them, and markers
in the address.
-/

namespace AdFilter

open Text

/-- Whether a host is a domain or below it, that is, what stands in front of the domain is nothing
or ends in a dot. -/
def isSameOrSubdomain (host domain : List Char) : Bool :=
  domain.isSuffixOf host &&
    (host.take (host.length - domain.length)).getLast?.all (· == '.')

/-- The critical rule that blocks a request. -/
def criticalReason? (r : Request) : Option Reason :=
  let domain :=
    if r.host.isEmpty then none else BuiltIn.criticalDomains.find? (isSameOrSubdomain r.host)
  match domain with
  | some d => some (.criticalDomain d)
  | none => (BuiltIn.criticalMarkers.find? (occursIn · r.url)).map .criticalMarker

/-- The first word in an address by which a new window is taken for an intrusive one. -/
def popupIndicator? (url : List Char) : Option (List Char) :=
  BuiltIn.popupIndicators.find? (occursIn · (lower url))

end AdFilter
