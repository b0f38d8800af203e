import AdFilter.Url.Basic

/-!
# Requests

A request is what a browser wants to load, reduced to the two texts that rules look at: the host
and the whole address, both in lower case.
-/

namespace AdFilter

open Text

/-- What the rules look at in a request. -/
structure Request where
  /-- without a dot at the end; empty if the address has no host -/
  host : List Char
  url : List Char
deriving Repr, DecidableEq

namespace Request

/-- The request for an address, unless the text is no address. -/
def ofText? (cs : List Char) : Option Request := do
  let cs := trim cs
  if cs.isEmpty then none
  else
    let url ← Url.ofText? cs
    let host := (url.host.map Url.Host.text).getD []
    return ⟨lowerAscii (dropEndWhile (· == '.') host), lower cs⟩

end Request

end AdFilter
