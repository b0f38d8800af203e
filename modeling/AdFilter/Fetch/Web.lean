import AdFilter.Text.Order

/-!
# Downloads

What the network answers is given as a script: for every address the answers still to come, and
what is answered when they have run out. Every call is noted with its time.
-/

namespace AdFilter

open Text

/-- Why a download fails. -/
inductive DownloadError where
  | transport (message : List Char)
  /-- the server answered with an error -/
  | status (code : Nat)
  | unexpected (message : List Char)
deriving Repr, DecidableEq

namespace DownloadError

/-- Whether another attempt is worth while. -/
def isTransient : DownloadError → Bool
  | transport _ | status _ => true
  | unexpected _ => false

/-- The error in words. -/
def text : DownloadError → List Char
  | transport m => "transport error: ".toList ++ m
  | status code => "server answered with HTTP ".toList ++ Nat.toDigits 10 code
  | unexpected m => "unexpected error: ".toList ++ m

end DownloadError

/-- What a download gives: the text of a list, or an error. -/
abbrev Answer := Except DownloadError (List Char)

/-- The network. Times count milliseconds. -/
structure Web where
  /-- the answers still to come, by address -/
  pending : List (List Char × List Answer) := []
  /-- what is answered when none is left -/
  otherwise : DownloadError
  /-- when each call was made, and for which address -/
  calls : List (Nat × List Char) := []

namespace Web

/-- Adds answers to those still to come for an address. -/
def addTo (url : List Char) (answers : List Answer) :
    List (List Char × List Answer) → List (List Char × List Answer)
  | [] => [(url, answers)]
  | (u, as) :: rest =>
    if u = url then (u, as ++ answers) :: rest else (u, as) :: addTo url answers rest

def expect (w : Web) (url : List Char) (answers : List Answer) : Web :=
  { w with pending := addTo url answers w.pending }

/-- Takes the first answer still to come for an address. -/
def takeFrom? (url : List Char) :
    List (List Char × List Answer) → Option (Answer × List (List Char × List Answer))
  | [] => none
  | (u, as) :: rest =>
    if u = url then
      match as with
      | [] => none
      | a :: as => some (a, (u, as) :: rest)
    else (takeFrom? url rest).map fun (a, rest) => (a, (u, as) :: rest)

/-- Makes a call at a given time. -/
def call (w : Web) (now : Nat) (url : List Char) : Answer × Web :=
  let w := { w with calls := w.calls ++ [(now, url)] }
  match takeFrom? url w.pending with
  | some (a, pending) => (a, { w with pending := pending })
  | none => (.error w.otherwise, w)

/-- The calls but the first so many, as seconds since a given time and addresses, in order. -/
def report (w : Web) (skip since : Nat) : List (Nat × List Char) :=
  ((w.calls.drop skip).map fun (time, url) => ((time - since) / 1000, url)).mergeSort fun a b =>
    a.1 < b.1 || (a.1 == b.1 && precedes a.2 b.2)

end Web

end AdFilter
