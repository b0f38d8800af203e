import AdFilter.Text.Case
import AdFilter.Url.Host

/-!
# Addresses of the web

An address begins with a scheme and a colon. Behind two slashes it goes on with its authority: who
is asked, perhaps with a user's name in front and a port behind. The rest says what is asked for,
and any text will do.

Only the scheme and the host matter to the library, so `Url.ofText?` keeps those and tells which
texts are no addresses at all.
-/

namespace AdFilter

open Text

/-- What the library keeps of an address. -/
structure Url where
  /-- in lower case -/
  scheme : List Char
  host : Option Url.Host
deriving Repr, DecidableEq

namespace Url

/-! ## Schemes -/

/-- How an address goes on behind its scheme. -/
inductive SchemeKind where
  /-- a scheme that always has a host -/
  | web
  | file
  | other
deriving Repr, DecidableEq

def webSchemes : List (List Char) :=
  ["http".toList, "https".toList, "ws".toList, "wss".toList, "ftp".toList]

def SchemeKind.of (scheme : List Char) : SchemeKind :=
  if webSchemes.contains scheme then web else if scheme = "file".toList then file else other

/-- Whether a backslash does for a slash. -/
def SchemeKind.takesBackslash (k : SchemeKind) : Bool := k != .other

/-- The scheme in front of the first colon, in lower case, and what follows the colon. -/
def splitScheme? (cs : List Char) : Option (List Char × List Char) :=
  let scheme := cs.takeWhile fun c => c.isAlphanum || c == '+' || c == '-' || c == '.'
  match cs.drop scheme.length with
  | ':' :: rest => if scheme.head?.any Char.isAlpha then some (lowerAscii scheme, rest) else none
  | _ => none

/-! ## The authority -/

/-- Whether a character ends the authority. -/
def endsAuthority (k : SchemeKind) (c : Char) : Bool :=
  c == '/' || c == '?' || c == '#' || (k.takesBackslash && c == '\\')

/-- The host in front of a colon, which does not count between brackets, and what follows. -/
def splitHost (inBrackets : Bool) : List Char → List Char × List Char
  | [] => ([], [])
  | c :: rest =>
    if c = ':' && !inBrackets then ([], c :: rest)
    else
      let inBrackets := if c = '[' then true else if c = ']' then false else inBrackets
      let (host, rest) := splitHost inBrackets rest
      (c :: host, rest)

/-- The greatest port. -/
def maxPort : Nat := 65535

/-- Whether what follows the host is nothing, or a colon and a port, which may be left out. -/
def isPortPart (cs : List Char) : Bool :=
  match cs with
  | [] => true
  | ':' :: port =>
    let digits := port.takeWhile Char.isDigit
    (number? 10 digits).any (· ≤ maxPort) &&
      (port.drop digits.length).head?.all fun c => c == '\\'
  | _ => false

/-- What stands before the last `@`, if there is one, and what stands behind it. -/
def splitUser (authority : List Char) : Option (List Char) × List Char :=
  let host := (authority.reverse.takeWhile (· != '@')).reverse
  if host.length = authority.length then (none, authority)
  else (some (authority.take (authority.length - host.length - 1)), host)

/-- The host of an authority. A user's name cannot stand alone, and neither can a port. -/
def hostOfAuthority? (k : SchemeKind) (cs : List Char) : Option (Option Host) := do
  let (user, place) := splitUser (cs.takeWhile (!endsAuthority k ·))
  let rest := cs.dropWhile (!endsAuthority k ·)
  let (host, port) := splitHost false place
  if host.isEmpty then
    let hasUser := user.any fun u => !u.isEmpty && u != [':']
    let endsAtOnce := user == some [] && place.isEmpty && !rest.isEmpty
    if k == .web || !port.isEmpty || hasUser || endsAtOnce then none else return none
  else if isPortPart port then
    return some (← if k == .other then Host.ofWord? host else Host.ofName? host)
  else none

/-! ## Files -/

/-- Whether a segment of a path names a drive: a letter, then a colon or a bar. -/
def isDrive : List Char → Bool
  | [c, d] => c.isAlpha && (d == ':' || d == '|')
  | _ => false

/-- A segment of a path in which dots written as bytes are plain. -/
def plainDots (segment : List Char) : List Char :=
  replace "%2e".toList ['.'] (lowerAscii segment)

/-- Whether the path leads to a drive: some segment names one, and those before it lead nowhere.
`depth` counts the segments that stand before. -/
def leadsToDrive : Nat → List (List Char) → Bool
  | _, [] => false
  | depth, s :: rest =>
    if plainDots s = ['.', '.'] then leadsToDrive (depth - 1) rest
    else if plainDots s = ['.'] then leadsToDrive depth rest
    else (depth = 0 && isDrive s) || leadsToDrive (depth + 1) rest

/-- The segments of the path that a text begins with, behind its first slash. -/
def pathSegments (cs : List Char) : List (List Char) :=
  let path := cs.takeWhile fun c => c != '?' && c != '#'
  (splitOn '/' (path.map fun c => if c = '\\' then '/' else c)).tail

/-- The host of a file's address, behind the scheme. This machine and its drives have none. -/
def hostOfFile? (cs : List Char) : Option (Option Host) :=
  match cs with
  | a :: b :: rest =>
    if (a == '/' || a == '\\') && (b == '/' || b == '\\') then
      let host := rest.takeWhile (!endsAuthority .file ·)
      if host.isEmpty || isDrive host then some none
      else do
        let h ← Host.ofName? host
        if h = .name "localhost".toList then return none
        else if leadsToDrive 0 (pathSegments (rest.drop host.length)) then return none
        else return some h
    else some none
  | _ => some none

/-! ## The whole -/

/-- Whether a character is a control or the space. -/
def isControlOrSpace (c : Char) : Bool := c.toNat ≤ 0x20

/-- A text without what an address may have around it and in it, line ends and tabs. -/
def cleaned (cs : List Char) : List Char :=
  (dropEndWhile isControlOrSpace (cs.dropWhile isControlOrSpace)).filter fun c =>
    c != '\t' && c != '\n' && c != '\r'

/-- The scheme and host of the address that a text writes, if it writes one. -/
def ofText? (cs : List Char) : Option Url := do
  let (scheme, rest) ← splitScheme? (cleaned cs)
  let host ← match SchemeKind.of scheme with
    | .web => hostOfAuthority? .web (rest.dropWhile fun c => c == '/' || c == '\\')
    | .file => hostOfFile? rest
    | .other => match rest with
      | '/' :: '/' :: rest => hostOfAuthority? .other rest
      | _ => some none
  return ⟨scheme, host⟩

end Url

end AdFilter
