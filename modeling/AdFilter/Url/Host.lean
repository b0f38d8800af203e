import AdFilter.Text.Utf8
import AdFilter.Url.DomainName
import AdFilter.Url.Ipv4
import AdFilter.Url.Ipv6

/-!
# Hosts

Who an address asks: a domain name, or a machine by its number. Only the schemes of the web give a
name this meaning (`Host.ofName?`); for others it is a word of their own (`Host.ofWord?`).
-/

namespace AdFilter.Url

open Text

/-- Who an address asks. -/
inductive Host where
  | name (cs : List Char)
  | ipv4 (n : Nat)
  | ipv6 (ns : List Nat)
deriving Repr, DecidableEq

namespace Host

/-- The written form of a host. -/
def text : Host → List Char
  | name cs => cs
  | ipv4 n => Ipv4.text n
  | ipv6 ns => '[' :: Ipv6.text ns ++ [']']

/-- The bytes of a text in which `%` and two digits stand for one byte. -/
def percentDecode : List Char → List UInt8
  | '%' :: a :: b :: rest =>
    match digit? 16 a, digit? 16 b with
    | some m, some n => UInt8.ofNat (m * 16 + n) :: percentDecode rest
    | _, _ => Utf8.encode ['%'] ++ percentDecode (a :: b :: rest)
  | c :: rest => Utf8.encode [c] ++ percentDecode rest
  | [] => []

/-- A text in which controls and characters beyond ASCII are written as bytes behind `%`. -/
def percentEncode (cs : List Char) : List Char :=
  cs.flatMap fun c =>
    if 0x20 ≤ c.toNat && c.toNat < 0x7F then [c]
    else (Utf8.encode [c]).flatMap fun b =>
      '%' :: (Nat.toDigits 16 (256 + b.toNat)).tail.map Char.toUpper

/-- The address between brackets. -/
def ofBrackets? (cs : List Char) : Option Host :=
  if cs.getLast? = some ']' then (Ipv6.ofText? cs.dropLast).map ipv6 else none

/-- The host that a name stands for in the schemes of the web. -/
def ofName? (cs : List Char) : Option Host :=
  match cs with
  | '[' :: rest => ofBrackets? rest
  | _ => do
    let plain ← if cs.contains '%' then Utf8.decode? (percentDecode cs) else some cs
    let domain ← DomainName.ascii? plain
    if Ipv4.isNumeric domain then (Ipv4.ofText? domain).map ipv4 else return name domain

/-- The host that a word stands for in other schemes. -/
def ofWord? (cs : List Char) : Option Host :=
  match cs with
  | '[' :: rest => ofBrackets? rest
  | _ =>
    if cs.any "\x00\t\n\r #/:<>?@[\\]^|".toList.contains then none
    else some (name (percentEncode cs))

end Host

end AdFilter.Url
