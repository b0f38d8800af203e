import AdFilter.Url.Basic

/-!
# How a host is read

The parts of reading an address that lead to its host, each as one equation.
-/

namespace AdFilter.Url

open Text

/-- What stands behind a colon. -/
def behindColon? : List Char → Option (List Char)
  | ':' :: rest => some rest
  | _ => none

/-- What stands behind the colon of a scheme of no special kind, read for its host. -/
def hostOfOther? : List Char → Option (Option Host)
  | '/' :: '/' :: rest => hostOfAuthority? .other rest
  | _ => some none

/-- What stands behind the colon of a scheme, read for its host. -/
def hostBehind? (scheme rest : List Char) : Option (Option Host) :=
  match SchemeKind.of scheme with
  | .web => hostOfAuthority? .web (rest.dropWhile fun c => c == '/' || c == '\\')
  | .file => hostOfFile? rest
  | .other => hostOfOther? rest

theorem splitScheme?_eq_bind (cs : List Char) : splitScheme? cs =
    let scheme := cs.takeWhile fun c => c.isAlphanum || c == '+' || c == '-' || c == '.'
    (behindColon? (cs.drop scheme.length)).bind fun rest =>
      if scheme.head?.any Char.isAlpha then some (lowerAscii scheme, rest) else none := by
  rw [splitScheme?]
  dsimp only
  split
  · rename_i hrest
    rw [hrest]
    rfl
  · rename_i hne
    rw [behindColon?]
    · rfl
    · exact hne

theorem ofText?_eq_bind (cs : List Char) : ofText? cs =
    (splitScheme? (cleaned cs)).bind fun (scheme, rest) =>
      (hostBehind? scheme rest).map (Url.mk scheme) := by
  rw [ofText?]
  rcases splitScheme? (cleaned cs) with _ | ⟨scheme, rest⟩
  · rfl
  · dsimp only [Option.bind_eq_bind, Option.bind_some]
    unfold hostBehind?
    cases SchemeKind.of scheme with
    | web => exact Option.map_eq_bind.symm
    | file => exact Option.map_eq_bind.symm
    | other =>
      dsimp only
      split
      · exact Option.map_eq_bind.symm
      · rename_i hne
        rw [hostOfOther?]
        · rfl
        · exact hne

namespace Host

/-- The host that a name stands for, unless it is an address between brackets. -/
theorem ofName?_eq_bind {cs : List Char} (h : cs.head? ≠ some '[') : ofName? cs =
    (if cs.contains '%' then Utf8.decode? (percentDecode cs) else some cs).bind fun plain =>
      (DomainName.ascii? plain).bind fun domain =>
        if Ipv4.isNumeric domain then (Ipv4.ofText? domain).map ipv4 else some (name domain) := by
  rw [ofName?]
  · split <;> rfl
  · rintro rest rfl
    exact h rfl

/-- The host that a word stands for, unless it is an address between brackets. -/
theorem ofWord?_eq {cs : List Char} (h : cs.head? ≠ some '[') : ofWord? cs =
    if cs.any "\x00\t\n\r #/:<>?@[\\]^|".toList.contains then none
    else some (name (percentEncode cs)) := by
  rw [ofWord?]
  rintro rest rfl
  exact h rfl

end Host

end AdFilter.Url
