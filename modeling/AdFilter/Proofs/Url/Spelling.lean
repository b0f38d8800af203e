import AdFilter.Proofs.Text.Spelling
import AdFilter.Proofs.Url.Reading
import AdFilter.Rule.Request

/-!
# Spellings of an address

An address may be typed in capital letters or small ones, and its request is the same
(`Request.ofText?_lowerAscii`). Names are mapped to small letters before anything else is done with
them, so they give the same host (`Host.ofName?_lowerAscii`). The words that are hosts in other
schemes keep their capital letters and lose them in the request only, which is why their texts are
compared in lower case (`Host.ofWord?_lowerAscii`).
-/

namespace AdFilter.Url

open Text

/-! ## Names -/

theorem ignoresCase_mapChar? : IgnoresCase mapChar? :=
  ignoresCase_of_ascii (by decide)

theorem DomainName.ascii?_lowerAscii (name : List Char) :
    ascii? (lowerAscii name) = ascii? name := by
  have hcomp : mapChar? ∘ Char.toLower = mapChar? := funext ignoresCase_mapChar?
  rw [ascii?, lowerAscii, List.mapM_map, hcomp, ascii?]

/-! ## Addresses of version 6 -/

namespace Ipv6

theorem byte?_lowerAscii (cs : List Char) : byte? (lowerAscii cs) = byte? cs := by
  rcases cs with _ | ⟨c, rest⟩
  · rfl
  · have hzero : c.toLower = '0' ↔ c = '0' := toLower_eq_iff (by decide)
    by_cases hc : c = '0'
    · rw [hc]
      cases rest <;> rfl
    · have hother : ∀ {d : Char} (ds : List Char), d ≠ '0' → byte? (d :: ds) =
          (number? 10 (d :: ds)).bind fun n => if n < 256 then some n else none := by
        intro d ds hd
        rw [byte?]
        · rfl
        · exact List.cons_ne_nil _ _
        · exact fun h => hd (List.cons.inj h).1
        · exact fun _ h => hd (List.cons.inj h).1
      rw [lowerAscii_cons, hother _ (mt hzero.mp hc), ← lowerAscii_cons, number?_lowerAscii,
        hother _ hc]

theorem group?_lowerAscii (isLast : Bool) (cs : List Char) :
    group? isLast (lowerAscii cs) = group? isLast cs := by
  have hcomp : byte? ∘ lowerAscii = byte? := funext byte?_lowerAscii
  rw [group?, contains_lowerAscii (by decide), splitOn_lowerAscii (by decide), List.mapM_map, hcomp,
    isEmpty_lowerAscii, length_lowerAscii, number?_lowerAscii, group?]

theorem groups?_map_lowerAscii (parts : List (List Char)) :
    groups? (parts.map lowerAscii) = groups? parts := by
  induction parts with
  | nil => rfl
  | cons part parts ih =>
    rcases parts with _ | ⟨next, rest⟩
    · exact group?_lowerAscii true part
    · rw [List.map_cons, groups?, ih, group?_lowerAscii]
      · rfl
      · exact mt List.map_eq_nil_iff.mp (List.cons_ne_nil _ _)

theorem side?_lowerAscii (cs : List Char) : side? (lowerAscii cs) = side? cs := by
  rw [side?, isEmpty_lowerAscii, splitOn_lowerAscii (by decide), groups?_map_lowerAscii, side?]

theorem splitDouble?_lowerAscii (cs : List Char) : splitDouble? (lowerAscii cs) =
    (splitDouble? cs).map fun (front, back) => (lowerAscii front, lowerAscii back) := by
  induction cs using splitDouble?.induct with
  | case1 => rfl
  | case2 rest => rfl
  | case3 c rest h ih =>
    rw [lowerAscii_cons, splitDouble?, ih, splitDouble?]
    · cases splitDouble? rest <;> rfl
    · exact h
    · -- a double colon there would be one here
      intro others hc hrest
      obtain ⟨d, ds, rfl, hd, -⟩ := List.map_eq_cons_iff.mp hrest
      refine h ds ((toLower_eq_iff (by decide)).mp hc) ?_
      rw [(toLower_eq_iff (by decide)).mp hd]

theorem ofText?_lowerAscii (cs : List Char) : ofText? (lowerAscii cs) = ofText? cs := by
  rw [ofText?, splitDouble?_lowerAscii, ofText?]
  rcases splitDouble? cs with _ | ⟨front, back⟩
  · dsimp only [Option.map_none]
    rw [splitOn_lowerAscii (by decide), groups?_map_lowerAscii]
  · dsimp only [Option.map_some]
    rw [contains_lowerAscii (by decide), side?_lowerAscii, side?_lowerAscii]

end Ipv6

/-! ## Hosts -/

namespace Host

theorem ofBrackets?_lowerAscii (cs : List Char) :
    ofBrackets? (lowerAscii cs) = ofBrackets? cs := by
  have hdrop : (lowerAscii cs).dropLast = lowerAscii cs.dropLast := List.map_dropLast.symm
  rw [ofBrackets?, hdrop, Ipv6.ofText?_lowerAscii, ofBrackets?]
  simp only [getLast?_lowerAscii_iff (show Char.isAlpha ']' = false by decide)]

/-- The bytes of a text may differ where letters stand for themselves, but not in lower case. -/
theorem percentDecode_lowerAscii (cs : List Char) :
    (percentDecode (lowerAscii cs)).map Utf8.lowerByte =
      (percentDecode cs).map Utf8.lowerByte := by
  have hchar : ∀ c : Char, (Utf8.encode [c.toLower]).map Utf8.lowerByte =
      (Utf8.encode [c]).map Utf8.lowerByte :=
    fun c => Utf8.map_lowerByte_encode_lowerAscii [c]
  induction cs using percentDecode.induct with
  | case1 a b rest m n hb ha ih =>
    rw [lowerAscii_cons, lowerAscii_cons, lowerAscii_cons, show Char.toLower '%' = '%' by rfl,
      percentDecode, percentDecode]
    simp only [ignoresCase_digit? 16 a, ignoresCase_digit? 16 b, ha, hb, List.map_cons, ih]
  | case2 a b rest h ih =>
    rw [lowerAscii_cons, lowerAscii_cons, lowerAscii_cons, show Char.toLower '%' = '%' by rfl,
      percentDecode, percentDecode, ignoresCase_digit? 16 a, ignoresCase_digit? 16 b]
    split
    · rename_i m n ha hb
      exact absurd hb (h m n ha)
    · rw [← lowerAscii_cons, ← lowerAscii_cons, List.map_append, ih, List.map_append]
  | case3 c rest h ih =>
    rw [lowerAscii_cons, percentDecode, percentDecode, List.map_append, ih, hchar, List.map_append]
    · exact h
    · -- bytes written there would be written here
      intro a b others hc hrest
      obtain ⟨a, as, rfl, -, has⟩ := List.map_eq_cons_iff.mp hrest
      obtain ⟨b, bs, rfl, -, -⟩ := List.map_eq_cons_iff.mp has
      exact h a b bs ((toLower_eq_iff (by decide)).mp hc) rfl
  | case4 => rfl

/-- What is made of a text without regard to case is made of all texts with the same small
letters. -/
theorem bind_eq_of_map_lowerAscii {β : Type} {f : List Char → Option β}
    (hf : ∀ cs, f (lowerAscii cs) = f cs) {x y : Option (List Char)}
    (h : x.map lowerAscii = y.map lowerAscii) : x.bind f = y.bind f := by
  have hcomp : f ∘ lowerAscii = f := funext hf
  rw [← hcomp, ← Option.bind_map, h, Option.bind_map]

theorem ofName?_lowerAscii (cs : List Char) : ofName? (lowerAscii cs) = ofName? cs := by
  by_cases h : cs.head? = some '['
  · obtain ⟨rest, rfl⟩ := List.head?_eq_some_iff.mp h
    exact ofBrackets?_lowerAscii rest
  · rw [ofName?_eq_bind (mt (head?_lowerAscii_iff (by decide) cs).mp h), ofName?_eq_bind h]
    refine bind_eq_of_map_lowerAscii (fun plain => ?_) ?_
    · rw [DomainName.ascii?_lowerAscii]
    · rw [contains_lowerAscii (by decide)]
      split
      · rw [← Utf8.decode?_map_lowerByte, percentDecode_lowerAscii, Utf8.decode?_map_lowerByte]
      · exact congrArg some (lowerAscii_lowerAscii cs)

/-- The text of a host in lower case; no host has none. -/
def lowerText (h : Option Host) : List Char := lowerAscii ((h.map text).getD [])

theorem lowerAscii_percentEncode (cs : List Char) :
    lowerAscii (percentEncode (lowerAscii cs)) = lowerAscii (percentEncode cs) := by
  induction cs with
  | nil => rfl
  | cons c rest ih =>
    have hchar : IgnoresCase fun c => lowerAscii (percentEncode [c]) :=
      ignoresCase_of_ascii (by decide)
    have hcons : ∀ d ds, percentEncode (d :: ds) = percentEncode [d] ++ percentEncode ds := by
      intro d ds
      rw [percentEncode, List.flatMap_cons, percentEncode, List.flatMap_singleton, percentEncode]
    rw [lowerAscii_cons, hcons _ (lowerAscii rest), lowerAscii_append, ih, hcons c rest,
      lowerAscii_append]
    exact congrArg (· ++ lowerAscii (percentEncode rest)) (hchar c)

theorem ofWord?_lowerAscii (cs : List Char) :
    (ofWord? (lowerAscii cs)).map (fun h => lowerText (some h)) =
      (ofWord? cs).map fun h => lowerText (some h) := by
  by_cases h : cs.head? = some '['
  · obtain ⟨rest, rfl⟩ := List.head?_eq_some_iff.mp h
    exact congrArg _ (ofBrackets?_lowerAscii rest)
  · rw [ofWord?_eq (mt (head?_lowerAscii_iff (by decide) cs).mp h), ofWord?_eq h,
      any_lowerAscii (ignoresCase_of_ascii (by decide +kernel))]
    split
    · rfl
    · exact congrArg some (lowerAscii_percentEncode cs)

end Host

/-! ## The authority -/

theorem ignoresCase_endsAuthority (k : SchemeKind) : IgnoresCase (endsAuthority k) := by
  cases k
  all_goals exact ignoresCase_of_ascii (by decide)

theorem splitHost_lowerAscii (inBrackets : Bool) (cs : List Char) :
    splitHost inBrackets (lowerAscii cs) =
      (lowerAscii (splitHost inBrackets cs).1, lowerAscii (splitHost inBrackets cs).2) := by
  induction cs generalizing inBrackets with
  | nil => rfl
  | cons c rest ih =>
    rw [lowerAscii_cons, splitHost, splitHost]
    simp only [toLower_eq_iff (show Char.isAlpha ':' = false by decide),
      toLower_eq_iff (show Char.isAlpha '[' = false by decide),
      toLower_eq_iff (show Char.isAlpha ']' = false by decide), ih]
    split <;> rfl

theorem splitUser_lowerAscii (cs : List Char) :
    splitUser (lowerAscii cs) = ((splitUser cs).1.map lowerAscii, lowerAscii (splitUser cs).2) := by
  have hat : IgnoresCase (· != '@') := ignoresCase_not (ignoresCase_beq (by decide))
  rw [splitUser, reverse_lowerAscii, takeWhile_lowerAscii hat, reverse_lowerAscii,
    length_lowerAscii, length_lowerAscii, take_lowerAscii, splitUser]
  split <;> rfl

theorem isPortPart_lowerAscii (cs : List Char) : isPortPart (lowerAscii cs) = isPortPart cs := by
  rcases cs with _ | ⟨c, rest⟩
  · rfl
  · have hcolon : c.toLower = ':' ↔ c = ':' := toLower_eq_iff (by decide)
    by_cases hc : c = ':'
    · have hdigits : IgnoresCase Char.isDigit := ignoresCase_of_ascii (by decide)
      rw [lowerAscii_cons, hcolon.mpr hc, hc, isPortPart, isPortPart, takeWhile_lowerAscii hdigits,
        number?_lowerAscii, length_lowerAscii, drop_lowerAscii,
        all_head?_lowerAscii (ignoresCase_beq (by decide))]
    · have hother : ∀ {d : Char} (ds : List Char), d ≠ ':' → isPortPart (d :: ds) = false := by
        intro d ds hd
        rw [isPortPart]
        · exact List.cons_ne_nil _ _
        · exact fun _ h => hd (List.cons.inj h).1
      rw [lowerAscii_cons, hother _ (mt hcolon.mp hc), hother _ hc]

theorem map_bind_some {α β γ : Type} (x : Option α) (f : α → β) (g : β → γ) :
    (x.bind fun a => some (f a)).map g = x.map fun a => g (f a) := by
  cases x <;> rfl

/-- Whether a user is named does not hang on how. -/
theorem any_user_lowerAscii (user : Option (List Char)) :
    (user.map lowerAscii).any (fun u => !u.isEmpty && u != [':']) =
      user.any fun u => !u.isEmpty && u != [':'] := by
  rcases user with _ | u
  · rfl
  · have hcolon : (lowerAscii u != [':']) = (u != [':']) := by
      rw [Bool.eq_iff_iff, bne_iff_ne, bne_iff_ne, ne_eq, lowerAscii_eq_singleton_iff (by decide)]
    rw [Option.map_some, Option.any_some, Option.any_some, isEmpty_lowerAscii, hcolon]

theorem hostOfAuthority?_lowerAscii (k : SchemeKind) (cs : List Char) :
    (hostOfAuthority? k (lowerAscii cs)).map Host.lowerText =
      (hostOfAuthority? k cs).map Host.lowerText := by
  have hinside := ignoresCase_not (ignoresCase_endsAuthority k)
  rw [hostOfAuthority?, takeWhile_lowerAscii hinside, dropWhile_lowerAscii hinside,
    splitUser_lowerAscii, hostOfAuthority?]
  rcases splitUser (cs.takeWhile (!endsAuthority k ·)) with ⟨user, place⟩
  dsimp only
  rw [splitHost_lowerAscii]
  rcases splitHost false place with ⟨host, port⟩
  have hempty : (user.map lowerAscii == some []) = (user == some []) := by
    rcases user with _ | _ | _ <;> rfl
  dsimp only
  rw [isEmpty_lowerAscii, isEmpty_lowerAscii, isEmpty_lowerAscii, isEmpty_lowerAscii,
    isPortPart_lowerAscii, any_user_lowerAscii, hempty]
  split
  · rfl
  · split
    · split
      · refine (map_bind_some _ some Host.lowerText).trans (Eq.trans ?_
          (map_bind_some _ some Host.lowerText).symm)
        exact Host.ofWord?_lowerAscii host
      · rw [Host.ofName?_lowerAscii]
    · rfl

/-! ## Files -/

theorem isDrive_lowerAscii (cs : List Char) : isDrive (lowerAscii cs) = isDrive cs := by
  rcases cs with _ | ⟨c, _ | ⟨d, _ | ⟨e, rest⟩⟩⟩
  · rfl
  · rfl
  · have hc : c.toLower.isAlpha = c.isAlpha := ignoresCase_isAlpha c
    rw [lowerAscii_cons, lowerAscii_cons, lowerAscii, List.map_nil, isDrive, isDrive, hc,
      toLower_beq (by decide), toLower_beq (by decide)]
  · rfl

theorem plainDots_lowerAscii (segment : List Char) :
    plainDots (lowerAscii segment) = plainDots segment := by
  rw [plainDots, lowerAscii_lowerAscii, plainDots]

theorem leadsToDrive_map_lowerAscii (depth : Nat) (segments : List (List Char)) :
    leadsToDrive depth (segments.map lowerAscii) = leadsToDrive depth segments := by
  induction segments generalizing depth with
  | nil => rfl
  | cons s rest ih =>
    rw [List.map_cons, leadsToDrive, plainDots_lowerAscii, isDrive_lowerAscii, ih, ih, ih,
      leadsToDrive]

theorem pathSegments_lowerAscii (cs : List Char) :
    pathSegments (lowerAscii cs) = (pathSegments cs).map lowerAscii := by
  have hinside : IgnoresCase fun c => c != '?' && c != '#' := ignoresCase_of_ascii (by decide)
  have hslash : ∀ c : Char,
      (if c.toLower = '\\' then '/' else c.toLower) = (if c = '\\' then '/' else c).toLower := by
    intro c
    rw [apply_ite Char.toLower]
    simp only [toLower_eq_iff (show Char.isAlpha '\\' = false by decide)]
    rfl
  have hmap : ∀ ds : List Char, (lowerAscii ds).map (fun c => if c = '\\' then '/' else c) =
      lowerAscii (ds.map fun c => if c = '\\' then '/' else c) := by
    intro ds
    rw [lowerAscii, List.map_map, lowerAscii, List.map_map]
    exact List.map_congr_left fun c _ => hslash c
  rw [pathSegments, takeWhile_lowerAscii hinside, hmap, splitOn_lowerAscii (by decide),
    ← List.map_tail, pathSegments]

theorem hostOfFile?_lowerAscii (cs : List Char) : hostOfFile? (lowerAscii cs) = hostOfFile? cs := by
  rcases cs with _ | ⟨a, _ | ⟨b, rest⟩⟩
  · rfl
  · rfl
  · have hinside := ignoresCase_not (ignoresCase_endsAuthority .file)
    rw [lowerAscii_cons, lowerAscii_cons, hostOfFile?, hostOfFile?]
    simp only [toLower_beq (show Char.isAlpha '/' = false by decide),
      toLower_beq (show Char.isAlpha '\\' = false by decide), takeWhile_lowerAscii hinside,
      isEmpty_lowerAscii, isDrive_lowerAscii, Host.ofName?_lowerAscii, length_lowerAscii,
      drop_lowerAscii, pathSegments_lowerAscii, leadsToDrive_map_lowerAscii]

/-! ## The whole -/

theorem cleaned_lowerAscii (cs : List Char) :
    cleaned (lowerAscii cs) = lowerAscii (cleaned cs) := by
  have hends : IgnoresCase isControlOrSpace := ignoresCase_of_ascii (by decide)
  rw [cleaned, dropWhile_lowerAscii hends, dropEndWhile_lowerAscii hends,
    filter_lowerAscii (ignoresCase_of_ascii (by decide)), cleaned]

theorem behindColon?_lowerAscii (cs : List Char) :
    behindColon? (lowerAscii cs) = (behindColon? cs).map lowerAscii := by
  rcases cs with _ | ⟨c, rest⟩
  · rfl
  · have hcolon : c.toLower = ':' ↔ c = ':' := toLower_eq_iff (by decide)
    by_cases hc : c = ':'
    · rw [hc]
      rfl
    · have hother : ∀ {d : Char} (ds : List Char), d ≠ ':' → behindColon? (d :: ds) = none := by
        intro d ds hd
        rw [behindColon?]
        exact fun _ h => hd (List.cons.inj h).1
      rw [lowerAscii_cons, hother _ (mt hcolon.mp hc), hother _ hc]
      rfl

theorem splitScheme?_lowerAscii (cs : List Char) : splitScheme? (lowerAscii cs) =
    (splitScheme? cs).map fun (scheme, rest) => (scheme, lowerAscii rest) := by
  have hinside : IgnoresCase fun c : Char => c.isAlphanum || c == '+' || c == '-' || c == '.' :=
    ignoresCase_of_ascii (by decide)
  rw [splitScheme?_eq_bind, splitScheme?_eq_bind]
  dsimp only
  rw [takeWhile_lowerAscii hinside, length_lowerAscii, drop_lowerAscii,
    any_head?_lowerAscii ignoresCase_isAlpha, lowerAscii_lowerAscii, behindColon?_lowerAscii]
  rcases behindColon? _ with _ | rest
  · rfl
  · rw [Option.map_some, Option.bind_some, Option.bind_some]
    split <;> rfl

theorem hostOfOther?_lowerAscii (rest : List Char) :
    (hostOfOther? (lowerAscii rest)).map Host.lowerText =
      (hostOfOther? rest).map Host.lowerText := by
  have hslash : ∀ c : Char, c.toLower = '/' ↔ c = '/' := fun c => toLower_eq_iff (by decide)
  by_cases h : ∃ behind, rest = '/' :: '/' :: behind
  · obtain ⟨behind, rfl⟩ := h
    exact hostOfAuthority?_lowerAscii .other behind
  · have hother : ∀ ds : List Char, (¬ ∃ behind, ds = '/' :: '/' :: behind) →
        hostOfOther? ds = some none := by
      intro ds hds
      rw [hostOfOther?]
      exact fun behind heq => hds ⟨behind, heq⟩
    rw [hother rest h, hother (lowerAscii rest)]
    -- two slashes there would be two here
    rintro ⟨behind, heq⟩
    obtain ⟨a, as, rfl, ha, has⟩ := List.map_eq_cons_iff.mp heq
    obtain ⟨b, bs, rfl, hb, -⟩ := List.map_eq_cons_iff.mp has
    rw [(hslash a).mp ha, (hslash b).mp hb] at h
    exact h ⟨bs, rfl⟩

theorem hostBehind?_lowerAscii (scheme rest : List Char) :
    (hostBehind? scheme (lowerAscii rest)).map Host.lowerText =
      (hostBehind? scheme rest).map Host.lowerText := by
  unfold hostBehind?
  cases SchemeKind.of scheme with
  | web =>
    dsimp only
    rw [dropWhile_lowerAscii (ignoresCase_of_ascii (by decide))]
    exact hostOfAuthority?_lowerAscii .web _
  | file =>
    dsimp only
    rw [hostOfFile?_lowerAscii]
  | other => exact hostOfOther?_lowerAscii rest

/-- The host of an address does not hang on how the address is spelt, as it is compared in lower
case. -/
theorem ofText?_lowerAscii (cs : List Char) :
    (ofText? (lowerAscii cs)).map (fun u => Host.lowerText u.host) =
      (ofText? cs).map fun u => Host.lowerText u.host := by
  rw [ofText?_eq_bind, cleaned_lowerAscii, splitScheme?_lowerAscii, ofText?_eq_bind]
  rcases splitScheme? (cleaned cs) with _ | ⟨scheme, rest⟩
  · rfl
  · have hhost := hostBehind?_lowerAscii scheme rest
    rw [Option.map_some, Option.bind_some, Option.bind_some, Option.map_map, Option.map_map]
    exact hhost

end AdFilter.Url

namespace AdFilter

open Text

/-- The host of a request is that of the address in lower case, without dots at the end. -/
theorem Request.ofText?_eq (cs : List Char) : ofText? cs =
    if (trim cs).isEmpty then none
    else ((Url.ofText? (trim cs)).map fun u => Url.Host.lowerText u.host).map fun host =>
      ⟨dropEndWhile (· == '.') host, lower (trim cs)⟩ := by
  rw [ofText?]
  dsimp only
  split
  · rfl
  · rcases Url.ofText? (trim cs) with _ | u
    · rfl
    · rw [Option.map_some, Option.map_some, Url.Host.lowerText,
        dropEndWhile_lowerAscii (ignoresCase_beq (by decide))]
      rfl

/-- A request does not hang on how its address is spelt. -/
theorem Request.ofText?_lowerAscii (cs : List Char) : ofText? (lowerAscii cs) = ofText? cs := by
  rw [ofText?_eq, trim_lowerAscii, isEmpty_lowerAscii, Url.ofText?_lowerAscii, lower_lowerAscii,
    ofText?_eq]

end AdFilter
