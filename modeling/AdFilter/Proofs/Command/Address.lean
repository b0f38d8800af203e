import AdFilter.Command.Basic
import AdFilter.Proofs.Engine.Exception
import AdFilter.Proofs.Engine.Navigation

/-!
# A bare address on the command line

A line that is an address is no command, and the part of it in front of its first space is judged as
a request. The command that judges a navigation takes all of it instead, so the two are about the
same address just if there is no space in it (`Command.address_spec`).
-/

namespace AdFilter

open Text

/-! ## The first word of an address -/

namespace Url

theorem behindColon?_eq_some_iff {cs rest : List Char} :
    behindColon? cs = some rest ↔ cs = ':' :: rest := by
  constructor
  · intro h
    rw [behindColon?.eq_def] at h
    split at h
    · rw [Option.some.inj h]
    · cases h
  · rintro rfl
    rfl

/-- No space stands between the start of an address and the colon behind its scheme. -/
theorem colon_mem_of_splitScheme? {cs : List Char} {x : List Char × List Char}
    (h : splitScheme? cs = some x) : ':' ∈ cs.takeWhile (· != ' ') := by
  rw [splitScheme?_eq_bind] at h
  obtain ⟨rest, hrest, -⟩ := Option.bind_eq_some_iff.mp h
  rw [behindColon?_eq_some_iff] at hrest
  have hplain : ∀ c ∈ cs.takeWhile fun c => c.isAlphanum || c == '+' || c == '-' || c == '.',
      (c != ' ') = true := by
    intro c hc
    have hscheme := List.mem_takeWhile_imp hc
    rw [bne_iff_ne]
    rintro rfl
    revert hscheme
    decide
  have hsplit := List.prefix_iff_eq_append.mp (List.takeWhile_prefix (l := cs)
    fun c => c.isAlphanum || c == '+' || c == '-' || c == '.')
  rw [hrest] at hsplit
  rw [← hsplit, List.takeWhile_append_of_pos hplain]
  exact List.mem_append_right _ (List.mem_cons_self ..)

/-- What is taken out of an address are no spaces. -/
theorem takeWhile_cleaned_subset {c : Char} (hc : isControlOrSpace c = false) (cs : List Char) :
    (cleaned (c :: cs)).takeWhile (· != ' ') ⊆ (c :: cs).takeWhile (· != ' ') := by
  have hspace : (fun d : Char => !(d != '\t' && d != '\n' && d != '\r') || d != ' ') =
      (· != ' ') := by
    funext d
    by_cases hd : d = ' '
    · rw [hd]
      rfl
    · simp [hd]
  rw [cleaned, List.dropWhile_cons_of_neg (by rw [hc]; decide), List.takeWhile_filter, hspace]
  exact fun d hd => (takeWhile_prefix_takeWhile (dropEndWhile_prefix_self _ _)).subset
    (List.mem_of_mem_filter hd)

/-- There is something else than letters in front of the first space of an address: a control
character at its start or the colon behind its scheme. -/
theorem exists_mem_not_isAlpha {cs : List Char} {u : Url} (h : ofText? cs = some u)
    (hblank : ∀ c, cs.head? = some c → isBlank c = false) :
    ∃ c ∈ cs.takeWhile (· != ' '), c.isAlpha = false := by
  rcases cs with _ | ⟨c, rest⟩
  · cases h
  · rcases hc : isControlOrSpace c with _ | _
    · rw [ofText?_eq_bind] at h
      obtain ⟨x, hx, -⟩ := Option.bind_eq_some_iff.mp h
      exact ⟨':', takeWhile_cleaned_subset hc rest (colon_mem_of_splitScheme? hx), rfl⟩
    · have hspace : c ≠ ' ' := by
        rintro rfl
        cases hblank _ rfl
      refine ⟨c, ?_, ?_⟩
      · rw [List.takeWhile_cons_of_pos (by simpa using hspace)]
        exact List.mem_cons_self ..
      · have hascii : c.toNat < 0x80 := Nat.lt_of_le_of_lt (of_decide_eq_true hc) (by decide)
        refine forall_ascii (P := fun c => isControlOrSpace c = true → c.isAlpha = false) ?_ hascii
          hc
        decide

end Url

/-- What a request is made from is the text of an address. -/
theorem Request.exists_ofText?_eq_some {cs : List Char} {r : Request} (h : ofText? cs = some r) :
    trim cs ≠ [] ∧ ∃ u, Url.ofText? (trim cs) = some u := by
  rw [ofText?] at h
  dsimp only at h
  split at h
  · cases h
  · rename_i hne
    obtain ⟨u, hu, -⟩ := Option.bind_eq_some_iff.mp h
    exact ⟨fun hnil => hne (by rw [hnil]; rfl), u, hu⟩

/-! ## Lines that are read -/

namespace Command

/-- A line is an address to be judged if its first word has something else than letters in it. -/
theorem ofLine_eq_check {line : List Char} {c : Char}
    (hc : c ∈ (trim line).takeWhile (· != ' ')) (halpha : c.isAlpha = false) :
    ofLine line = .check ((trim line).takeWhile (· != ' ')) := by
  have hne {w : List Char} (hw : w.all Char.isAlpha = true) :
      (trim line).takeWhile (· != ' ') ≠ w := by
    rintro rfl
    rw [List.all_eq_true.mp hw c hc] at halpha
    cases halpha
  rw [ofLine, if_neg (hne rfl), if_neg (hne rfl), if_neg (hne rfl), if_neg (hne rfl),
    if_neg (hne rfl), if_neg (hne rfl), if_neg (hne rfl), if_neg (hne rfl)]

/-- Behind its word the command takes the rest of the line. -/
theorem ofLine_nav {cs : List Char} (hne : trim cs ≠ []) :
    ofLine ("nav ".toList ++ trim cs) = .navigate (trim cs) := by
  have hline : trim ("nav ".toList ++ trim cs) = "nav ".toList ++ trim cs :=
    trim_append_trim ⟨'n', rfl, by decide⟩ hne
  have hword : ("nav ".toList ++ trim cs).takeWhile (· != ' ') = "nav".toList := rfl
  rw [ofLine, hline, hword]
  exact congrArg navigate (trim_trim cs)

end Command

/-! ## What is printed -/

/-- The kinds of reasons are told apart by the first and the tenth character of their texts. -/
theorem Reason.kind_eq_of_text_eq {a b : Reason} (h : a.text = b.text) : a.kind = b.kind := by
  have hfirst : a.text[0]? = b.text[0]? := congrArg (·[0]?) h
  have htenth : a.text[9]? = b.text[9]? := congrArg (·[9]?) h
  cases a <;> cases b
  case criticalDomain.criticalMarker => cases htenth
  case criticalMarker.criticalDomain => cases htenth
  all_goals first | rfl | cases hfirst

theorem Reason.text_injective : Function.Injective text := by
  intro a b h
  have hkind := kind_eq_of_text_eq h
  cases a <;> cases b <;> cases hkind
  case criticalDomain.criticalDomain d e =>
    rw [List.append_cancel_left h]
  case criticalMarker.criticalMarker m n =>
    rw [List.append_cancel_left (List.append_cancel_right h)]
  case domain.domain => rfl
  case subdomain.subdomain d e =>
    rw [List.append_cancel_left h]
  case pattern.pattern p q =>
    rw [List.append_cancel_left h]

namespace Command

/-- What is printed when an address has been judged. -/
def answer (url : List Char) : Option Reason → List Char
  | some r => "BLOCK ".toList ++ url ++ " (".toList ++ r.text ++ ")\n".toList
  | none => "ALLOW ".toList ++ url ++ ['\n']

theorem run_check (s : System) (url : List Char) :
    (run s (.check url)).1 = answer url (s.check url).1 := by
  rw [run]
  rcases s.check url with ⟨_ | r, t⟩
  · rfl
  · rfl

theorem answer_eq_none_iff {url other : List Char} {o : Option Reason} :
    answer url o = answer other none ↔ url = other ∧ o = none := by
  constructor
  · intro h
    rcases o with _ | r
    · exact ⟨List.append_cancel_left (List.append_cancel_right h), rfl⟩
    · have hfirst : some 'B' = some 'A' := congrArg List.head? h
      cases hfirst
  · rintro ⟨rfl, rfl⟩
    rfl

theorem answer_injective (url : List Char) : Function.Injective (answer url) := by
  intro o p h
  rcases p with _ | q
  · exact (answer_eq_none_iff.mp h).2
  · rcases o with _ | r
    · cases (answer_eq_none_iff.mp h.symm).2
    · have htext := List.append_cancel_left (List.append_cancel_right h)
      rw [Reason.text_injective htext]

/-! ## The whole -/

/-- Nothing is blocked while blocking is off. -/
theorem check_setEnabled_false (s : System) (url : List Char) :
    ((s.setEnabled false).check url).1 = none := rfl

/-- A line that is an address makes a check of the part in front of its first space, and that part
gets the answer that is printed; the command for a navigation is about the whole address. These are
the same just if there is no space in the address, and only then is it the address that gets its
answer, whatever the state. A check then gives a reason just if blocking is active and the command
for a navigation suppresses it for that reason. -/
theorem address_spec (s : System) {line : List Char} {r : Request}
    (hr : Request.ofText? (trim line) = some r) :
    let address := trim line
    let judged := address.takeWhile (· != ' ')
    let printed := (run s (ofLine line)).1
    (ofLine line = .check judged ∧ ofLine ("nav ".toList ++ address) = .navigate address) ∧
      (∀ o, printed = answer judged o ↔ (s.check judged).1 = o) ∧
      (judged = address ↔ ' ' ∉ address) ∧
      (printed = answer address none ↔ ' ' ∉ address ∧ (s.check address).1 = none) ∧
      ((∀ t : System, (run t (ofLine line)).1 = answer address (t.check address).1) ↔
        ' ' ∉ address) ∧
      (' ' ∉ address → ∀ reason, printed = answer address (some reason) ↔
        s.isActive = true ∧ (s.navigate address).1 = .suppress (.blocked reason)) ∧
      ∀ reason, (s.check address).1 = some reason ↔
        s.isActive = true ∧ (s.navigate address).1 = .suppress (.blocked reason) := by
  intro address judged printed
  obtain ⟨hne, u, hu⟩ := Request.exists_ofText?_eq_some hr
  rw [trim_trim] at hne hu
  obtain ⟨c, hc, halpha⟩ := Url.exists_mem_not_isAlpha hu fun _ => isBlank_head?_trim
  have hcommand : ofLine line = .check judged := ofLine_eq_check hc halpha
  have hrun (t : System) : (run t (ofLine line)).1 = answer judged (t.check judged).1 := by
    rw [hcommand, run_check]
  have hprinted : printed = answer judged (s.check judged).1 := hrun s
  have hwhole : judged = address ↔ ' ' ∉ address := takeWhile_bne_eq_self_iff
  have hverdict (reason : Reason) : (s.check address).1 = some reason ↔
      s.isActive = true ∧ (s.navigate address).1 = .suppress (.blocked reason) :=
    Engine.decide?_eq_some_iff
  refine ⟨⟨hcommand, ofLine_nav hne⟩, fun o => ?_, hwhole, ?_, ⟨fun h => ?_, fun h t => ?_⟩,
    fun h reason => ?_, hverdict⟩
  · rw [hprinted, (answer_injective judged).eq_iff]
  · rw [hprinted, answer_eq_none_iff, hwhole]
    refine and_congr_right fun h => ?_
    rw [hwhole.mpr h]
  · -- while blocking is off, what is judged is allowed
    have hoff := h (s.setEnabled false)
    rw [hrun, check_setEnabled_false, check_setEnabled_false, answer_eq_none_iff] at hoff
    exact hwhole.mp hoff.1
  · rw [hrun, hwhole.mpr h]
  · rw [hprinted, hwhole.mpr h, (answer_injective address).eq_iff]
    exact hverdict reason

/-- An address with a space in its path and a marker behind it. -/
theorem address_spec_of_space :
    let line := "https://news.example.com/a b?gclid=1".toList
    Request.ofText? (trim line) = some ⟨"news.example.com".toList, line⟩ ∧
      (run System.quiet (ofLine line)).1 = "ALLOW https://news.example.com/a\n".toList ∧
      (System.quiet.check line).1 = some (.criticalMarker "gclid=".toList) ∧
      ofLine ("nav ".toList ++ line) = .navigate line ∧
      (System.quiet.navigate line).1 = .suppress (.blocked (.criticalMarker "gclid=".toList)) := by
  intro line
  have htrim : trim line = line := by
    decide
  have hr : Request.ofText? (trim line) = some ⟨"news.example.com".toList, line⟩ := by
    decide +kernel
  have hactive : System.quiet.isActive = true := by
    decide
  have hnavigate : (System.quiet.navigate line).1 =
      .suppress (.blocked (.criticalMarker "gclid=".toList)) := by
    decide +kernel
  obtain ⟨⟨-, hnav⟩, hprinted, -, -, -, -, hverdict⟩ := address_spec System.quiet hr
  rw [htrim] at hprinted hnav hverdict
  have hallowed : (System.quiet.check (line.takeWhile (· != ' '))).1 = none := by
    decide +kernel
  refine ⟨hr, ?_, (hverdict _).mpr ⟨hactive, hnavigate⟩, hnav, hnavigate⟩
  rw [(hprinted none).mpr hallowed]
  decide

end Command

end AdFilter
