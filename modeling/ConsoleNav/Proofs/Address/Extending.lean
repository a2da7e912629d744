import ConsoleNav.Address.Reader
import ConsoleNav.Proofs.Address.Places

/-!
The program's own client reads addresses of the web place first: the scheme, who asks, the host and the
port are read up to the first character that ends the place, whatever follows it.
-/
namespace ConsoleNav.Address

/-! ### What stands before the path -/

/-- What an at sign sets apart before the host, and what follows it. -/
def takeInfo (wellKnown : Bool) (cs : List Char) : Option (List Char) × List Char :=
  match splitUser (cs.takeWhile (!endsHost wellKnown ·)) with
  | none => (none, cs)
  | some (info, _) => (some info, cs.drop (info.length + 1))

/-- The host with a text. There may be none only where it need not be known and nothing else is given. -/
def hostOf? (wellKnown : Bool) (info : Option (List Char)) (hostText rest : List Char) : Option Host :=
  if hostText.isEmpty then
    if wellKnown || rest.head? == some ':' || (info.bind userOf).isSome || info == some [] then none
    else some (.name "")
  else readHost? wellKnown hostText

/-- Who asks, the host and the port, as an address without a path, and what follows them. -/
def readAuthority? (scheme : String) (cs : List Char) : Option (Address × List Char) :=
  let wellKnown := isWellKnown scheme
  let (info, cs) := takeInfo wellKnown cs
  let (hostText, rest) := takeHost wellKnown false cs
  (hostOf? wellKnown info hostText rest).bind fun host =>
    (takePort? scheme rest).map fun (port, rest) =>
      ({ scheme, user := info.bind userOf, host := some host, port, path := "" }, rest)

theorem readFromHost?_eq (scheme : String) (cs : List Char) :
    readFromHost? scheme cs = (readAuthority? scheme cs).map fun x => x.1.withRest x.2 := by
  -- the port is read anew in every branch of the host, and only then put into the address
  have hhost (wellKnown : Bool) (info : Option (List Char)) (hostText rest : List Char)
      (read : Host → Option Address) :
      (if hostText.isEmpty then
        if wellKnown || rest.head? == some ':' || (info.bind userOf).isSome || info == some [] then
          none.bind read
        else (some (.name "")).bind read
      else (readHost? wellKnown hostText).bind read) =
        (hostOf? wellKnown info hostText rest).bind read := by
    unfold hostOf?
    split
    · split <;> rfl
    · rfl
  have hport (rest : List Char) (make : Option Nat → Address) :
      ((takePort? scheme rest).bind fun x => some ((make x.1).withRest x.2)) =
        ((takePort? scheme rest).map fun x => (make x.1, x.2)).map fun x => x.1.withRest x.2 := by
    cases takePort? scheme rest <;> rfl
  unfold readFromHost? readAuthority?
  simp only [Option.bind_eq_bind, hhost, Option.map_bind]
  refine congrArg _ (funext fun host => ?_)
  exact hport _ fun port =>
    { scheme, user := (takeInfo (isWellKnown scheme) cs).1.bind userOf, host := some host, port, path := "" }

theorem length_of_splitUser {cs before after : List Char} (h : splitUser cs = some (before, after)) :
    before.length + 1 ≤ cs.length := by
  unfold splitUser at h
  split at h
  · cases h
  · next hbefore =>
    cases h
    have hle := (List.dropWhile_suffix (· != '@') (l := cs.reverse)).length_le
    rw [hbefore] at hle
    simpa using hle

/-! ### Longer texts -/

section Tail

variable {tail : List Char} (h : EndsPlace tail)
include h

theorem EndsPlace.head?_eq_false {p : Char → Bool} (hp : ['/', '\\', '?', '#'].all (!p ·) = true) :
    ∀ c ∈ tail.head?, p c = false := by
  intro c hc
  simp only [List.all_cons, List.all_nil, Bool.and_true, Bool.and_eq_true, Bool.not_eq_true'] at hp
  obtain ⟨hslash, hback, hquery, hfragment⟩ := hp
  obtain rfl | rfl | rfl | rfl := h c hc
  · exact hslash
  · exact hback
  · exact hquery
  · exact hfragment

theorem EndsPlace.eq_nil_or : tail = [] ∨
    ∃ rest, tail = '/' :: rest ∨ tail = '\\' :: rest ∨ tail = '?' :: rest ∨ tail = '#' :: rest := by
  cases tail with
  | nil => exact .inl rfl
  | cons c rest => exact .inr ⟨rest, by simpa using h c rfl⟩

theorem EndsPlace.takeHost_append (inBrackets : Bool) (cs : List Char) :
    takeHost true inBrackets (cs ++ tail) =
      ((takeHost true inBrackets cs).1, (takeHost true inBrackets cs).2 ++ tail) := by
  induction cs generalizing inBrackets with
  | nil => obtain rfl | ⟨rest, rfl | rfl | rfl | rfl⟩ := h.eq_nil_or <;> rfl
  | cons c cs ih =>
    rw [List.cons_append, takeHost, takeHost]
    split
    · rfl
    · rw [ih]

theorem EndsPlace.takePort?_append (scheme : String) (cs : List Char) :
    takePort? scheme (cs ++ tail) = (takePort? scheme cs).map fun x => (x.1, x.2 ++ tail) := by
  have hdigit := h.head?_eq_false (p := Char.isDigit) (by decide)
  cases cs with
  | nil => obtain rfl | ⟨rest, rfl | rfl | rfl | rfl⟩ := h.eq_nil_or <;> rfl
  | cons c cs =>
    by_cases hcolon : c = ':'
    · subst hcolon
      have hhead : ((cs.dropWhile Char.isDigit ++ tail).head?.any fun c => !endsHost true c) =
          (cs.dropWhile Char.isDigit).head?.any fun c => !endsHost true c := by
        cases cs.dropWhile Char.isDigit with
        | nil => obtain rfl | ⟨rest, rfl | rfl | rfl | rfl⟩ := h.eq_nil_or <;> rfl
        | cons d rest => rfl
      rw [List.cons_append]
      simp only [takePort?]
      rw [Text.takeWhile_append_of_head hdigit, Text.dropWhile_append_of_head hdigit, hhead]
      split <;> rfl
    · have hnone (ds : List Char) : takePort? scheme (c :: ds) = some (none, c :: ds) := by
        unfold takePort?
        split
        · next heq =>
          cases heq
          exact absurd rfl hcolon
        · rfl
      rw [List.cons_append, hnone, hnone]
      rfl

theorem EndsPlace.takeInfo_append (cs : List Char) :
    takeInfo true (cs ++ tail) = ((takeInfo true cs).1, (takeInfo true cs).2 ++ tail) := by
  have hends := h.head?_eq_false (p := (!endsHost true ·)) (by decide)
  unfold takeInfo
  rw [Text.takeWhile_append_of_head hends]
  split
  · rfl
  · next info after hsplit =>
    have hlength := length_of_splitUser hsplit
    have hle := (List.takeWhile_prefix (!endsHost true ·) (l := cs)).length_le
    rw [List.drop_append_of_le_length (Nat.le_trans hlength hle)]

theorem EndsPlace.hostOf?_append (wellKnown : Bool) (info : Option (List Char))
    (hostText rest : List Char) :
    hostOf? wellKnown info hostText (rest ++ tail) = hostOf? wellKnown info hostText rest := by
  have hhead : ((rest ++ tail).head? == some ':') = (rest.head? == some ':') := by
    cases rest with
    | nil => obtain rfl | ⟨rest, rfl | rfl | rfl | rfl⟩ := h.eq_nil_or <;> rfl
    | cons c rest => rfl
  rw [hostOf?, hhead, hostOf?]

theorem EndsPlace.readAuthority?_append {scheme : String} (hknown : isWellKnown scheme = true)
    (cs : List Char) :
    readAuthority? scheme (cs ++ tail) =
      (readAuthority? scheme cs).map fun x => (x.1, x.2 ++ tail) := by
  unfold readAuthority?
  simp only [hknown, h.takeInfo_append, h.takeHost_append, h.hostOf?_append, h.takePort?_append,
    Option.map_bind, Option.map_map, Function.comp_def]

end Tail

/-! ### Whole addresses -/

theorem samePlace_withPath {a : Address} (hfile : a.scheme ≠ "file") (cs : List Char) :
    SamePlace (a.withPath cs) a := by
  have hfile' : (a.scheme == "file") = false := beq_eq_false_iff_ne.mpr hfile
  refine ⟨rfl, rfl, ?_, rfl⟩
  simp only [withPath, withQuery, hfile']
  rfl

/-- What follows the port is a path with all that follows it, the end of an address without a path, or
nothing. -/
theorem withRest_cases (a : Address) (cs : List Char) :
    a.withRest cs = a ∨ (∃ query, a.withRest cs = a.withQuery query) ∨
      ∃ path, a.withRest cs = a.withPath path := by
  unfold withRest
  cases cs with
  | nil =>
    dsimp only
    split
    · exact .inr (.inr ⟨_, rfl⟩)
    · exact .inl rfl
  | cons c rest =>
    dsimp only
    split
    · exact .inr (.inr ⟨_, rfl⟩)
    · split
      · exact .inr (.inl ⟨_, rfl⟩)
      · exact .inr (.inr ⟨_, rfl⟩)

theorem scheme_withRest (a : Address) (cs : List Char) : (a.withRest cs).scheme = a.scheme := by
  obtain h | ⟨query, h⟩ | ⟨path, h⟩ := withRest_cases a cs <;> rw [h] <;> rfl

theorem samePlace_withRest {a : Address} (hfile : a.scheme ≠ "file") (cs : List Char) :
    SamePlace (a.withRest cs) a := by
  obtain h | ⟨query, h⟩ | ⟨path, h⟩ := withRest_cases a cs
  · rw [h]
    exact ⟨rfl, rfl, rfl, rfl⟩
  · rw [h]
    exact ⟨rfl, rfl, rfl, rfl⟩
  · rw [h]
    exact samePlace_withPath hfile path

theorem scheme_of_readFile? {cs : List Char} {a : Address} (h : readFile? cs = some a) :
    a.scheme = "file" := by
  unfold readFile? at h
  dsimp only at h
  split at h
  · split at h
    · split at h
      · cases h
        rfl
      · obtain ⟨host, -, h⟩ := Option.bind_eq_some_iff.mp h
        cases h
        exact scheme_withRest _ _
    · cases h
      exact scheme_withRest _ _
  · cases h
    exact scheme_withRest _ _

theorem scheme_of_readAuthority? {scheme : String} {cs rest : List Char} {a : Address}
    (h : readAuthority? scheme cs = some (a, rest)) : a.scheme = scheme := by
  unfold readAuthority? at h
  obtain ⟨host, -, h⟩ := Option.bind_eq_some_iff.mp h
  obtain ⟨port, -, h⟩ := Option.map_eq_some_iff.mp h
  cases h
  rfl

theorem scheme_of_readFromHost? {scheme : String} {cs : List Char} {a : Address}
    (h : readFromHost? scheme cs = some a) : a.scheme = scheme := by
  rw [readFromHost?_eq] at h
  obtain ⟨⟨b, rest⟩, hauthority, rfl⟩ := Option.map_eq_some_iff.mp h
  rw [scheme_withRest, scheme_of_readAuthority? hauthority]

theorem scheme_of_read? {url : String} {a : Address} (h : read? url = some a) :
    ∃ rest, takeScheme? (relevant url) = some (a.scheme, rest) := by
  unfold read? at h
  obtain ⟨⟨scheme, rest⟩, hscheme, h⟩ := Option.bind_eq_some_iff.mp h
  dsimp only at h
  suffices a.scheme = scheme by
    rw [this]
    exact ⟨rest, hscheme⟩
  split at h
  · next hfile => rw [scheme_of_readFile? h, hfile]
  · split at h
    · exact scheme_of_readFromHost? h
    · split at h
      · exact scheme_of_readFromHost? h
      · cases h
        rfl
      · cases h
        rfl

theorem isWeb_iff {a : Address} : a.isWeb ↔ a.scheme = "http" ∨ a.scheme = "https" := by
  simp [isWeb]

theorem isWellKnown_of_isWeb {a : Address} (h : a.isWeb) :
    isWellKnown a.scheme = true ∧ a.scheme ≠ "file" := by
  obtain h | h := isWeb_iff.mp h <;> rw [h] <;> decide

/-- The text of an address of the web is a scheme, slashes, and what leads to the host. -/
theorem read?_eq_some_iff {url : String} {a : Address} (hweb : a.isWeb) :
    read? url = some a ↔ ∃ rest, takeScheme? (relevant url) = some (a.scheme, rest) ∧
      readFromHost? a.scheme (rest.dropWhile (isSlash true)) = some a := by
  obtain ⟨hknown, hfile⟩ := isWellKnown_of_isWeb hweb
  have hread {rest : List Char} (hscheme : takeScheme? (relevant url) = some (a.scheme, rest)) :
      read? url = readFromHost? a.scheme (rest.dropWhile (isSlash true)) := by
    rw [read?, hscheme, Option.bind_eq_bind, Option.bind_some]
    dsimp only
    rw [if_neg hfile, if_pos hknown]
  constructor
  · intro h
    obtain ⟨rest, hscheme⟩ := scheme_of_read? h
    exact ⟨rest, hscheme, (hread hscheme).symm.trans h⟩
  · rintro ⟨rest, hscheme, h⟩
    exact (hread hscheme).trans h

/-! ### Places -/

/-- A scheme is read up to its colon, whatever comes after. -/
theorem exists_scheme {cs rest : List Char} {scheme : String}
    (h : takeScheme? cs = some (scheme, rest)) :
    ∃ before, cs = before ++ rest ∧ ∀ other, takeScheme? (before ++ other) = some (scheme, other) := by
  have hcs : cs.takeWhile isSchemeChar ++ cs.dropWhile isSchemeChar = cs :=
    List.takeWhile_append_dropWhile
  unfold takeScheme? at h
  generalize htaken : cs.takeWhile isSchemeChar = taken at h hcs
  split at h
  · next left hleft =>
    split at h
    · next halpha =>
      cases h
      rw [hleft] at hcs
      refine ⟨taken ++ [':'], by simp [hcs], fun other => ?_⟩
      have hall : ∀ c ∈ taken, isSchemeChar c = true := by
        intro c hc
        rw [← htaken] at hc
        exact List.mem_takeWhile_imp hc
      have hhead : (taken ++ ':' :: other).head? = cs.head? := by
        rw [← hcs]
        cases taken <;> rfl
      rw [List.append_assoc, List.singleton_append, takeScheme?, List.dropWhile_append_of_pos hall,
        List.takeWhile_append_of_pos hall, hhead]
      change (if cs.head?.any Char.isAlpha then _ else _) = _
      rw [if_pos halpha]
      simp [show isSchemeChar ':' = false by decide]
    · cases h
  · cases h

theorem readAuthority?_nil {scheme : String} (h : isWellKnown scheme = true) :
    readAuthority? scheme [] = none := by
  rw [readAuthority?, h]
  rfl

/-- What leads to the host and the port is read without a look at the path. -/
theorem exists_authority {scheme : String} {cs : List Char} {a : Address}
    (h : readFromHost? scheme cs = some a) (hknown : isWellKnown scheme = true) (hfile : scheme ≠ "file") :
    ∃ info rest, cs = info ++ rest ∧ EndsPlace rest ∧ info ≠ [] ∧ (∀ c ∈ info, endsHost true c = false) ∧
      ∀ other, EndsPlace other → ∃ b, readFromHost? scheme (info ++ other) = some b ∧ b.SamePlace a := by
  have hcs : cs.takeWhile (!endsHost true ·) ++ cs.dropWhile (!endsHost true ·) = cs :=
    List.takeWhile_append_dropWhile
  have hrest : EndsPlace (cs.dropWhile (!endsHost true ·)) := by
    intro c hc
    have hend := cs.head?_dropWhile_not (!endsHost true ·)
    rw [Option.mem_def.mp hc] at hend
    have hc : endsHost true c = true := by simpa using hend
    simpa [endsHost, isSlash, or_assoc] using hc
  have hinfo : ∀ c ∈ cs.takeWhile (!endsHost true ·), endsHost true c = false := by
    intro c hc
    simpa using List.mem_takeWhile_imp hc
  generalize cs.takeWhile (!endsHost true ·) = info at hcs hinfo
  generalize cs.dropWhile (!endsHost true ·) = rest at hcs hrest
  rw [← hcs, readFromHost?_eq, hrest.readAuthority?_append hknown, Option.map_map] at h
  obtain ⟨⟨place, left⟩, hplace, rfl⟩ := Option.map_eq_some_iff.mp h
  have hsame (cs : List Char) : SamePlace (place.withRest cs) place := by
    apply samePlace_withRest
    rwa [scheme_of_readAuthority? hplace]
  refine ⟨info, rest, hcs.symm, hrest, ?_, hinfo, fun other hother => ?_⟩
  · rintro rfl
    rw [readAuthority?_nil hknown] at hplace
    cases hplace
  · refine ⟨place.withRest (left ++ other), ?_, (hsame _).trans (hsame _).symm⟩
    rw [readFromHost?_eq, hother.readAuthority?_append hknown, hplace]
    rfl

theorem ownClient_readsPlaces : ownClient.ReadsPlaces := by
  intro text a h hweb
  obtain ⟨hknown, hfile⟩ := isWellKnown_of_isWeb hweb
  obtain ⟨left, hscheme, hhost⟩ := (read?_eq_some_iff hweb).mp h
  obtain ⟨before, htext, hbefore⟩ := exists_scheme hscheme
  obtain ⟨info, rest, hleft, hrest, hne, hinfo, hother⟩ := exists_authority hhost hknown hfile
  have hslashes : ∀ c ∈ left.takeWhile (isSlash true), isSlash true c = true :=
    fun c => List.mem_takeWhile_imp
  have hcut : left.takeWhile (isSlash true) ++ (info ++ rest) = left := by
    rw [← hleft, List.takeWhile_append_dropWhile]
  generalize left.takeWhile (isSlash true) = slashes at hslashes hcut
  have hdrop (other : List Char) :
      (slashes ++ (info ++ other)).dropWhile (isSlash true) = info ++ other := by
    obtain ⟨c, info, rfl⟩ := List.exists_cons_of_ne_nil hne
    have hc : isSlash true c = false := by
      have hends := hinfo c List.mem_cons_self
      rw [endsHost, Bool.or_eq_false_iff, Bool.or_eq_false_iff] at hends
      exact hends.1.1
    rw [List.dropWhile_append_of_pos hslashes, List.cons_append, List.dropWhile_cons, hc]
    rfl
  refine ⟨before ++ (slashes ++ info), ⟨rest, ?_, hrest⟩, ?_, ?_⟩
  · rw [htext, ← hcut, List.append_assoc, List.append_assoc]
  · rw [← List.append_assoc, List.getLast?_append_of_ne_nil _ hne]
    intro hlast
    exact absurd (hinfo '/' (List.mem_of_getLast? hlast)) (by decide)
  · rintro text' ⟨other, htext', hends⟩
    obtain ⟨b, hb, hsame⟩ := hother other hends
    refine ⟨b, ?_, hsame⟩
    have hplace : takeScheme? (relevant text') = some (b.scheme, slashes ++ (info ++ other)) := by
      rw [htext', List.append_assoc, List.append_assoc, hbefore, hsame.scheme]
    apply (read?_eq_some_iff (hsame.isWeb_eq.trans hweb)).mpr
    refine ⟨_, hplace, ?_⟩
    rw [hdrop, hsame.scheme, hb]

end ConsoleNav.Address
