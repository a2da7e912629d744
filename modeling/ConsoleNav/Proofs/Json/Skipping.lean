import ConsoleNav.Json.Skip
import ConsoleNav.Proofs.Json.Numbers

/-!
Every well-formed text is skipped as a whole, however deep it is nested: what is skipped keeps a list of the
brackets that are open, and after a text of `n` characters within them it has taken at most `2 * n` steps.
-/
namespace ConsoleNav.Json

section Scalars

variable {cs rest : List Char}

theorem skipString_of_quoted (h : IsQuoted cs) (rest : List Char) :
    skipString (cs ++ '"' :: rest) = .ok rest := by
  induction h with
  | nil => exact skipString.eq_2 rest
  | @plain c cs quote backslash control _ ih =>
    rw [List.cons_append, skipString.eq_6 c _ quote (fun _ h _ => backslash h) (fun h _ => backslash h)
      (fun _ _ h _ => backslash h), if_neg control, ih]
  | @letter e c cs escape _ ih =>
    have hplain : plainEscape? e = some c := plainEscape?_of_mem _ escape
    have hu : e ≠ 'u' := by
      rintro rfl
      have hnone : plainEscape? 'u' = none := by decide
      cases hnone.symm.trans hplain
    rw [List.cons_append, List.cons_append, skipString.eq_5 e _ hu, hplain]
    exact ih
  | @unit hex cs n digits _ ih =>
    have hread := hexUnit_of_isUnit digits (cs ++ '"' :: rest)
    rw [List.cons_append, List.cons_append, List.append_assoc, skipString.eq_3]
    split
    · next he => cases hread.symm.trans he
    · next he =>
      cases hread.symm.trans he
      exact ih

theorem takeWhile_digits (h : IsDigits cs) (hrest : ∀ c ∈ rest.head?, c.isDigit = false) :
    (cs ++ rest).takeWhile Char.isDigit = cs ∧ (cs ++ rest).dropWhile Char.isDigit = rest := by
  have hstop : rest.takeWhile Char.isDigit = [] ∧ rest.dropWhile Char.isDigit = rest := by
    cases rest with
    | nil => exact ⟨rfl, rfl⟩
    | cons c rest =>
      have hc : ¬ c.isDigit = true := by simp [hrest c rfl]
      exact ⟨List.takeWhile_cons_of_neg hc, List.dropWhile_cons_of_neg hc⟩
  rw [List.takeWhile_append_of_pos h.2, List.dropWhile_append_of_pos h.2, hstop.1, hstop.2, List.append_nil]
  exact ⟨rfl, rfl⟩

theorem IsDigits.head (h : IsDigits cs) : ∃ c ds, cs = c :: ds ∧ c.isDigit = true := by
  obtain ⟨c, ds, rfl⟩ := List.exists_cons_of_ne_nil h.1
  exact ⟨c, ds, rfl, h.2 c List.mem_cons_self⟩

theorem signed_digits {sign : List Char} (hsign : sign = [] ∨ sign = ['+'] ∨ sign = ['-'])
    (h : IsDigits cs) (rest : List Char) : (signed (sign ++ (cs ++ rest))).2 = cs ++ rest := by
  rcases hsign with rfl | rfl | rfl
  · obtain ⟨c, ds, rfl, hc⟩ := h.head
    have hplus : c ≠ '+' := by
      rintro rfl
      cases hc
    have hminus : c ≠ '-' := by
      rintro rfl
      cases hc
    simp [signed, hplus, hminus]
  · rfl
  · rfl

theorem skipExponent_letter {c : Char} (hc : c = 'e' ∨ c = 'E') (after : List Char) :
    skipExponent (c :: after) =
      if ((signed after).2.takeWhile Char.isDigit).isEmpty then .error .badNumber
      else .ok ((signed after).2.dropWhile Char.isDigit) := by
  unfold skipExponent
  refine (if_pos hc).trans ?_
  cases after with
  | nil => rfl
  | cons d after =>
    by_cases hplus : d = '+'
    · rw [hplus]
      rfl
    · by_cases hminus : d = '-'
      · rw [hminus]
        rfl
      · simp [signed, hplus, hminus]

theorem skipExponent_of_isExponent (h : IsExponent cs) (hrest : EndsNumber rest) :
    skipExponent (cs ++ rest) = .ok rest := by
  cases h with
  | none =>
    cases rest with
    | nil => rfl
    | cons c rest => exact if_neg (not_or.mpr (hrest.2 c rfl).2)
  | @digits c sign ds letter hsign hdigits =>
    obtain ⟨htake, hdrop⟩ := takeWhile_digits hdigits hrest.1
    have hsome : ¬ ds.isEmpty = true := by simpa using hdigits.1
    rw [List.cons_append, List.append_assoc, skipExponent_letter letter, signed_digits hsign hdigits, htake,
      hdrop, if_neg hsome]

theorem IsExponent.not_digit (h : IsExponent cs) (hrest : EndsNumber rest) :
    ∀ c ∈ (cs ++ rest).head?, c.isDigit = false := by
  cases h with
  | none => exact hrest.1
  | digits letter =>
    intro c hc
    cases hc
    rcases letter with rfl | rfl
    · rfl
    · rfl

/-- The rest of the text after a number that is skipped, from the end of its whole part on. -/
def skipFraction (cs : List Char) : Except Cause (List Char) :=
  match cs with
  | '.' :: after =>
    if (after.takeWhile Char.isDigit).isEmpty then .error .badNumber
    else skipExponent (after.dropWhile Char.isDigit)
  | rest => skipExponent rest

theorem skipFraction_exponent (h : IsExponent cs) (hrest : EndsNumber rest) :
    skipFraction (cs ++ rest) = skipExponent (cs ++ rest) := by
  unfold skipFraction
  split
  · next after heq =>
    cases h with
    | none =>
      rw [List.nil_append] at heq
      exact absurd rfl (hrest.2 '.' (heq ▸ rfl)).1
    | digits letter =>
      obtain ⟨rfl, -⟩ := List.cons.inj heq
      exact absurd letter (by decide)
  · rfl

theorem skipFraction_of_isFraction {fraction : List Char} (h : IsFraction fraction) (hcs : IsExponent cs)
    (hrest : EndsNumber rest) : skipFraction (fraction ++ (cs ++ rest)) = .ok rest := by
  cases h with
  | none => exact (skipFraction_exponent hcs hrest).trans (skipExponent_of_isExponent hcs hrest)
  | @digits ds hdigits =>
    obtain ⟨htake, hdrop⟩ := takeWhile_digits hdigits (hcs.not_digit hrest)
    have hsome : ¬ ds.isEmpty = true := by simpa using hdigits.1
    rw [List.cons_append, skipFraction, htake, hdrop, if_neg hsome]
    exact skipExponent_of_isExponent hcs hrest

/-- The rest of the text after a number that is skipped, without its sign. -/
def skipUnsigned (cs : List Char) : Except Cause (List Char) :=
  match cs.takeWhile Char.isDigit with
  | [] => .error .badNumber
  | '0' :: _ :: _ => .error .badNumber
  | _ => skipFraction (cs.dropWhile Char.isDigit)

theorem skipUnsigned_whole (h : IsWhole cs) (hrest : ∀ c ∈ rest.head?, c.isDigit = false) :
    skipUnsigned (cs ++ rest) = skipFraction rest := by
  obtain ⟨htake, hdrop⟩ := takeWhile_digits h.1 hrest
  rw [skipUnsigned, htake, hdrop]
  split
  · exact absurd rfl h.1.1
  · cases h.2 rfl
  · rfl

theorem skipNumber_signed {sign : List Char} (hsign : sign = [] ∨ sign = ['-']) (h : IsWhole cs)
    (rest : List Char) : skipNumber (sign ++ (cs ++ rest)) = skipUnsigned (cs ++ rest) := by
  rcases hsign with rfl | rfl
  · have hdigit : ∀ r, cs ++ rest = '-' :: r → False := by
      obtain ⟨c, ds, rfl, hc⟩ := h.1.head
      intro r heq
      obtain ⟨rfl, -⟩ := List.cons.inj heq
      cases hc
    rw [List.nil_append, skipNumber.eq_2 _ hdigit]
    rfl
  · rfl

theorem skipNumber_of_isNumber (h : IsNumber cs) (hrest : EndsNumber rest) :
    skipNumber (cs ++ rest) = .ok rest := by
  cases h with
  | @mk sign whole fraction exponent hsign integral fractional scaled =>
    have hdigit : ∀ c ∈ (fraction ++ (exponent ++ rest)).head?, c.isDigit = false := by
      cases fractional with
      | none => exact scaled.not_digit hrest
      | digits =>
        intro c hc
        cases hc
        rfl
    simp only [List.append_assoc]
    rw [skipNumber_signed hsign integral, skipUnsigned_whole integral hdigit]
    exact skipFraction_of_isFraction fractional scaled hrest

/-- A number begins with its sign or with a digit. -/
theorem IsNumber.head (h : IsNumber cs) : ∃ c after, cs = c :: after ∧ (c = '-' ∨ c.isDigit = true) := by
  cases h with
  | mk hsign integral =>
    obtain ⟨c, ds, rfl, hc⟩ := integral.1.head
    rcases hsign with rfl | rfl
    · exact ⟨c, _, rfl, .inr hc⟩
    · exact ⟨'-', _, rfl, .inl rfl⟩

theorem skipScalar_number {c : Char} (hc : c = '-' ∨ c.isDigit = true) (after : List Char) :
    skipScalar (c :: after) = skipNumber (c :: after) := by
  unfold skipScalar
  split
  · next heq => cases heq
  iterate 4
    · next heq =>
      obtain ⟨rfl, -⟩ := List.cons.inj heq
      exact absurd hc (by decide)
  · next heq =>
    obtain ⟨rfl, rfl⟩ := List.cons.inj heq
    exact if_pos hc

end Scalars

section Steps

variable {fuel : Nat} {state : Skipping} {b : Bracket} {brackets : List Bracket} {cs after rest : List Char}

theorem skipFrom_scalar {c : Char} (hc : c ≠ '[' ∧ c ≠ '\x7b') (hcs : skipGap cs = c :: after)
    (h : skipScalar (c :: after) = .ok rest) :
    skipFrom (fuel + 1) .value brackets cs = skipFrom fuel .next brackets rest := by
  rw [skipFrom, hcs]
  split
  · next heq => exact absurd (List.cons.inj heq).1 hc.1
  · next heq => exact absurd (List.cons.inj heq).1 hc.2
  · rw [h]
    rfl

theorem skipFrom_list (hcs : skipGap cs = '[' :: after) :
    skipFrom (fuel + 1) .value brackets cs = skipFrom fuel .first (.list :: brackets) after := by
  rw [skipFrom, hcs]
  rfl

theorem skipFrom_object (hcs : skipGap cs = '\x7b' :: after) :
    skipFrom (fuel + 1) .value brackets cs = skipFrom fuel .first (.object :: brackets) after := by
  rw [skipFrom, hcs]
  rfl

/-- Where the next item or member is looked for. -/
def Skipping.part (first : Bool) : Skipping :=
  if first then .first else .next

theorem part_ne_value (first : Bool) : Skipping.part first = .value → False := by
  cases first with
  | true | false => nofun

theorem skipFrom_close (first : Bool) (hcs : skipGap cs = b.close :: after) :
    skipFrom (fuel + 1) (.part first) (b :: brackets) cs = skipFrom fuel .next brackets after := by
  cases b with
  | list =>
    rw [skipFrom.eq_4 _ _ _ _ (part_ne_value first), hcs]
    exact if_pos rfl
  | object =>
    rw [skipFrom.eq_5 _ _ _ _ (part_ne_value first), hcs]
    exact if_pos rfl

theorem skipFrom_first {c : Char} (hcs : skipGap cs = c :: after) (hc : c ≠ b.close)
    (h : skipToValue b (c :: after) = .ok rest) :
    skipFrom (fuel + 1) (.part true) (b :: brackets) cs = skipFrom fuel .value (b :: brackets) rest := by
  have hfirst : Skipping.part true = .first := rfl
  cases b with
  | list =>
    rw [skipFrom.eq_4 _ _ _ _ (part_ne_value true), hcs]
    dsimp only
    rw [if_neg hc, if_pos hfirst, h]
    rfl
  | object =>
    rw [skipFrom.eq_5 _ _ _ _ (part_ne_value true), hcs]
    dsimp only
    rw [if_neg hc, if_pos hfirst, h]
    rfl

theorem skipFrom_later (hcs : skipGap cs = ',' :: after) (h : skipToValue b after = .ok rest) :
    skipFrom (fuel + 1) (.part false) (b :: brackets) cs = skipFrom fuel .value (b :: brackets) rest := by
  cases b with
  | list =>
    rw [skipFrom.eq_4 _ _ _ _ (part_ne_value false), hcs]
    dsimp only
    rw [if_neg (by decide), if_neg (by decide), if_pos rfl, h]
    rfl
  | object =>
    rw [skipFrom.eq_5 _ _ _ _ (part_ne_value false), hcs]
    dsimp only
    rw [if_neg (by decide), if_neg (by decide), if_pos rfl, h]
    rfl

end Steps

section Values

variable {first : Bool} {text cs : List Char} {texts : List (List Char)}
  {ms : List (List Char × List Char)}

/-- The text is skipped within fewer than `2 * n` steps, where `n` is its length. -/
def IsSkipped (text : List Char) : Prop :=
  ∃ k < 2 * text.length, ∀ (fuel : Nat) (brackets : List Bracket) (gap rest : List Char), IsBlank gap →
    Parted rest →
      skipFrom (fuel + k) .value brackets (gap ++ (text ++ rest)) = skipFrom fuel .next brackets rest

theorem IsWellFormed.begins (h : IsWellFormed text) : Begins text := by
  cases h with
  | null | true | false | string | list | object => exact ⟨_, _, rfl, rfl, by decide⟩
  | number h =>
    obtain ⟨c, after, rfl, hc⟩ := h.head
    exact begins_number hc after

theorem isSkipped_scalar {c : Char} {after : List Char} (hc : c ≠ '[' ∧ c ≠ '\x7b')
    (hbegins : Begins (c :: after))
    (h : ∀ rest, Parted rest → skipScalar (c :: after ++ rest) = .ok rest) : IsSkipped (c :: after) := by
  obtain ⟨_, _, heq, hblank, -⟩ := hbegins
  cases heq
  refine ⟨1, by simp [Nat.mul_add], fun fuel brackets gap rest hgap hrest => ?_⟩
  exact skipFrom_scalar hc (skipGap_gap_cons hgap hblank _) (h rest hrest)

theorem isSkipped_items (h : ItemsText first texts cs)
    (hitems : ∀ text ∈ texts, Begins text ∧ IsSkipped text) :
    ∃ k ≤ 2 * cs.length, ∀ (fuel : Nat) (brackets : List Bracket) (rest : List Char),
      skipFrom (fuel + k) (.part first) (.list :: brackets) (cs ++ rest) =
        skipFrom fuel .next brackets rest := by
  induction h with
  | @nil first gap blank =>
    refine ⟨1, by simp [Nat.mul_add], fun fuel brackets rest => ?_⟩
    rw [List.append_assoc]
    exact skipFrom_close first (skipGap_gap_cons blank rfl rest)
  | @cons first sep text cs texts parted others ih =>
    rw [List.forall_mem_cons] at hitems
    obtain ⟨⟨c, text', rfl, hblank, hend⟩, k, hk, hitem⟩ := hitems.1
    obtain ⟨k', hk', hothers⟩ := ih hitems.2
    refine ⟨k' + k + 1, ?_, fun fuel brackets rest => ?_⟩
    · simp only [List.length_append]
      omega
    -- Once the separator is behind, the item and the items after it are skipped within the same brackets.
    have hgo (gap : List Char) (hgap : IsBlank gap) :
        skipFrom (fuel + (k' + k)) .value (.list :: brackets) (gap ++ (c :: text' ++ (cs ++ rest))) =
          skipFrom fuel .next brackets rest := by
      rw [← Nat.add_assoc, hitem _ _ _ _ hgap (others.parted rest)]
      exact hothers fuel brackets rest
    simp only [List.append_assoc]
    rw [← Nat.add_assoc]
    cases parted with
    | first blank =>
      have hopen : skipGap (sep ++ (c :: text' ++ (cs ++ rest))) = c :: (text' ++ (cs ++ rest)) :=
        skipGap_gap_cons blank hblank _
      rw [skipFrom_first (b := .list) hopen hend rfl]
      exact hgo [] isBlank_nil
    | @later gap gap' before after =>
      simp only [List.append_assoc, List.cons_append]
      rw [skipFrom_later (skipGap_gap_cons before rfl _) rfl]
      exact hgo gap' after

theorem skipKey_of_quoted {gap key before : List Char} (hgap : IsBlank gap) (hkey : IsQuoted key)
    (hbefore : IsBlank before) (after rest : List Char) :
    skipKey (gap ++ '"' :: (key ++ '"' :: (before ++ ':' :: after ++ rest))) = .ok (after ++ rest) := by
  have hcolon : colon (before ++ ':' :: after ++ rest) = .ok (after ++ rest) := by
    rw [List.append_assoc, List.cons_append]
    simp only [colon, skipGap_gap_cons hbefore (c := ':') rfl]
  simp only [skipKey, skipGap_gap_cons hgap (c := '"') rfl, skipString_of_quoted hkey, hcolon, bind, Except.bind]

theorem isSkipped_members (h : MembersText first ms cs)
    (hmembers : ∀ m ∈ ms, IsQuoted m.1 ∧ IsSkipped m.2) :
    ∃ k ≤ 2 * cs.length, ∀ (fuel : Nat) (brackets : List Bracket) (rest : List Char),
      skipFrom (fuel + k) (.part first) (.object :: brackets) (cs ++ rest) =
        skipFrom fuel .next brackets rest := by
  induction h with
  | @nil first gap blank =>
    refine ⟨1, by simp [Nat.mul_add], fun fuel brackets rest => ?_⟩
    rw [List.append_assoc]
    exact skipFrom_close first (skipGap_gap_cons blank rfl rest)
  | @cons first sep key mid text cs ms parted named others ih =>
    rw [List.forall_mem_cons] at hmembers
    obtain ⟨hkey, k, hk, hitem⟩ : IsQuoted key ∧ IsSkipped text := hmembers.1
    obtain ⟨k', hk', hothers⟩ := ih hmembers.2
    refine ⟨k' + k + 1, ?_, fun fuel brackets rest => ?_⟩
    · simp only [List.length_append, List.length_cons]
      omega
    simp only [List.append_assoc, List.cons_append]
    rw [← Nat.add_assoc]
    cases named with
    | @mk before after hbefore hafter =>
      have hkeyed {gap : List Char} (hgap : IsBlank gap) : skipToValue .object
          (gap ++ '"' :: (key ++ '"' :: (before ++ ':' :: after ++ (text ++ (cs ++ rest))))) =
            .ok (after ++ (text ++ (cs ++ rest))) :=
        skipKey_of_quoted hgap hkey hbefore after _
      have hgo : skipFrom (fuel + (k' + k)) .value (.object :: brackets) (after ++ (text ++ (cs ++ rest))) =
          skipFrom fuel .next brackets rest := by
        rw [← Nat.add_assoc, hitem _ _ _ _ hafter (others.parted rest)]
        exact hothers fuel brackets rest
      cases parted with
      | first blank =>
        have hquote : '"' ≠ Bracket.object.close := by decide
        rw [skipFrom_first (skipGap_gap_cons blank rfl _) hquote (hkeyed isBlank_nil)]
        exact hgo
      | @later gap gap' hgap hgap' =>
        rw [List.append_assoc, List.cons_append, skipFrom_later (skipGap_gap_cons hgap rfl _) (hkeyed hgap')]
        exact hgo

theorem isSkipped_of_wellFormed (h : IsWellFormed text) : IsSkipped text := by
  -- On the grammar and for any open brackets, since what is skipped has no stack but these.
  induction h with
  | null | true | false =>
    exact isSkipped_scalar (by decide) ⟨_, _, rfl, rfl, by decide⟩ fun rest _ => rfl
  | number h =>
    obtain ⟨c, after, rfl, hc⟩ := h.head
    have hscalar : c ≠ '[' ∧ c ≠ '\x7b' := by
      constructor
      · rintro rfl
        exact absurd hc (by decide)
      · rintro rfl
        exact absurd hc (by decide)
    refine isSkipped_scalar hscalar (begins_number hc after) fun rest hrest => ?_
    rw [List.cons_append, skipScalar_number hc]
    exact skipNumber_of_isNumber h hrest.endsNumber
  | @string cs h =>
    refine isSkipped_scalar (by decide) ⟨_, _, rfl, rfl, by decide⟩ fun rest _ => ?_
    rw [List.cons_append, List.append_assoc]
    exact skipString_of_quoted h rest
  | @list texts cs items values ih =>
    obtain ⟨k, hk, hskip⟩ := isSkipped_items items fun text hmem => ⟨(values text hmem).begins, ih text hmem⟩
    refine ⟨k + 1, by rw [List.length_cons]; omega, fun fuel brackets gap rest hgap _ => ?_⟩
    rw [List.cons_append, ← Nat.add_assoc, skipFrom_list (skipGap_gap_cons hgap rfl _)]
    exact hskip fuel brackets rest
  | @object ms cs members keys values ih =>
    obtain ⟨k, hk, hskip⟩ := isSkipped_members members fun m hmem => ⟨keys m hmem, ih m hmem⟩
    refine ⟨k + 1, by rw [List.length_cons]; omega, fun fuel brackets gap rest hgap _ => ?_⟩
    rw [List.cons_append, ← Nat.add_assoc, skipFrom_object (skipGap_gap_cons hgap rfl _)]
    exact hskip fuel brackets rest

/-- A value of which only the form matters is taken off the front. -/
theorem skipValue_of_wellFormed (h : IsWellFormed text) {size : Nat} (hs : text.length ≤ size)
    {gap rest : List Char} (hgap : IsBlank gap) (hrest : Parted rest) :
    skipValue size (gap ++ (text ++ rest)) = .ok rest := by
  obtain ⟨k, hk, hskip⟩ := isSkipped_of_wellFormed h
  obtain ⟨fuel, hfuel⟩ : ∃ fuel, 2 * size + 2 = fuel + 1 + k := ⟨2 * size + 1 - k, by omega⟩
  rw [skipValue, hfuel, hskip _ _ _ _ hgap hrest]
  exact skipFrom.eq_3 _ _ _ nofun

end Values

end ConsoleNav.Json
