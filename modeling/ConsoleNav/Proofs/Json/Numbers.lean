import ConsoleNav.Proofs.Json.Grammar
import ConsoleNav.Proofs.Json.Giving

/-!
Texts of numbers. How a number is read does not depend on what stands after it, if it is parted from it.
Of the integers, those of at most 64 bits are read as they are written, and no others are.
-/
namespace ConsoleNav.Json

section Digits

variable {cs rest : List Char}

/-- A text that begins neither with a fraction nor with an exponent. -/
def IsPlain (rest : List Char) : Prop :=
  ∀ c ∈ rest.head?, c ≠ '.' ∧ c ≠ 'e' ∧ c ≠ 'E'

/-- A text before which a number ends. -/
def EndsNumber (rest : List Char) : Prop :=
  (∀ c ∈ rest.head?, c.isDigit = false) ∧ IsPlain rest

theorem Parted.endsNumber (h : Parted rest) : EndsNumber rest := by
  rw [EndsNumber, IsPlain, ← forall₂_and]
  intro c hc
  rcases h c hc with hgap | rfl | rfl | rfl
  · simp only [isGap, Bool.or_eq_true, beq_iff_eq] at hgap
    rcases hgap with ((rfl | rfl) | rfl) | rfl
    all_goals decide
  all_goals decide

theorem takeWhile_isDigit_append (h : EndsNumber rest) :
    (cs ++ rest).takeWhile Char.isDigit = cs.takeWhile Char.isDigit := by
  induction cs with
  | nil =>
    cases rest with
    | nil => rfl
    | cons c rest => exact List.takeWhile_cons_of_neg (by simp [h.1 c rfl])
  | cons c cs ih =>
    rw [List.cons_append, List.takeWhile_cons, List.takeWhile_cons, ih]

theorem dropWhile_isDigit_append (h : EndsNumber rest) :
    (cs ++ rest).dropWhile Char.isDigit = cs.dropWhile Char.isDigit ++ rest := by
  induction cs with
  | nil =>
    cases rest with
    | nil => rfl
    | cons c rest => exact List.dropWhile_cons_of_neg (by simp [h.1 c rfl])
  | cons c cs ih =>
    rw [List.cons_append, List.dropWhile_cons, List.dropWhile_cons, ih]
    split <;> rfl

end Digits

section Locality

variable {negative : Bool} {significand : Nat} {exponent : Int} {left cs rest : List Char} {n : Number}

/-- Whether an exponent is negative, and its text without its sign. -/
def signed (cs : List Char) : Bool × List Char :=
  match cs with
  | '+' :: r => (false, r)
  | '-' :: r => (true, r)
  | r => (false, r)

theorem signed_append (h : cs ≠ []) (rest : List Char) :
    signed (cs ++ rest) = ((signed cs).1, (signed cs).2 ++ rest) := by
  obtain ⟨c, cs, rfl⟩ := List.exists_cons_of_ne_nil h
  by_cases hplus : c = '+'
  · rw [hplus]
    rfl
  · by_cases hminus : c = '-'
    · rw [hminus]
      rfl
    · simp [signed, hplus, hminus]

theorem readExponent_letter {c : Char} (hc : c = 'e' ∨ c = 'E') (after : List Char) :
    readExponent negative significand exponent (c :: after) =
      if ((signed after).2.takeWhile Char.isDigit).isEmpty then
        .error (if ((signed after).2.dropWhile Char.isDigit).isEmpty then .endInValue else .badNumber)
      else
        match exponentValue ((signed after).2.takeWhile Char.isDigit) with
        | some n => do
          let x ← floatOf negative significand (if (signed after).1 then exponent - n else exponent + n)
          .ok (.float x, (signed after).2.dropWhile Char.isDigit)
        | none =>
          if significand ≠ 0 ∧ !(signed after).1 then .error .numberOutOfRange
          else .ok (.float (if negative then -0.0 else 0.0), (signed after).2.dropWhile Char.isDigit) := by
  unfold readExponent
  exact if_pos hc

theorem readExponent_plain (h : IsPlain cs) :
    readExponent negative significand exponent cs = (do
      .ok (.float (← floatOf negative significand exponent), cs)) := by
  cases cs with
  | nil => rfl
  | cons c cs =>
    obtain ⟨-, hsmall, hlarge⟩ := h c rfl
    unfold readExponent
    exact if_neg (not_or.mpr ⟨hsmall, hlarge⟩)

theorem exponent_cases (negative : Bool) (significand : Nat) (exponent : Int) (cs : List Char) :
    (∃ c after, cs = c :: after ∧ (c = 'e' ∨ c = 'E')) ∨
      readExponent negative significand exponent cs = (do
        .ok (.float (← floatOf negative significand exponent), cs)) := by
  cases cs with
  | nil => exact .inr rfl
  | cons c after =>
    by_cases hletter : c = 'e' ∨ c = 'E'
    · exact .inl ⟨c, after, rfl, hletter⟩
    · exact .inr (if_neg hletter)

theorem readExponent_append (h : readExponent negative significand exponent cs = .ok (n, []))
    (hrest : EndsNumber rest) :
    readExponent negative significand exponent (cs ++ rest) = .ok (n, rest) := by
  obtain ⟨c, after, rfl, hletter⟩ | hplain := exponent_cases negative significand exponent cs
  · have hsome : after ≠ [] := by
      rintro rfl
      rw [readExponent_letter hletter] at h
      cases h
    rw [readExponent_letter hletter] at h
    rw [List.cons_append, readExponent_letter hletter, signed_append hsome]
    dsimp only
    rw [takeWhile_isDigit_append hrest, dropWhile_isDigit_append hrest]
    split at h
    · cases h
    · next hdigits =>
      rw [if_neg hdigits]
      split at h
      · obtain ⟨x, hx, heq⟩ := ok_of_bind h
        obtain ⟨rfl, hnil⟩ := Prod.mk.inj (Except.ok.inj heq)
        rw [hx, hnil]
        rfl
      · split at h
        · cases h
        · next hzero =>
          obtain ⟨rfl, hnil⟩ := Prod.mk.inj (Except.ok.inj h)
          rw [if_neg hzero, hnil]
          rfl
  · rw [hplain] at h
    obtain ⟨x, hx, heq⟩ := ok_of_bind h
    cases heq
    rw [List.nil_append, readExponent_plain hrest.2, hx]
    rfl

/-- The number of a whole part, of which the digits `left` did not fit. -/
def wholeNumber (negative : Bool) (significand : Nat) (left : List Char) : Except Cause Number :=
  if !left.isEmpty then do .ok (.float (← floatOf negative significand left.length))
  else if !negative then .ok (.int significand)
  else if significand = 0 ∨ 9223372036854775808 < significand then
    .ok (.float (-(UInt64.ofNat significand).toFloat))
  else .ok (.int (-significand))

theorem readFraction_plain (h : IsPlain cs) :
    readFraction negative significand left cs = (do
      .ok (← wholeNumber negative significand left, cs)) := by
  have hwhole : readFraction negative significand left cs =
      if !left.isEmpty then readExponent negative significand left.length cs
      else if !negative then .ok (.int significand, cs)
      else if significand = 0 ∨ 9223372036854775808 < significand then
        .ok (.float (-(UInt64.ofNat significand).toFloat), cs)
      else .ok (.int (-significand), cs) := by
    unfold readFraction
    split
    · exact absurd rfl (h _ rfl).1
    · split
      · exact absurd rfl (h _ rfl).2.1
      · exact absurd rfl (h _ rfl).2.2
      · rfl
  rw [hwhole, wholeNumber, readExponent_plain h]
  split_ifs
  · cases floatOf negative significand left.length with
    | error | ok => rfl
  all_goals rfl

theorem readFraction_point (after : List Char) :
    readFraction negative significand left ('.' :: after) =
      if (after.takeWhile Char.isDigit).isEmpty then
        .error (if (after.dropWhile Char.isDigit).isEmpty then .endInValue else .badNumber)
      else
        let (significand, beyond) := appendDigits significand (after.takeWhile Char.isDigit)
        readExponent negative significand
          (left.length - ((after.takeWhile Char.isDigit).length - beyond.length : Nat))
          (after.dropWhile Char.isDigit) := rfl

theorem readFraction_letter {c : Char} (hc : c = 'e' ∨ c = 'E') (after : List Char) :
    readFraction negative significand left (c :: after) =
      readExponent negative significand left.length (c :: after) := by
  rcases hc with rfl | rfl
  · rfl
  · rfl

theorem fraction_cases (cs : List Char) :
    (∃ after, cs = '.' :: after) ∨ (∃ c after, cs = c :: after ∧ (c = 'e' ∨ c = 'E')) ∨ IsPlain cs := by
  cases cs with
  | nil => exact .inr (.inr (by simp [IsPlain]))
  | cons c after =>
    by_cases hpoint : c = '.'
    · exact .inl ⟨after, by rw [hpoint]⟩
    · by_cases hletter : c = 'e' ∨ c = 'E'
      · exact .inr (.inl ⟨c, after, rfl, hletter⟩)
      · refine .inr (.inr fun d hd => ?_)
        cases hd
        exact ⟨hpoint, not_or.mp hletter⟩

theorem readFraction_append (h : readFraction negative significand left cs = .ok (n, []))
    (hrest : EndsNumber rest) :
    readFraction negative significand left (cs ++ rest) = .ok (n, rest) := by
  obtain ⟨after, rfl⟩ | ⟨c, after, rfl, hletter⟩ | hplain := fraction_cases cs
  · rw [readFraction_point] at h
    rw [List.cons_append, readFraction_point, takeWhile_isDigit_append hrest, dropWhile_isDigit_append hrest]
    split at h
    · cases h
    · next hdigits =>
      rw [if_neg hdigits]
      exact readExponent_append h hrest
  · rw [readFraction_letter hletter] at h
    rw [List.cons_append, readFraction_letter hletter]
    exact readExponent_append h hrest
  · rw [readFraction_plain hplain] at h
    obtain ⟨m, hm, heq⟩ := ok_of_bind h
    cases heq
    rw [List.nil_append, readFraction_plain hrest.2, hm]
    rfl

theorem readUnsigned_append (h : readUnsigned negative cs = .ok (n, [])) (hrest : EndsNumber rest) :
    readUnsigned negative (cs ++ rest) = .ok (n, rest) := by
  unfold readUnsigned at h ⊢
  rw [takeWhile_isDigit_append hrest, dropWhile_isDigit_append hrest]
  dsimp only at h ⊢
  split at h
  · cases h
  · cases h
  · exact readFraction_append h hrest

theorem readNumber_append (h : readNumber cs = .ok (n, [])) (hrest : EndsNumber rest) :
    readNumber (cs ++ rest) = .ok (n, rest) := by
  cases cs with
  | nil => cases h
  | cons c cs =>
    by_cases hminus : c = '-'
    · subst hminus
      exact readUnsigned_append h hrest
    · unfold readNumber at h ⊢
      split at h
      · next heq => exact absurd (List.cons.inj heq).1 hminus
      · split
        · next heq => exact absurd (List.cons.inj heq).1 hminus
        · exact readUnsigned_append h hrest

/-- A number begins with its sign or with a digit. -/
theorem opens_of_readNumber {p : Number × List Char} (h : readNumber cs = .ok p) :
    ∃ c after, cs = c :: after ∧ (c = '-' ∨ c.isDigit = true) := by
  cases cs with
  | nil => cases h
  | cons c after =>
    refine ⟨c, after, rfl, ?_⟩
    by_cases hminus : c = '-'
    · exact .inl hminus
    · by_cases hdigit : c.isDigit = true
      · exact .inr hdigit
      · unfold readNumber at h
        split at h
        · next heq => exact absurd (List.cons.inj heq).1 hminus
        · rw [readUnsigned, List.takeWhile_cons_of_neg hdigit] at h
          cases h

theorem begins_number {c : Char} (hc : c = '-' ∨ c.isDigit = true) (after : List Char) :
    Begins (c :: after) := by
  refine ⟨c, after, rfl, ?_, ?_⟩
  · rw [Bool.eq_false_iff]
    intro hgap
    simp only [isGap, Bool.or_eq_true, beq_iff_eq] at hgap
    rcases hgap with ((rfl | rfl) | rfl) | rfl
    all_goals exact absurd hc (by decide)
  · rintro rfl
    exact absurd hc (by decide)

end Locality

section Integers

/-- An integer of at most 64 bits, with a sign or without one. -/
def IsWord (n : Int) : Prop :=
  -9223372036854775808 ≤ n ∧ n < 18446744073709551616

theorem le_ofDigitChars (digits : List Char) (n : Nat) : n ≤ Nat.ofDigitChars 10 digits n := by
  induction digits generalizing n with
  | nil => exact Nat.le_refl n
  | cons c digits ih =>
    rw [Nat.ofDigitChars_cons]
    exact Nat.le_trans (by omega) (ih _)

theorem appendDigits_of_le {digits : List Char} {n : Nat}
    (h : Nat.ofDigitChars 10 digits n ≤ significandLimit) :
    appendDigits n digits = (Nat.ofDigitChars 10 digits n, []) := by
  induction digits generalizing n with
  | nil => rfl
  | cons c digits ih =>
    have hnext : n * 10 + (c.toNat - 48) = 10 * n + (c.toNat - '0'.toNat) := by
      rw [Nat.mul_comm]
      rfl
    rw [Nat.ofDigitChars_cons] at h ⊢
    rw [appendDigits, hnext, if_pos (Nat.le_trans (le_ofDigitChars _ _) h), ih h]

theorem appendDigits_le {digits : List Char} {n : Nat} (h : n ≤ significandLimit) :
    (appendDigits n digits).1 ≤ significandLimit := by
  induction digits generalizing n with
  | nil => exact h
  | cons c digits ih =>
    rw [appendDigits]
    split
    · next hnext => exact ih hnext
    · exact h

theorem digitChar_eq_zero : ∀ n < 10, Nat.digitChar n = '0' → n = 0 := by
  decide

theorem isWhole_toDigits (n : Nat) : IsWhole (Nat.toDigits 10 n) := by
  refine ⟨⟨Nat.toDigits_ne_nil, fun c hc => Nat.isDigit_of_mem_toDigits (by decide) (by decide) hc⟩, ?_⟩
  induction n using Nat.strongRecOn with
  | _ n ih =>
    rw [Nat.toDigits_eq_if (by decide)]
    split
    · next hlt =>
      intro hzero
      rw [digitChar_eq_zero n hlt (Option.some.inj hzero)]
      rfl
    · next hge =>
      intro hzero
      -- The digits before the last one do not begin with a zero, for they are not zero.
      rw [List.head?_append_of_ne_nil _ Nat.toDigits_ne_nil] at hzero
      have hrest := ih (n / 10) (by omega) hzero
      have hvalue := Nat.ofDigitChars_toDigits (b := 10) (n := n / 10) (by decide) (by decide)
      rw [hrest] at hvalue
      have hnone : Nat.ofDigitChars 10 ['0'] 0 = 0 := rfl
      omega

theorem readUnsigned_whole {negative : Bool} {whole : List Char} (h : IsWhole whole) :
    readUnsigned negative whole =
      readFraction negative (appendDigits 0 whole).1 (appendDigits 0 whole).2 [] := by
  have htake : whole.takeWhile Char.isDigit = whole := List.takeWhile_eq_self_iff.mpr h.1.2
  have hdrop : whole.dropWhile Char.isDigit = [] := List.dropWhile_eq_nil_iff.mpr h.1.2
  rw [readUnsigned, htake, hdrop]
  dsimp only
  split
  · exact absurd rfl h.1.1
  · cases h.2 rfl
  · rfl

theorem readUnsigned_toDigits {negative : Bool} {n : Nat} (h : n ≤ significandLimit) :
    readUnsigned negative (Nat.toDigits 10 n) = (do .ok (← wholeNumber negative n [], [])) := by
  have hvalue := Nat.ofDigitChars_toDigits (b := 10) (n := n) (by decide) (by decide)
  rw [readUnsigned_whole (isWhole_toDigits n), appendDigits_of_le (by rwa [hvalue]), hvalue,
    readFraction_plain (by simp [IsPlain])]

theorem toList_toString (n : Int) : (toString n).toList =
    if 0 ≤ n then Nat.toDigits 10 n.toNat else '-' :: Nat.toDigits 10 (-n).toNat := by
  rw [Int.toString_eq_repr, Int.repr_eq_if]
  split
  · rw [Nat.toList_repr]
  · rw [String.toList_append, Nat.toList_repr]
    rfl

/-- Integers are read as they are written. -/
theorem readNumber_toString {n : Int} (h : IsWord n) : readNumber (toString n).toList = .ok (.int n, []) := by
  obtain ⟨hleast, hgreatest⟩ := h
  have hlimit : significandLimit = 18446744073709551615 := rfl
  rw [toList_toString]
  split
  · next hsign =>
    have hdigits : readNumber (Nat.toDigits 10 n.toNat) = readUnsigned false (Nat.toDigits 10 n.toNat) := by
      unfold readNumber
      split
      · next heq =>
        have hminus := (isWhole_toDigits n.toNat).1.2 '-' (heq ▸ List.mem_cons_self)
        exact absurd hminus (by decide)
      · rfl
    rw [hdigits, readUnsigned_toDigits (by omega)]
    simp only [wholeNumber, List.isEmpty_nil, Bool.not_true, Bool.not_false, Bool.false_eq_true, if_true,
      if_false, Int.toNat_of_nonneg hsign, bind, Except.bind]
  · next hsign =>
    have hsome : ¬ ((-n).toNat = 0 ∨ 9223372036854775808 < (-n).toNat) := by omega
    have hvalue : -((-n).toNat : Int) = n := by omega
    rw [readNumber, readUnsigned_toDigits (by omega)]
    simp only [wholeNumber, List.isEmpty_nil, Bool.not_true, Bool.false_eq_true, if_false, if_neg hsome,
      hvalue, bind, Except.bind]

end Integers

section Range

variable {negative : Bool} {significand : Nat} {left cs rest : List Char} {n : Int}

/-- What has an exponent is not taken for an integer. -/
theorem not_int_of_readExponent {exponent : Int} :
    readExponent negative significand exponent cs ≠ .ok (.int n, rest) := by
  intro h
  obtain ⟨c, after, rfl, hletter⟩ | hplain := exponent_cases negative significand exponent cs
  · rw [readExponent_letter hletter] at h
    split at h
    · cases h
    · split at h
      · obtain ⟨x, -, heq⟩ := ok_of_bind h
        cases heq
      · split at h
        · cases h
        · cases h
  · rw [hplain] at h
    obtain ⟨x, -, heq⟩ := ok_of_bind h
    cases heq

theorem isWord_of_wholeNumber (hs : significand ≤ significandLimit)
    (h : wholeNumber negative significand left = .ok (.int n)) : IsWord n := by
  have hlimit : significandLimit = 18446744073709551615 := rfl
  unfold wholeNumber at h
  split at h
  · obtain ⟨x, -, heq⟩ := ok_of_bind h
    cases heq
  · split at h
    · cases h
      constructor <;> omega
    · split at h
      · cases h
      · cases h
        constructor <;> omega

theorem isWord_of_readFraction (hs : significand ≤ significandLimit)
    (h : readFraction negative significand left cs = .ok (.int n, rest)) : IsWord n := by
  obtain ⟨after, rfl⟩ | ⟨c, after, rfl, hletter⟩ | hplain := fraction_cases cs
  · rw [readFraction_point] at h
    split at h
    · cases h
    · exact absurd h not_int_of_readExponent
  · rw [readFraction_letter hletter] at h
    exact absurd h not_int_of_readExponent
  · rw [readFraction_plain hplain] at h
    obtain ⟨m, hm, heq⟩ := ok_of_bind h
    cases heq
    exact isWord_of_wholeNumber hs hm

theorem isWord_of_readNumber (h : readNumber cs = .ok (.int n, rest)) : IsWord n := by
  have hunsigned {negative : Bool} {cs : List Char} (h : readUnsigned negative cs = .ok (.int n, rest)) :
      IsWord n := by
    unfold readUnsigned at h
    dsimp only at h
    split at h
    · cases h
    · cases h
    · exact isWord_of_readFraction (appendDigits_le (by decide)) h
  unfold readNumber at h
  split at h
  · exact hunsigned h
  · exact hunsigned h

end Range

end ConsoleNav.Json
