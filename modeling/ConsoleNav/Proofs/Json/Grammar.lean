import ConsoleNav.Proofs.Json.Spelling
import Mathlib.Data.List.Forall2
import Mathlib.Data.List.TakeWhile
import Mathlib.Tactic.SplitIfs

/-!
The grammar of JSON texts, with any blanks between their parts and any escapes in their strings. The
readers of lists and objects take such texts off the front, given that the readers of the parts do.
-/
namespace ConsoleNav.Json

section Gaps

variable {gap : List Char}

theorem skipGap_gap (h : IsBlank gap) (cs : List Char) : skipGap (gap ++ cs) = skipGap cs :=
  List.dropWhile_append_of_pos h

theorem skipGap_gap_cons (h : IsBlank gap) {c : Char} (hc : isGap c = false) (cs : List Char) :
    skipGap (gap ++ c :: cs) = c :: cs := by
  rw [skipGap_gap h, skipGap_cons hc]

theorem isBlank_nil : IsBlank [] :=
  fun _ hc => absurd hc List.not_mem_nil

theorem isBlank_ite (first : Bool) (h : IsBlank gap) : IsBlank (if first then [] else gap) := by
  cases first with
  | false => exact h
  | true => exact isBlank_nil

/-- What may stand after a value: nothing, a blank, a comma or a closing bracket. -/
def Parted (cs : List Char) : Prop :=
  ∀ c ∈ cs.head?, isGap c = true ∨ c = ',' ∨ c = ']' ∨ c = '\x7d'

theorem parted_cons {c : Char} (h : c = ',' ∨ c = ']' ∨ c = '\x7d') (cs : List Char) :
    Parted (c :: cs) := by
  intro d hd
  cases Option.some.inj hd
  exact .inr h

theorem parted_gap (h : IsBlank gap) {cs : List Char} (hcs : Parted cs) : Parted (gap ++ cs) := by
  cases gap with
  | nil => exact hcs
  | cons c gap =>
    intro d hd
    cases Option.some.inj hd
    exact .inl (h c List.mem_cons_self)

end Gaps

section Strings

theorem hexValue?_digitChar : ∀ n < 16, Text.hexValue? (Nat.digitChar n) = some n := by
  decide

/-- The escapes of one letter, each with the character that it stands for. -/
def letterEscapes : List (Char × Char) :=
  [('"', '"'), ('\\', '\\'), ('/', '/'), ('b', '\x08'), ('f', '\x0c'), ('n', '\n'), ('r', '\x0d'),
    ('t', '\t')]

/-- The number of four hexadecimal digits. -/
inductive IsUnit : List Char → Nat → Prop
  | digits {a b c d : Char} {h i j k : Nat} (first : Text.hexValue? a = some h)
      (second : Text.hexValue? b = some i) (third : Text.hexValue? c = some j)
      (fourth : Text.hexValue? d = some k) : IsUnit [a, b, c, d] (((h * 16 + i) * 16 + j) * 16 + k)

/-- The text between the quotes of a string, whatever its code units are worth. -/
inductive IsQuoted : List Char → Prop
  | nil : IsQuoted []
  | plain {c : Char} {cs : List Char} (quote : c ≠ '"') (backslash : c ≠ '\\')
      (control : ¬ c.toNat < 0x20) (others : IsQuoted cs) : IsQuoted (c :: cs)
  | letter {e c : Char} {cs : List Char} (escape : (e, c) ∈ letterEscapes) (others : IsQuoted cs) :
      IsQuoted ('\\' :: e :: cs)
  | unit {hex cs : List Char} {n : Nat} (digits : IsUnit hex n) (others : IsQuoted cs) :
      IsQuoted ('\\' :: 'u' :: (hex ++ cs))

/-- The text between the quotes of the string `s`. A code unit is a character of its own, or one of a
pair of surrogates. -/
inductive Quotes : List Char → List Char → Prop
  | nil : Quotes [] []
  | plain {c : Char} {cs s : List Char} (quote : c ≠ '"') (backslash : c ≠ '\\')
      (control : ¬ c.toNat < 0x20) (others : Quotes cs s) : Quotes (c :: cs) (c :: s)
  | letter {e c : Char} {cs s : List Char} (escape : (e, c) ∈ letterEscapes) (others : Quotes cs s) :
      Quotes ('\\' :: e :: cs) (c :: s)
  | unit {hex cs s : List Char} {n : Nat} (digits : IsUnit hex n)
      (whole : ¬ (0xD800 ≤ n ∧ n ≤ 0xDFFF)) (others : Quotes cs s) :
      Quotes ('\\' :: 'u' :: (hex ++ cs)) (Char.ofNat n :: s)
  | pair {hex hex' cs s : List Char} {n m : Nat} (digits : IsUnit hex n) (digits' : IsUnit hex' m)
      (high : 0xD800 ≤ n ∧ n ≤ 0xDBFF) (low : 0xDC00 ≤ m ∧ m ≤ 0xDFFF) (others : Quotes cs s) :
      Quotes ('\\' :: 'u' :: (hex ++ '\\' :: 'u' :: (hex' ++ cs)))
        (Char.ofNat (0x10000 + (n - 0xD800) * 0x400 + (m - 0xDC00)) :: s)

theorem plainEscape?_of_mem : ∀ p ∈ letterEscapes, plainEscape? p.1 = some p.2 := by
  decide

theorem hexUnit_of_isUnit {hex : List Char} {n : Nat} (h : IsUnit hex n) (rest : List Char) :
    hexUnit (hex ++ rest) = .ok (n, rest) := by
  cases h with
  | digits h₁ h₂ h₃ h₄ =>
    simp only [List.cons_append, List.nil_append, hexUnit, h₁, h₂, h₃, h₄]

theorem unicodeEscape_unit {hex : List Char} {n : Nat} (h : IsUnit hex n)
    (hwhole : ¬ (0xD800 ≤ n ∧ n ≤ 0xDFFF)) (rest : List Char) :
    unicodeEscape (hex ++ rest) = .ok (Char.ofNat n, rest) := by
  simp only [unicodeEscape, hexUnit_of_isUnit h, bind, Except.bind]
  rw [if_neg (by omega), if_neg (by omega)]

theorem unicodeEscape_pair {hex hex' : List Char} {n m : Nat} (h : IsUnit hex n) (h' : IsUnit hex' m)
    (hhigh : 0xD800 ≤ n ∧ n ≤ 0xDBFF) (hlow : 0xDC00 ≤ m ∧ m ≤ 0xDFFF) (rest : List Char) :
    unicodeEscape (hex ++ '\\' :: 'u' :: (hex' ++ rest)) =
      .ok (Char.ofNat (0x10000 + (n - 0xD800) * 0x400 + (m - 0xDC00)), rest) := by
  simp only [unicodeEscape, hexUnit_of_isUnit h, hexUnit_of_isUnit h', bind, Except.bind]
  rw [if_neg (by omega), if_pos hhigh, if_pos hlow]

/-- A text of one character more. -/
def prepend (c : Char) (r : Except Cause (List Char × List Char)) : Except Cause (List Char × List Char) :=
  r.map fun p => (c :: p.1, p.2)

theorem prepend_eq (c : Char) (r : Except Cause (List Char × List Char)) :
    (do let (s, last) ← r; .ok (c :: s, last)) = prepend c r := by
  cases r <;> rfl

theorem unquote_plainEscape {e c : Char} (h : plainEscape? e = some c) (cs : List Char) :
    unquote ('\\' :: e :: cs) = prepend c (unquote cs) := by
  have hu : e ≠ 'u' := by
    rintro rfl
    have hnone : plainEscape? 'u' = none := by decide
    cases hnone.symm.trans h
  rw [unquote.eq_5 e cs hu, h]
  exact prepend_eq c _

theorem unquote_self {c : Char} (hq : c ≠ '"') (hb : c ≠ '\\') (hc : ¬ c.toNat < 0x20)
    (cs : List Char) : unquote (c :: cs) = prepend c (unquote cs) := by
  rw [unquote.eq_6 c cs hq (fun _ h _ => hb h) (fun h _ => hb h) (fun _ _ h _ => hb h), if_neg hc]
  exact prepend_eq c _

theorem unquote_unicodeEscape {cs rest : List Char} {c : Char} (h : unicodeEscape cs = .ok (c, rest)) :
    unquote ('\\' :: 'u' :: cs) = prepend c (unquote rest) := by
  rw [unquote.eq_3]
  split
  · next e he => cases h.symm.trans he
  · next c' rest' he =>
    cases h.symm.trans he
    exact prepend_eq c _

theorem unquote_of_quotes {cs s : List Char} (h : Quotes cs s) (rest : List Char) :
    unquote (cs ++ '"' :: rest) = .ok (s, rest) := by
  induction h with
  | nil => exact unquote.eq_2 rest
  | plain quote backslash control _ ih =>
    rw [List.cons_append, unquote_self quote backslash control, ih]
    rfl
  | letter escape _ ih =>
    rw [List.cons_append, List.cons_append, unquote_plainEscape (plainEscape?_of_mem _ escape), ih]
    rfl
  | unit digits whole _ ih =>
    rw [List.cons_append, List.cons_append, List.append_assoc,
      unquote_unicodeEscape (unicodeEscape_unit digits whole _), ih]
    rfl
  | pair digits digits' high low _ ih =>
    simp only [List.cons_append, List.append_assoc]
    rw [unquote_unicodeEscape (unicodeEscape_pair digits digits' high low _), ih]
    rfl

theorem quotes_escapeChar (c : Char) {cs s : List Char} (h : Quotes cs s) :
    Quotes (escapeChar c ++ cs) (c :: s) := by
  unfold escapeChar
  split_ifs with hq hb h₁ h₂ h₃ h₄ h₅ hc
  iterate 7 · subst c; exact .letter (by decide) h
  · have hzero : Text.hexValue? '0' = some 0 := rfl
    have hunit : IsUnit ['0', '0', Nat.digitChar (c.toNat / 16), Nat.digitChar (c.toNat % 16)]
        (((0 * 16 + 0) * 16 + c.toNat / 16) * 16 + c.toNat % 16) :=
      .digits hzero hzero (hexValue?_digitChar _ (by omega)) (hexValue?_digitChar _ (by omega))
    rw [show ((0 * 16 + 0) * 16 + c.toNat / 16) * 16 + c.toNat % 16 = c.toNat by omega] at hunit
    have hquotes := Quotes.unit hunit (by omega) h
    rwa [Char.ofNat_toNat] at hquotes
  · exact .plain hq hb hc h

theorem quotes_escape (s : List Char) : Quotes (escape s) s := by
  induction s with
  | nil => exact .nil
  | cons c s ih =>
    rw [escape, List.flatMap_cons]
    exact quotes_escapeChar c ih

end Strings

section Values

def IsDigits (cs : List Char) : Prop :=
  cs ≠ [] ∧ ∀ c ∈ cs, c.isDigit = true

/-- The whole part of a number: no zero stands before other digits. -/
def IsWhole (cs : List Char) : Prop :=
  IsDigits cs ∧ (cs.head? = some '0' → cs = ['0'])

inductive IsFraction : List Char → Prop
  | none : IsFraction []
  | digits {cs : List Char} (h : IsDigits cs) : IsFraction ('.' :: cs)

inductive IsExponent : List Char → Prop
  | none : IsExponent []
  | digits {c : Char} {sign cs : List Char} (letter : c = 'e' ∨ c = 'E')
      (signed : sign = [] ∨ sign = ['+'] ∨ sign = ['-']) (h : IsDigits cs) :
      IsExponent (c :: (sign ++ cs))

inductive IsNumber : List Char → Prop
  | mk {sign whole fraction exponent : List Char} (signed : sign = [] ∨ sign = ['-'])
      (integral : IsWhole whole) (fractional : IsFraction fraction) (scaled : IsExponent exponent) :
      IsNumber (sign ++ (whole ++ (fraction ++ exponent)))

/-- What stands before an item or a member. -/
inductive IsSeparator : Bool → List Char → Prop
  | first {gap : List Char} (blank : IsBlank gap) : IsSeparator true gap
  | later {gap gap' : List Char} (before : IsBlank gap) (after : IsBlank gap') :
      IsSeparator false (gap ++ ',' :: gap')

/-- What stands between a key and its value. -/
inductive IsColon : List Char → Prop
  | mk {gap gap' : List Char} (before : IsBlank gap) (after : IsBlank gap') :
      IsColon (gap ++ ':' :: gap')

/-- A list after its opening bracket, from the first or from a later item on, with the texts of the
items. -/
inductive ItemsText : Bool → List (List Char) → List Char → Prop
  | nil {first : Bool} {gap : List Char} (blank : IsBlank gap) : ItemsText first [] (gap ++ [']'])
  | cons {first : Bool} {sep text cs : List Char} {texts : List (List Char)}
      (parted : IsSeparator first sep) (others : ItemsText false texts cs) :
      ItemsText first (text :: texts) (sep ++ (text ++ cs))

/-- An object after its opening bracket, from the first or from a later member on, with the texts between
the quotes of the keys and the texts of the values. -/
inductive MembersText : Bool → List (List Char × List Char) → List Char → Prop
  | nil {first : Bool} {gap : List Char} (blank : IsBlank gap) : MembersText first [] (gap ++ ['\x7d'])
  | cons {first : Bool} {sep key mid text cs : List Char} {ms : List (List Char × List Char)}
      (parted : IsSeparator first sep) (named : IsColon mid) (others : MembersText false ms cs) :
      MembersText first ((key, text) :: ms) (sep ++ ('"' :: (key ++ '"' :: (mid ++ (text ++ cs)))))

/-- A text that is JSON, without the blanks around it, however deep it is nested and whatever its numbers
and code units are worth. -/
inductive IsWellFormed : List Char → Prop
  | null : IsWellFormed ['n', 'u', 'l', 'l']
  | true : IsWellFormed ['t', 'r', 'u', 'e']
  | false : IsWellFormed ['f', 'a', 'l', 's', 'e']
  | number {cs : List Char} (h : IsNumber cs) : IsWellFormed cs
  | string {cs : List Char} (h : IsQuoted cs) : IsWellFormed ('"' :: (cs ++ ['"']))
  | list {texts : List (List Char)} {cs : List Char} (items : ItemsText true texts cs)
      (values : ∀ text ∈ texts, IsWellFormed text) : IsWellFormed ('[' :: cs)
  | object {ms : List (List Char × List Char)} {cs : List Char} (members : MembersText true ms cs)
      (keys : ∀ m ∈ ms, IsQuoted m.1) (values : ∀ m ∈ ms, IsWellFormed m.2) :
      IsWellFormed ('\x7b' :: cs)

end Values

/-- The reader takes the text off the front, where blanks may stand before it. -/
def Reads {α : Type} (r : Reader α) (text : List Char) (a : α) : Prop :=
  ∀ gap rest : List Char, IsBlank gap → Parted rest → r (gap ++ (text ++ rest)) = .ok (a, rest)

section Lists

variable {α : Type} {item : Reader α} {first : Bool} {gap sep text cs : List Char}
  {texts : List (List Char)}

/-- A text that is neither a blank nor the end of a list at its first character. -/
def Begins (text : List Char) : Prop :=
  ∃ c cs, text = c :: cs ∧ isGap c = false ∧ c ≠ ']'

theorem nextItem_close (first : Bool) (h : IsBlank gap) (rest : List Char) :
    nextItem first (gap ++ ']' :: rest) = .ok none := by
  simp only [nextItem, skipGap_gap_cons h (c := ']') rfl]

theorem nextItem_first {c : Char} {cs rest : List Char} (h : skipGap cs = c :: rest) (hc : c ≠ ']') :
    nextItem true cs = .ok (some (c :: rest)) := by
  unfold nextItem
  rw [h]
  split
  · next h => cases h
  · next h => exact absurd (List.cons.inj h).1 hc
  · next h => rw [h, if_pos rfl]

theorem nextItem_later {c : Char} {cs mid rest : List Char} (h : skipGap cs = ',' :: mid)
    (hmid : skipGap mid = c :: rest) (hc : c ≠ ']') : nextItem false cs = .ok (some (c :: rest)) := by
  unfold nextItem
  rw [h]
  simp only [Bool.false_eq_true, if_false]
  split
  · next h => cases h
  · next h => exact absurd (List.cons.inj h).1 (by decide)
  · next h =>
    cases h
    rw [if_pos rfl, hmid]
    split
    · next h => cases h
    · next h => exact absurd (List.cons.inj h).1 hc
    · rfl

theorem closeList_gap (h : IsBlank gap) (rest : List Char) :
    closeList (gap ++ ']' :: rest) = .ok rest := by
  simp only [closeList, skipGap_gap_cons h (c := ']') rfl]

theorem nextItem_separator (hsep : IsSeparator first sep) (htext : Begins text) (rest : List Char) :
    nextItem first (sep ++ (text ++ rest)) = .ok (some (text ++ rest)) := by
  obtain ⟨c, cs, rfl, hgap, hend⟩ := htext
  have hskip {gap : List Char} (h : IsBlank gap) : skipGap (gap ++ (c :: cs ++ rest)) = c :: (cs ++ rest) :=
    skipGap_gap_cons h hgap _
  cases hsep with
  | first blank => exact nextItem_first (hskip blank) hend
  | later before after =>
    rw [List.append_assoc]
    exact nextItem_later (skipGap_gap_cons before rfl _) (hskip after) hend

theorem ItemsText.parted (h : ItemsText false texts cs) (rest : List Char) : Parted (cs ++ rest) := by
  cases h with
  | nil blank =>
    rw [List.append_assoc]
    exact parted_gap blank (parted_cons (.inr (.inl rfl)) rest)
  | cons parted _ =>
    cases parted with
    | later before _ =>
      simp only [List.append_assoc, List.cons_append]
      exact parted_gap before (parted_cons (.inl rfl) _)

/-- There is a comma before every item but the first, and a bracket at the end. -/
theorem ItemsText.length_lt (h : ItemsText first texts cs) :
    texts.length < cs.length + (if first then 1 else 0) := by
  induction h with
  | nil => exact Nat.lt_of_lt_of_le (by simp) (Nat.le_add_right _ _)
  | cons parted _ ih =>
    simp only [Bool.false_eq_true, if_false, Nat.add_zero] at ih
    cases parted with
    | first =>
      simp only [List.length_cons, List.length_append, if_true]
      omega
    | later =>
      simp only [List.length_cons, List.length_append]
      omega

theorem readItems_of_text (h : ItemsText first texts cs) {as : List α}
    (hitems : List.Forall₂ (fun text a => Begins text ∧ Reads item text a) texts as) {size : Nat}
    (hs : texts.length < size) {index : Nat} (hindex : (index == 0) = first) (rest : List Char) :
    ∃ mid, readItems item size index (cs ++ rest) = .ok (as, mid) ∧ closeList mid = .ok rest := by
  induction h generalizing as size index with
  | @nil first gap blank =>
    obtain ⟨n, rfl⟩ := Nat.exists_eq_succ_of_ne_zero (Nat.ne_of_gt hs)
    cases hitems
    refine ⟨gap ++ ']' :: rest, ?_, closeList_gap blank rest⟩
    rw [List.append_assoc, List.singleton_append, readItems, nextItem_close _ blank]
    rfl
  | @cons first sep text cs texts parted others ih =>
    obtain ⟨n, rfl⟩ := Nat.exists_eq_succ_of_ne_zero (Nat.ne_of_gt (Nat.zero_lt_of_lt hs))
    cases hitems with
    | cons hitem hitems =>
      have hlater : (index + 1 == 0) = false := rfl
      obtain ⟨mid, hrest, hclose⟩ := ih hitems (Nat.lt_of_succ_lt_succ hs) hlater
      have hread := hitem.2 [] _ isBlank_nil (others.parted rest)
      refine ⟨mid, ?_, hclose⟩
      rw [List.nil_append] at hread
      simp only [List.append_assoc]
      rw [readItems, hindex, nextItem_separator parted hitem.1]
      simp only [here, located, hread, hrest, bind, Except.bind]

theorem itemsText_spell (st : Style) (level : Nat) (first : Bool) (vs : List Json) :
    ItemsText first (vs.map fun v => v.spell st (level + 1)) (spellItems st level first vs) := by
  induction vs generalizing first with
  | nil => exact .nil (isBlank_ite first (st.line_blank level))
  | cons v vs ih =>
    rw [spellItems, ← List.append_assoc]
    refine .cons ?_ (ih false)
    cases first with
    | true => exact .first (st.line_blank _)
    | false => exact .later isBlank_nil (st.line_blank _)

end Lists

section Objects

variable {α σ : Type} {first : Bool} {gap sep text cs : List Char}
  {ms : List (List Char × List Char)}

/-- The reader takes the value of a member off the front, where its colon stands before it. -/
def ReadsMember (r : Reader σ) (text : List Char) (s : σ) : Prop :=
  ∀ mid rest : List Char, IsColon mid → Parted rest → r (mid ++ (text ++ rest)) = .ok (s, rest)

theorem Reads.member {r : Reader α} {a : α} (h : Reads r text a) (key : String) :
    ReadsMember (readMember key r) text a := by
  rintro _ rest ⟨before, after⟩ hrest
  rw [List.append_assoc, List.cons_append]
  simp only [readMember, colon, skipGap_gap_cons before (c := ':') rfl, located, here, bind, Except.bind,
    h _ rest after hrest]

/-- Members taken into a value one after the other, each under the key that its quotes hold. -/
inductive Collects (member : String → σ → Reader σ) : σ → List (List Char × List Char) → σ → Prop
  | nil (s : σ) : Collects member s [] s
  | cons {s s' t : σ} {key text name : List Char} {ms : List (List Char × List Char)}
      (quotes : Quotes key name) (value : ReadsMember (member (String.ofList name) s) text s')
      (others : Collects member s' ms t) : Collects member s ((key, text) :: ms) t

theorem Collects.append {member : String → σ → Reader σ} {s s' t : σ} {ms' : List (List Char × List Char)}
    (h : Collects member s ms s') (h' : Collects member s' ms' t) : Collects member s (ms ++ ms') t := by
  induction h with
  | nil => exact h'
  | cons quotes value _ ih => exact .cons quotes value (ih h')

theorem nextKey_close (first : Bool) (h : IsBlank gap) (rest : List Char) :
    nextKey first (gap ++ '\x7d' :: rest) = .ok none := by
  simp only [nextKey, skipGap_gap_cons h (c := '\x7d') rfl]

theorem nextKey_first {cs rest : List Char} (h : skipGap cs = '"' :: rest) :
    nextKey true cs = .ok (some rest) := by
  unfold nextKey
  rw [h]
  rfl

theorem nextKey_later {cs mid rest : List Char} (h : skipGap cs = ',' :: mid)
    (hmid : skipGap mid = '"' :: rest) : nextKey false cs = .ok (some rest) := by
  unfold nextKey
  rw [h]
  split
  · next h => cases h
  · next h => exact absurd (List.cons.inj h).1 (by decide)
  · next h =>
    cases h
    rw [if_neg Bool.false_ne_true, if_pos rfl, hmid]
    rfl

theorem closeObject_gap (h : IsBlank gap) (rest : List Char) :
    closeObject (gap ++ '\x7d' :: rest) = .ok rest := by
  simp only [closeObject, skipGap_gap_cons h (c := '\x7d') rfl]

theorem nextKey_separator (hsep : IsSeparator first sep) (rest : List Char) :
    nextKey first (sep ++ '"' :: rest) = .ok (some rest) := by
  cases hsep with
  | first blank => exact nextKey_first (skipGap_gap_cons blank rfl _)
  | later before after =>
    rw [List.append_assoc]
    exact nextKey_later (skipGap_gap_cons before rfl _) (skipGap_gap_cons after rfl _)

theorem MembersText.parted (h : MembersText false ms cs) (rest : List Char) : Parted (cs ++ rest) := by
  cases h with
  | nil blank =>
    rw [List.append_assoc]
    exact parted_gap blank (parted_cons (.inr (.inr rfl)) rest)
  | cons parted _ _ =>
    cases parted with
    | later before _ =>
      simp only [List.append_assoc, List.cons_append]
      exact parted_gap before (parted_cons (.inl rfl) _)

theorem MembersText.length_lt (h : MembersText first ms cs) : ms.length < cs.length := by
  induction h with
  | nil => simp
  | cons => simp; omega

theorem readMembers_of_text {member : String → σ → Reader σ} (h : MembersText first ms cs) {s t : σ}
    (hms : Collects member s ms t) {size : Nat} (hs : ms.length < size) (rest : List Char) :
    ∃ mid, readMembers member size first s (cs ++ rest) = .ok (t, mid) ∧ closeObject mid = .ok rest := by
  -- The blanks before the end of the object are left to the reader of that end, hence the text `mid`.
  induction h generalizing s size with
  | @nil first gap blank =>
    obtain ⟨n, rfl⟩ := Nat.exists_eq_succ_of_ne_zero (Nat.ne_of_gt hs)
    cases hms
    refine ⟨gap ++ '\x7d' :: rest, ?_, closeObject_gap blank rest⟩
    rw [List.append_assoc, List.singleton_append, readMembers, nextKey_close _ blank]
  | @cons first sep key mid text cs ms parted named others ih =>
    obtain ⟨n, rfl⟩ := Nat.exists_eq_succ_of_ne_zero (Nat.ne_of_gt (Nat.zero_lt_of_lt hs))
    cases hms with
    | cons quotes value hms =>
      obtain ⟨last, hrest, hclose⟩ := ih hms (Nat.lt_of_succ_lt_succ hs)
      refine ⟨last, ?_, hclose⟩
      simp only [List.append_assoc, List.cons_append]
      rw [readMembers, nextKey_separator parted]
      simp only [unquote_of_quotes quotes, value _ _ named (others.parted rest), hrest, bind, Except.bind]

theorem membersText_spell (st : Style) (level : Nat) (first : Bool) (ms : List (String × Json)) :
    MembersText first (ms.map fun m => (escape m.1.toList, m.2.spell st (level + 1)))
      (spellMembers st level first ms) := by
  induction ms generalizing first with
  | nil => exact .nil (isBlank_ite first (st.line_blank level))
  | cons m ms ih =>
    obtain ⟨key, v⟩ := m
    have hmid : IsColon ([] ++ ':' :: st.space) := .mk isBlank_nil st.space_blank
    have hquote (rest : List Char) : quote key ++ rest = '"' :: (escape key.toList ++ '"' :: rest) := by
      simp only [quote, List.cons_append, List.append_assoc, List.nil_append]
    rw [spellMembers, ← List.append_assoc, hquote]
    refine .cons ?_ hmid (ih false)
    cases first with
    | true => exact .first (st.line_blank _)
    | false => exact .later isBlank_nil (st.line_blank _)

end Objects

/-- Around a whole text there may be blanks. -/
theorem readWhole_of_reads {α : Type} {r : Nat → Nat → Reader α} {gap text gap' : List Char} {a : α}
    (hgap : IsBlank gap) (hgap' : IsBlank gap')
    (h : Reads (r (gap ++ (text ++ gap')).length depthLimit) text a) :
    readWhole r (String.ofList (gap ++ (text ++ gap'))) = .ok a := by
  have hparted : Parted gap' := by
    have hnone : Parted [] := fun _ hc => absurd hc (Option.not_mem_none _)
    have hall := parted_gap hgap' hnone
    rwa [List.append_nil] at hall
  have hrest : skipGap gap' = [] := List.dropWhile_eq_nil_iff.mpr hgap'
  have hread := h gap gap' hgap hparted
  rw [readWhole, String.toList_ofList, hread]
  simp only [bind, Except.bind, hrest, List.isEmpty_nil, if_true]

theorem readWhole_text {α : Type} {r : Nat → Nat → Reader α} {text : List Char} {a : α}
    (h : Reads (r text.length depthLimit) text a) : readWhole r (String.ofList text) = .ok a := by
  have hwhole := @readWhole_of_reads _ r [] text [] a isBlank_nil isBlank_nil
  rw [List.nil_append, List.append_nil] at hwhole
  exact hwhole h

end ConsoleNav.Json
