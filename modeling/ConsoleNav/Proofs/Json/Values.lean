import ConsoleNav.Json.Wire
import ConsoleNav.Proofs.Json.Numbers

/-!
Values of any form, and their texts. The reader of values takes every text of a value off the front, and
what it gives is nested no deeper than it could go, with integers of no more than 64 bits.
-/
namespace ConsoleNav.Json

section Texts

/-- The text of a value nested at most so deep: with any blanks between its parts, any escapes in its
strings, and any numbers that stand for the numbers in it. -/
inductive Spells : Nat → Json → List Char → Prop
  | null {depth : Nat} : Spells depth .null ['n', 'u', 'l', 'l']
  | true {depth : Nat} : Spells depth (.bool true) ['t', 'r', 'u', 'e']
  | false {depth : Nat} : Spells depth (.bool false) ['f', 'a', 'l', 's', 'e']
  | number {depth : Nat} {n : Number} {cs : List Char} (h : readNumber cs = .ok (n, [])) :
      Spells depth (.number n) cs
  | string {depth : Nat} {s : String} {cs : List Char} (h : Quotes cs s.toList) :
      Spells depth (.string s) ('"' :: (cs ++ ['"']))
  | array {depth : Nat} {parts : List (Json × List Char)} {cs : List Char}
      (items : ItemsText true (parts.map Prod.snd) cs) (values : ∀ p ∈ parts, Spells depth p.1 p.2) :
      Spells (depth + 1) (.array (parts.map Prod.fst)) ('[' :: cs)
  | object {depth : Nat} {parts : List ((String × Json) × (List Char × List Char))} {cs : List Char}
      (members : MembersText true (parts.map Prod.snd) cs)
      (keys : ∀ p ∈ parts, Quotes p.2.1 p.1.1.toList) (values : ∀ p ∈ parts, Spells depth p.1.2 p.2.2) :
      Spells (depth + 1) (.object (parts.map Prod.fst)) ('\x7b' :: cs)

variable {depth : Nat} {v : Json} {text : List Char}

theorem Spells.begins (h : Spells depth v text) : Begins text := by
  cases h with
  | null | true | false | string | array | object => exact ⟨_, _, rfl, rfl, by decide⟩
  | number h =>
    obtain ⟨c, after, rfl, hc⟩ := opens_of_readNumber h
    exact begins_number hc after

/-- One member of the object of a value. -/
def valueMember (value : Reader Json) (key : String) (ms : List (String × Json)) :
    Reader (List (String × Json)) := fun cs => do
  let (v, cs) ← readMember key value cs
  .ok ((key, v) :: ms, cs)

variable {size : Nat} {inner : Option (Reader Json)} {value : Reader Json} {cs rest : List Char}

theorem readValue_eq (size depth : Nat) :
    readValue size depth = readAny size (Wire.inner (readValue size) depth) := by
  cases depth with
  | zero | succ => rfl

theorem readAny_number {c : Char} (hc : c = '-' ∨ c.isDigit = true) (h : skipGap cs = c :: rest) :
    readAny size inner cs = (do
      let (n, rest) ← here (readNumber (c :: rest))
      .ok (.number n, rest)) := by
  unfold readAny
  rw [h]
  split
  · next heq => cases heq
  iterate 6
    · next heq =>
      obtain ⟨rfl, -⟩ := List.cons.inj heq
      exact absurd hc (by decide)
  · next heq =>
    obtain ⟨rfl, rfl⟩ := List.cons.inj heq
    exact if_pos hc

theorem readAny_string (h : skipGap cs = '"' :: rest) :
    readAny size inner cs = (do
      let (s, rest) ← here (unquote rest)
      .ok (.string (String.ofList s), rest)) := by
  unfold readAny
  rw [h]
  rfl

theorem readAny_array (h : skipGap cs = '[' :: rest) :
    readAny size (some value) cs = (do
      let (items, rest) ← readItems value size 0 rest
      .ok (.array items, ← here (closeList rest))) := by
  unfold readAny
  rw [h]
  rfl

theorem readAny_object (h : skipGap cs = '\x7b' :: rest) :
    readAny size (some value) cs = (do
      let (members, rest) ← readMembers (valueMember value) size true [] rest
      .ok (.object members.reverse, ← here (closeObject rest))) := by
  unfold readAny
  rw [h]
  rfl

/-- The members read so far are in the reverse of their order. -/
theorem collects_parts {β σ : Type} {member : String → σ → Reader σ} {f : List (String × β) → σ}
    {parts : List ((String × β) × (List Char × List Char))}
    (keys : ∀ p ∈ parts, Quotes p.2.1 p.1.1.toList)
    (h : ∀ p ∈ parts, ∀ ms, ReadsMember (member p.1.1 (f ms)) p.2.2 (f (p.1 :: ms)))
    (ms : List (String × β)) :
    Collects member (f ms) (parts.map Prod.snd) (f ((parts.map Prod.fst).reverse ++ ms)) := by
  induction parts generalizing ms with
  | nil => exact .nil (f ms)
  | cons p parts ih =>
    obtain ⟨⟨key, b⟩, quoted, text⟩ := p
    rw [List.forall_mem_cons] at keys h
    have hmember : ReadsMember (member (String.ofList key.toList) (f ms)) text (f ((key, b) :: ms)) := by
      rw [String.ofList_toList]
      exact h.1 ms
    rw [List.map_cons, List.map_cons, List.reverse_cons, List.append_assoc, List.singleton_append]
    exact .cons keys.1 hmember (ih keys.2 h.2 _)

theorem Reads.valueMember (h : Reads value text v) (key : String) (ms : List (String × Json)) :
    ReadsMember (valueMember value key ms) text ((key, v) :: ms) := by
  intro mid rest hmid hrest
  simp only [Json.valueMember, h.member key mid rest hmid hrest, bind, Except.bind]

/-- What is within the text of a list or an object is no longer than the whole. -/
theorem ItemsText.length_le_of_mem {first : Bool} {texts : List (List Char)}
    (h : ItemsText first texts cs) : ∀ text ∈ texts, text.length ≤ cs.length := by
  induction h with
  | nil => exact fun _ hm => absurd hm List.not_mem_nil
  | cons _ _ ih =>
    rw [List.forall_mem_cons]
    simp only [List.length_append]
    exact ⟨by omega, fun text hm => Nat.le_trans (ih text hm) (by omega)⟩

theorem MembersText.length_le_of_mem {first : Bool} {ms : List (List Char × List Char)}
    (h : MembersText first ms cs) : ∀ m ∈ ms, m.2.length ≤ cs.length := by
  induction h with
  | nil => exact fun _ hm => absurd hm List.not_mem_nil
  | cons _ _ _ ih =>
    rw [List.forall_mem_cons]
    simp only [List.length_append, List.length_cons]
    exact ⟨by omega, fun m hm => Nat.le_trans (ih m hm) (by omega)⟩

theorem reads_value (h : Spells depth v text) (hs : text.length ≤ size) :
    Reads (readValue size depth) text v := by
  -- The size stays the same for the parts, which are no longer than the whole; the depth goes down.
  induction h with
  | null | true | false =>
    intro gap rest hgap _
    rw [readValue_eq, List.cons_append]
    simp only [readAny, skipGap_gap_cons hgap (c := 'n') rfl, skipGap_gap_cons hgap (c := 't') rfl,
      skipGap_gap_cons hgap (c := 'f') rfl]
    rfl
  | number h =>
    intro gap rest hgap hrest
    obtain ⟨c, after, rfl, hc⟩ := opens_of_readNumber h
    obtain ⟨_, _, heq, hblank, -⟩ := begins_number hc after
    cases heq
    have hread := readNumber_append h hrest.endsNumber
    rw [List.cons_append] at hread ⊢
    rw [readValue_eq, readAny_number hc (skipGap_gap_cons hgap hblank _), hread]
    rfl
  | @string depth s cs h =>
    intro gap rest hgap _
    have hquote (cs : List Char) : skipGap (gap ++ '"' :: cs) = '"' :: cs := skipGap_gap_cons hgap rfl cs
    rw [readValue_eq, List.cons_append, readAny_string (hquote _), List.append_assoc, List.singleton_append,
      unquote_of_quotes h]
    simp only [here, bind, Except.bind, String.ofList_toList]
  | @array depth parts cs items values ih =>
    intro gap rest hgap _
    rw [List.length_cons] at hs
    have hbracket (cs : List Char) : skipGap (gap ++ '[' :: cs) = '[' :: cs := skipGap_gap_cons hgap rfl cs
    have hparts : List.Forall₂ (fun text v => Begins text ∧ Reads (readValue size depth) text v)
        (parts.map Prod.snd) (parts.map Prod.fst) := by
      rw [List.forall₂_map_left_iff, List.forall₂_map_right_iff, List.forall₂_same]
      intro p hp
      have hlength := items.length_le_of_mem p.2 (List.mem_map_of_mem hp)
      exact ⟨(values p hp).begins, ih p hp (by omega)⟩
    have hfew : (parts.map Prod.snd).length < size := Nat.lt_of_lt_of_le items.length_lt hs
    have hfirst : (0 == 0) = true := rfl
    obtain ⟨mid, hread, hclose⟩ := readItems_of_text items hparts hfew hfirst rest
    rw [readValue_eq, List.cons_append, Wire.inner, readAny_array (hbracket _), hread]
    simp only [hclose, here, bind, Except.bind]
  | @object depth parts cs members keys values ih =>
    intro gap rest hgap _
    rw [List.length_cons] at hs
    have hbrace (cs : List Char) : skipGap (gap ++ '\x7b' :: cs) = '\x7b' :: cs := skipGap_gap_cons hgap rfl cs
    have hvalues : ∀ p ∈ parts, Reads (readValue size depth) p.2.2 p.1.2 := by
      intro p hp
      have hlength := members.length_le_of_mem p.2 (List.mem_map_of_mem hp)
      exact ih p hp (by omega)
    have hcollects : Collects (valueMember (readValue size depth)) [] (parts.map Prod.snd)
        ((parts.map Prod.fst).reverse ++ []) :=
      collects_parts (f := id) keys (fun p hp => (hvalues p hp).valueMember p.1.1) []
    have hfew := members.length_lt.trans hs
    obtain ⟨mid, hread, hclose⟩ := readMembers_of_text members hcollects hfew rest
    rw [readValue_eq, List.cons_append, Wire.inner, readAny_object (hbrace _), hread]
    simp only [hclose, here, bind, Except.bind, List.append_nil, List.reverse_reverse]

end Texts

section Numbers

mutual
/-- The numbers within a value. -/
def numbers : Json → List Number
  | .number n => [n]
  | .array items => numbersOfItems items
  | .object members => numbersOfMembers members
  | _ => []

def numbersOfItems : List Json → List Number
  | [] => []
  | v :: vs => v.numbers ++ numbersOfItems vs

def numbersOfMembers : List (String × Json) → List Number
  | [] => []
  | (_, v) :: ms => v.numbers ++ numbersOfMembers ms
end

theorem numbersOfItems_eq (vs : List Json) : numbersOfItems vs = vs.flatMap numbers := by
  induction vs with
  | nil => rfl
  | cons v vs ih => rw [numbersOfItems, ih, List.flatMap_cons]

theorem numbersOfMembers_eq (ms : List (String × Json)) :
    numbersOfMembers ms = ms.flatMap fun m => m.2.numbers := by
  induction ms with
  | nil => rfl
  | cons m ms ih => rw [numbersOfMembers, ih, List.flatMap_cons]

theorem forall_numbers_array {P : Number → Prop} {vs : List Json} :
    (∀ n ∈ (Json.array vs).numbers, P n) ↔ ∀ v ∈ vs, ∀ n ∈ v.numbers, P n := by
  rw [numbers, numbersOfItems_eq, List.forall_mem_flatMap]

theorem forall_numbers_object {P : Number → Prop} {ms : List (String × Json)} :
    (∀ n ∈ (Json.object ms).numbers, P n) ↔ ∀ m ∈ ms, ∀ n ∈ m.2.numbers, P n := by
  rw [numbers, numbersOfMembers_eq, List.forall_mem_flatMap]

variable {st : Style} {v : Json} {depth : Nat}

theorem spells_scalar (h : v.nesting = 0) (hv : ∀ n ∈ v.numbers, ∃ i, n = .int i ∧ IsWord i)
    (level : Nat) : Spells depth v (v.spell st level) := by
  cases v with
  | null => exact .null
  | bool b =>
    cases b with
    | true => exact .true
    | false => exact .false
  | number n =>
    obtain ⟨i, rfl, hi⟩ := hv n (List.mem_singleton.mpr rfl)
    exact .number (readNumber_toString hi)
  | string s => exact .string (quotes_escape s.toList)
  | array | object => cases h

/-- Values whose numbers are integers are spelled by their texts in every style. -/
theorem spells_spell (h : v.nesting ≤ depth) (hv : ∀ n ∈ v.numbers, ∃ i, n = .int i ∧ IsWord i)
    (level : Nat) : Spells depth v (v.spell st level) := by
  induction depth generalizing v level with
  | zero => exact spells_scalar (Nat.le_zero.mp h) hv level
  | succ depth ih =>
    cases v with
    | null | bool | number | string => exact spells_scalar rfl hv level
    | array vs =>
      rw [nesting, Nat.add_le_add_iff_right, nestingItems_le] at h
      rw [forall_numbers_array] at hv
      have hspells := @Spells.array depth (vs.map fun v => (v, v.spell st (level + 1)))
        (spellItems st level true vs)
      simp only [List.map_map, Function.comp_def, List.map_id', List.forall_mem_map] at hspells
      exact hspells (itemsText_spell st level true vs) fun v hmem => ih (h v hmem) (hv v hmem) _
    | object ms =>
      rw [nesting, Nat.add_le_add_iff_right, nestingMembers_le] at h
      rw [forall_numbers_object] at hv
      have hspells := @Spells.object depth
        (ms.map fun m => (m, (escape m.1.toList, m.2.spell st (level + 1)))) (spellMembers st level true ms)
      simp only [List.map_map, Function.comp_def, List.map_id', List.forall_mem_map] at hspells
      exact hspells (membersText_spell st level true ms) (fun m _ => quotes_escape m.1.toList)
        fun m hmem => ih (h m hmem) (hv m hmem) _

end Numbers

section Given

variable {size depth : Nat} {inner : Option (Reader Json)} {value : Reader Json}

/-- Nested at most `depth` deep, with integers of no more than 64 bits. -/
structure IsBounded (depth : Nat) (v : Json) : Prop where
  nesting_le : v.nesting ≤ depth
  isWord : ∀ n ∈ v.numbers, ∀ i, n = .int i → IsWord i

theorem IsBounded.isInt {v : Json} (h : IsBounded depth v) (hint : ∀ n ∈ v.numbers, ∃ i, n = .int i) :
    ∀ n ∈ v.numbers, ∃ i, n = .int i ∧ IsWord i := by
  intro n hn
  obtain ⟨i, hi⟩ := hint n hn
  exact ⟨i, hi, h.isWord n hn i hi⟩

theorem isBounded_array {vs : List Json} (h : ∀ v ∈ vs, IsBounded depth v) :
    IsBounded (depth + 1) (.array vs) where
  nesting_le := Nat.add_le_add_right (nestingItems_le.mpr fun v hv => (h v hv).nesting_le) 1
  isWord := forall_numbers_array.mpr fun v hv => (h v hv).isWord

theorem isBounded_object {ms : List (String × Json)} (h : ∀ m ∈ ms, IsBounded depth m.2) :
    IsBounded (depth + 1) (.object ms) where
  nesting_le := Nat.add_le_add_right (nestingMembers_le.mpr fun m hm => (h m hm).nesting_le) 1
  isWord := forall_numbers_object.mpr fun m hm => (h m hm).isWord

theorem IsBounded.subset {ms ms' : List (String × Json)} (h : IsBounded depth (.object ms'))
    (hsubset : ms ⊆ ms') : IsBounded depth (.object ms) where
  nesting_le := by
    have hmembers := nestingMembers_le.mp (Nat.le_refl (nestingMembers ms'))
    have hle : nestingMembers ms ≤ nestingMembers ms' :=
      nestingMembers_le.mpr fun m hm => hmembers m (hsubset hm)
    exact Nat.le_trans (Nat.add_le_add_right hle 1) h.nesting_le
  isWord := forall_numbers_object.mpr fun m hm => forall_numbers_object.mp h.isWord m (hsubset hm)

theorem Yields.valueMember {P : Json → Prop} (h : Yields value P) (key : String)
    {ms : List (String × Json)} (hms : ∀ m ∈ ms, P m.2) :
    Yields (valueMember value key ms) fun ms => ∀ m ∈ ms, P m.2 := by
  intro cs ms' rest hr
  obtain ⟨⟨v, mid⟩, hv, heq⟩ := ok_of_bind hr
  cases heq
  rw [List.forall_mem_cons]
  exact ⟨h.member key _ _ _ hv, hms⟩

/-- What a value is that has been read from a text. -/
inductive ReadsAny (size : Nat) (inner : Option (Reader Json)) (cs : List Char) : Json → Prop
  | null : ReadsAny size inner cs .null
  | bool (b : Bool) : ReadsAny size inner cs (.bool b)
  | string (s : String) : ReadsAny size inner cs (.string s)
  | number {text rest : List Char} {n : Number} (read : readNumber text = .ok (n, rest)) :
      ReadsAny size inner cs (.number n)
  | array {text rest : List Char} {value : Reader Json} {vs : List Json} (deeper : inner = some value)
      (read : readItems value size 0 text = .ok (vs, rest)) : ReadsAny size inner cs (.array vs)
  | object {text rest : List Char} {value : Reader Json} {ms : List (String × Json)}
      (opening : skipGap cs = '\x7b' :: text) (deeper : inner = some value)
      (read : readMembers (valueMember value) size true [] text = .ok (ms, rest)) :
      ReadsAny size inner cs (.object ms.reverse)

theorem readsAny {cs rest : List Char} {v : Json} (hr : readAny size inner cs = .ok (v, rest)) :
    ReadsAny size inner cs v := by
  unfold readAny at hr
  split at hr
  · cases hr
  iterate 4
    · obtain ⟨_, -, heq⟩ := ok_of_bind hr
      cases heq
      constructor
  · split at hr
    · cases hr
    · obtain ⟨⟨vs, mid⟩, hvs, hr⟩ := ok_of_bind hr
      obtain ⟨_, -, heq⟩ := ok_of_bind hr
      cases heq
      exact .array rfl hvs
  · next opening =>
    split at hr
    · cases hr
    · obtain ⟨⟨ms, mid⟩, hms, hr⟩ := ok_of_bind hr
      obtain ⟨_, -, heq⟩ := ok_of_bind hr
      cases heq
      exact .object opening rfl hms
  · split at hr
    · obtain ⟨⟨n, mid⟩, hn, heq⟩ := ok_of_bind hr
      cases heq
      exact .number (ok_of_here hn)
    · cases hr

theorem ReadsAny.isBounded (h : ∀ value ∈ inner, ∃ d, depth = d + 1 ∧ Yields value (IsBounded d))
    {cs : List Char} {v : Json} (hv : ReadsAny size inner cs v) : IsBounded depth v := by
  have hscalar {v : Json} (hn : v.nesting = 0) (hv : v.numbers = []) : IsBounded depth v :=
    ⟨Nat.le_trans (Nat.le_of_eq hn) (Nat.zero_le _), fun n hmem => absurd (hv ▸ hmem) List.not_mem_nil⟩
  cases hv with
  | null | bool | string => exact hscalar rfl rfl
  | number read =>
    refine ⟨Nat.zero_le _, fun m hm i hi => ?_⟩
    rw [List.mem_singleton.mp hm] at hi
    subst hi
    exact isWord_of_readNumber read
  | array deeper read =>
    obtain ⟨d, rfl, hvalue⟩ := h _ deeper
    exact isBounded_array (hvalue.items _ _ _ _ _ read)
  | object opening deeper read =>
    obtain ⟨d, rfl, hvalue⟩ := h _ deeper
    have hmembers := yields_members (fun key _ hms => hvalue.valueMember key hms) _ _
      (fun _ hm => absurd hm List.not_mem_nil) _ _ _ read
    exact isBounded_object fun m hm => hmembers m (List.mem_reverse.mp hm)

theorem yields_value (size depth : Nat) : Yields (readValue size depth) (IsBounded depth) := by
  induction depth with
  | zero => exact fun _ _ _ hr => (readsAny hr).isBounded fun _ h => absurd h (Option.not_mem_none _)
  | succ depth ih =>
    refine fun _ _ _ hr => (readsAny hr).isBounded fun value hvalue => ?_
    cases hvalue
    exact ⟨depth, rfl, ih⟩

end Given

end ConsoleNav.Json
