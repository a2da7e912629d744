import ConsoleNav.Proofs.Json.Giving
import ConsoleNav.Proofs.Json.Skipping
import ConsoleNav.Proofs.Json.Values

/-!
Texts of records: objects whose members give the fields in any order, with any members among them that
the record does not know.
-/
namespace ConsoleNav.Json

section Scalars

/-- A text of the string `s`, with any escapes. -/
inductive IsString (s : String) : List Char → Prop
  | mk {cs : List Char} (h : Quotes cs s.toList) : IsString s ('"' :: (cs ++ ['"']))

theorem isString_quote (s : String) : IsString s (quote s) :=
  .mk (quotes_escape s.toList)

variable {α : Type} {s : String} {text : List Char}

theorem IsString.spells (h : IsString s text) (depth : Nat) : Spells depth (.string s) text := by
  cases h with
  | mk h => exact .string h

theorem IsString.reads (h : IsString s text) (expected : String) : Reads (readStringAs expected) text s := by
  cases h with
  | @mk cs h =>
    intro gap rest hgap _
    have hquote (cs : List Char) : skipGap (gap ++ '"' :: cs) = '"' :: cs := skipGap_gap_cons hgap rfl cs
    rw [List.cons_append, List.append_assoc, List.singleton_append]
    simp only [readStringAs, hquote, unquote_of_quotes h, here, bind, Except.bind, String.ofList_toList]

theorem IsString.reads_variant (h : IsString s text) {variants : List (String × α)} {a : α}
    (hfind : variants.find? (fun v => v.1 == s) = some (s, a)) (depth : Nat) :
    Reads (readVariant depth variants) text a := by
  cases h with
  | @mk cs h =>
    intro gap rest hgap _
    have hquote (cs : List Char) : skipGap (gap ++ '"' :: cs) = '"' :: cs := skipGap_gap_cons hgap rfl cs
    rw [List.cons_append, List.append_assoc, List.singleton_append]
    simp only [readVariant, hquote, unquote_of_quotes h, here, bind, Except.bind, String.ofList_toList, hfind]

theorem IsString.reads_tag (h : IsString s text) {variants : List (String × α)} {a : α}
    (hfind : variants.find? (fun v => v.1 == s) = some (s, a)) : Reads (readTag variants) text a := by
  intro gap rest hgap hrest
  simp only [readTag, h.reads _ gap rest hgap hrest, hfind, bind, Except.bind]

theorem spell_bool (st : Style) (level : Nat) (b : Bool) :
    (Json.bool b).spell st level = (if b then "true" else "false").toList := by
  cases b with
  | true | false => rfl

theorem reads_bool (b : Bool) : Reads readBool (if b then "true" else "false").toList b := by
  intro gap rest hgap _
  cases b with
  | true =>
    have htext : skipGap (gap ++ ("true".toList ++ rest)) = "true".toList ++ rest :=
      skipGap_gap_cons hgap rfl _
    rw [if_pos rfl, readBool, htext]
    rfl
  | false =>
    have htext : skipGap (gap ++ ("false".toList ++ rest)) = "false".toList ++ rest :=
      skipGap_gap_cons hgap rfl _
    rw [if_neg Bool.false_ne_true, readBool, htext]
    rfl

theorem toList_toString_nat (n : Nat) : (toString n).toList = (toString (n : Int)).toList := by
  rw [toList_toString, if_pos (Int.natCast_nonneg n), Int.toNat_natCast]
  exact Nat.toList_repr

theorem spell_nat (st : Style) (level n : Nat) :
    (Json.number (.int n)).spell st level = (toString n).toList :=
  (toList_toString_nat n).symm

theorem reads_nat {n limit : Nat} (hn : n < limit) (hlimit : limit ≤ UInt64.size) (name : String) :
    Reads (readNat name limit) (toString n).toList n := by
  have hsize : UInt64.size = 18446744073709551616 := rfl
  have hread : readNumber (toString n).toList = .ok (.int n, []) := by
    rw [toList_toString_nat]
    exact readNumber_toString ⟨by omega, by omega⟩
  intro gap rest hgap hrest
  have hwhole := readNumber_append hread hrest.endsNumber
  obtain ⟨c, after, htext, hc⟩ := opens_of_readNumber hread
  obtain ⟨_, _, heq, hblank, -⟩ := begins_number hc after
  cases heq
  have hrange : (0 : Int) ≤ n ∧ (n : Int) < limit := by omega
  rw [htext, List.cons_append] at hwhole
  rw [htext, List.cons_append, readNat, skipGap_gap_cons hgap hblank]
  simp only [if_pos hc, hwhole, if_pos hrange, here, bind, Except.bind, Int.toNat_natCast]

end Scalars

section Objects

/-- An object whose members are each as `Member` says, in any order. No name of `single` stands twice, and
every name that is `Needed` is there. -/
inductive IsObject (Member : String → List Char → Prop) (single : List String) (Needed : String → Prop) :
    List Char → Prop
  | mk {parts : List (String × (List Char × List Char))} {cs : List Char}
      (members : MembersText true (parts.map Prod.snd) cs)
      (keys : ∀ p ∈ parts, Quotes p.2.1 p.1.toList) (values : ∀ p ∈ parts, Member p.1 p.2.2)
      (once : parts.Pairwise fun p q => p.1 = q.1 → p.1 ∉ single)
      (all : ∀ name, Needed name → name ∈ parts.map Prod.fst) :
      IsObject Member single Needed ('\x7b' :: cs)

variable {Member : String → List Char → Prop} {single : List String} {Needed : String → Prop}

theorem isObject_spell {ms : List (String × Json)} {st : Style} {level : Nat}
    (values : ∀ m ∈ ms, Member m.1 (m.2.spell st (level + 1))) (once : (ms.map Prod.fst).Nodup)
    (all : ∀ name, Needed name → name ∈ ms.map Prod.fst) :
    IsObject Member single Needed ((object ms).spell st level) := by
  have hobject := @IsObject.mk Member single Needed
    (ms.map fun m => (m.1, (escape m.1.toList, m.2.spell st (level + 1)))) (spellMembers st level true ms)
  simp only [List.map_map, Function.comp_def, List.forall_mem_map, List.pairwise_map] at hobject
  refine hobject (membersText_spell st level true ms) (fun m _ => quotes_escape m.1.toList) values ?_ all
  exact (List.pairwise_map.mp once).imp fun hne heq => absurd heq hne

end Objects

section Records

variable {α β : Type} {shape : Shape α} {a b : α} {key : String} {text : List Char}

theorem Field.reads_of {name : String} {need : Need} {r : Reader β} {x : β} (h : Reads r text x)
    (store : β → α → α) (a : α) : Reads ((Field.of name need r store).read a) text (store x a) := by
  intro gap rest hgap hrest
  simp only [Field.of, h gap rest hgap hrest, bind, Except.bind]

/-- Members that give fields, or nothing, from a record to the one with these fields set. -/
inductive Shape.Gathers (shape : Shape α) (size : Nat) : α → List (String × List Char) → α → Prop
  | nil (a : α) : Gathers shape size a [] a
  | known {a b c : α} {key : String} {text : List Char} {f : Field α} {ms : List (String × List Char)}
      (field : shape.field? key = some f) (value : Reads (f.read a) text b)
      (others : Gathers shape size b ms c) : Gathers shape size a ((key, text) :: ms) c
  | unknown {a c : α} {key : String} {text : List Char} {ms : List (String × List Char)}
      (field : shape.field? key = none) (value : IsWellFormed text) (short : text.length ≤ size)
      (others : Gathers shape size a ms c) : Gathers shape size a ((key, text) :: ms) c

theorem Shape.field?_eq_none_iff : shape.field? key = none ↔ key ∉ shape.fields.map Field.name := by
  simp [Shape.field?]

theorem Shape.exists_field {need : Need} {r : Reader β} {store : β → α → α} {x : β}
    (hfield : shape.field? key = some (.of key need r store)) (h : Reads r text x) (hstore : store x a = b) :
    ∃ f, shape.field? key = some f ∧ Reads (f.read a) text b := by
  subst hstore
  exact ⟨_, hfield, Field.reads_of h store a⟩

variable {size : Nat} {given : List String}

theorem Shape.readsMember_known {f : Field α} (hfield : shape.field? key = some f) (hnew : key ∉ given)
    (h : Reads (f.read a) text b) : ReadsMember (shape.readMember size key (given, a)) text (key :: given, b) := by
  intro mid rest hmid hrest
  have hfind : (shape.fields.find? fun f => f.name == key) = some f := hfield
  have hgiven : given.contains key = false := by simpa using hnew
  simp only [Shape.readMember, hfind, hgiven, h.member key mid rest hmid hrest, bind, Except.bind,
    Bool.false_eq_true, if_false]

theorem Shape.readsMember_unknown (hfield : shape.field? key = none) (h : IsWellFormed text)
    (hs : text.length ≤ size) (s : List String × α) :
    ReadsMember (shape.readMember size key s) text s := by
  have hfind : (shape.fields.find? fun f => f.name == key) = none := hfield
  have hskip : Reads (fun cs => do .ok (s, ← here (skipValue size cs))) text s := by
    intro gap rest hgap hrest
    simp only [skipValue_of_wellFormed h hs hgap hrest, here, bind, Except.bind]
  intro mid rest hmid hrest
  simp only [Shape.readMember, hfind]
  exact hskip.member key mid rest hmid hrest

theorem Shape.missing?_eq_none {given : List String}
    (h : ∀ f ∈ shape.fields, f.need = .always → f.name ∈ given) : shape.missing? given = none := by
  rw [Shape.missing?, Option.map_eq_none_iff, List.find?_eq_none]
  intro f hf hmiss
  simp only [Bool.and_eq_true, beq_iff_eq, Bool.not_eq_true', List.contains_eq_mem,
    decide_eq_false_iff_not] at hmiss
  exact hmiss.2 (h f hf hmiss.1)

/-- What is given in the end are the fields given before and those among the members. -/
theorem Shape.Gathers.collects {parts : List (String × (List Char × List Char))}
    (h : shape.Gathers size a (parts.map fun p => (p.1, p.2.2)) b)
    (keys : ∀ p ∈ parts, Quotes p.2.1 p.1.toList)
    (once : parts.Pairwise fun p q => p.1 = q.1 → p.1 ∉ shape.fields.map Field.name)
    (hnew : ∀ p ∈ parts, p.1 ∈ given → p.1 ∉ shape.fields.map Field.name) :
    ∃ given', Collects (shape.readMember size) (given, a) (parts.map Prod.snd) (given', b) ∧
      ∀ name ∈ shape.fields.map Field.name, name ∈ given ++ parts.map Prod.fst → name ∈ given' := by
  -- For any record and any fields given so far: each member changes both for the members after it.
  induction parts generalizing a given with
  | nil =>
    cases h
    exact ⟨given, .nil _, fun name _ hmem => by simpa using hmem⟩
  | cons p parts ih =>
    obtain ⟨key, quoted, text⟩ := p
    rw [List.forall_mem_cons] at keys hnew
    rw [List.pairwise_cons] at once
    have hstep {s : List String × α}
        (h : ReadsMember (shape.readMember size key (given, a)) text s) :
        ReadsMember (shape.readMember size (String.ofList key.toList) (given, a)) text s := by
      rwa [String.ofList_toList]
    cases h with
    | known field value others =>
      have hfield : key ∈ shape.fields.map Field.name := by
        by_contra hnone
        cases (Shape.field?_eq_none_iff.mpr hnone).symm.trans field
      have hfresh : ∀ p ∈ parts, p.1 ∈ key :: given → p.1 ∉ shape.fields.map Field.name := by
        intro p hp hmem
        rcases List.mem_cons.mp hmem with heq | hmem
        · exact absurd hfield (once.1 p hp heq.symm)
        · exact hnew.2 p hp hmem
      obtain ⟨given', hcollects, hgiven⟩ := ih others keys.2 once.2 hfresh
      have hlater : key ∉ given := fun hmem => hnew.1 hmem hfield
      refine ⟨given', .cons keys.1 (hstep (Shape.readsMember_known field hlater value)) hcollects,
        fun name hname hmem => hgiven name hname ?_⟩
      simp only [List.map_cons, List.mem_append, List.mem_cons] at hmem ⊢
      tauto
    | unknown field value short others =>
      obtain ⟨given', hcollects, hgiven⟩ := ih others keys.2 once.2 hnew.2
      have hmember := Shape.readsMember_unknown field value short (given, a)
      refine ⟨given', .cons keys.1 (hstep hmember) hcollects, fun name hname hmem => hgiven name hname ?_⟩
      have hne : name ≠ key := by
        rintro rfl
        exact Shape.field?_eq_none_iff.mp field hname
      simp only [List.map_cons, List.mem_append, List.mem_cons] at hmem ⊢
      tauto

theorem Shape.Gathers.reads_record {parts : List (String × (List Char × List Char))} {cs : List Char}
    (h : shape.Gathers size shape.blank (parts.map fun p => (p.1, p.2.2)) a)
    (members : MembersText true (parts.map Prod.snd) cs) (keys : ∀ p ∈ parts, Quotes p.2.1 p.1.toList)
    (once : parts.Pairwise fun p q => p.1 = q.1 → p.1 ∉ shape.fields.map Field.name)
    (hneed : ∀ f ∈ shape.fields, f.need = .always → f.name ∈ parts.map Prod.fst)
    (hfew : parts.length < size) (name : String) :
    Reads (readRecord size name (some shape)) ('\x7b' :: cs) a := by
  obtain ⟨given, hcollects, hgiven⟩ :=
    h.collects keys once (fun _ _ hmem => absurd hmem List.not_mem_nil)
  have hmissing : shape.missing? given = none := Shape.missing?_eq_none fun f hf hf' =>
    hgiven f.name (List.mem_map_of_mem hf) (hneed f hf hf')
  intro gap rest hgap _
  have hbrace (cs : List Char) : skipGap (gap ++ '\x7b' :: cs) = '\x7b' :: cs := skipGap_gap_cons hgap rfl cs
  obtain ⟨mid, hread, hclose⟩ := readMembers_of_text members hcollects (by rwa [List.length_map]) rest
  rw [List.cons_append]
  simp only [readRecord, hbrace, hread, hmissing, hclose, here, bind, Except.bind]

end Records

section Tags

variable {τ : Type} {mark : String} {r : Reader τ} {value : Reader Json} {t : τ} {text : List Char}

theorem readsMember_mark (h : Reads r text t) (ms : List (String × Json)) :
    ReadsMember (readMarkedMember mark r value mark (none, ms)) text (some t, ms) := by
  intro mid rest hmid hrest
  simp only [readMarkedMember, if_true, h.member mark mid rest hmid hrest, bind, Except.bind]

theorem readsMember_unmarked {key : String} {v : Json} (hkey : key ≠ mark) (h : Reads value text v)
    (t? : Option τ) (ms : List (String × Json)) :
    ReadsMember (readMarkedMember mark r value key (t?, ms)) text (t?, (key, v) :: ms) := by
  intro mid rest hmid hrest
  simp only [readMarkedMember, if_neg hkey, h.member key mid rest hmid hrest, bind, Except.bind]

/-- The known member is read wherever it stands, and the other members keep their order. -/
theorem collects_marked {before after : List ((String × Json) × (List Char × List Char))}
    {quoted : List Char} (hquoted : Quotes quoted mark.toList) (hread : Reads r text t)
    (keys : ∀ p ∈ before ++ after, Quotes p.2.1 p.1.1.toList)
    (values : ∀ p ∈ before ++ after, p.1.1 ≠ mark ∧ Reads value p.2.2 p.1.2) :
    Collects (readMarkedMember mark r value) (none, [])
      (before.map Prod.snd ++ (quoted, text) :: after.map Prod.snd)
      (some t, ((before ++ after).map Prod.fst).reverse) := by
  rw [List.forall_mem_append] at keys values
  have hothers {parts : List ((String × Json) × (List Char × List Char))}
      (keys : ∀ p ∈ parts, Quotes p.2.1 p.1.1.toList)
      (values : ∀ p ∈ parts, p.1.1 ≠ mark ∧ Reads value p.2.2 p.1.2) (t? : Option τ)
      (ms : List (String × Json)) :
      Collects (readMarkedMember mark r value) (t?, ms) (parts.map Prod.snd)
        (t?, (parts.map Prod.fst).reverse ++ ms) :=
    collects_parts (f := fun ms => (t?, ms)) keys
      (fun p hp ms => readsMember_unmarked (values p hp).1 (values p hp).2 t? ms) ms
  have hmark (ms : List (String × Json)) : ReadsMember
      (readMarkedMember mark r value (String.ofList mark.toList) (none, ms)) text (some t, ms) := by
    rw [String.ofList_toList]
    exact readsMember_mark hread ms
  have hbefore := hothers keys.1 values.1 none []
  rw [List.append_nil] at hbefore
  -- The members are gathered last first, so those after the mark come before those before it.
  rw [List.map_append, List.reverse_append]
  exact hbefore.append (.cons hquoted (hmark _) (hothers keys.2 values.2 (some t) _))

theorem reads_tagged {before after : List ((String × Json) × (List Char × List Char))}
    {quoted cs : List Char} {size : Nat}
    (members : MembersText true (before.map Prod.snd ++ (quoted, text) :: after.map Prod.snd) cs)
    (hquoted : Quotes quoted "kind".toList) (htag : Reads r text t)
    (keys : ∀ p ∈ before ++ after, Quotes p.2.1 p.1.1.toList)
    (values : ∀ p ∈ before ++ after, p.1.1 ≠ "kind" ∧ Reads value p.2.2 p.1.2) (hs : cs.length ≤ size)
    (name : String) :
    Reads (readTagged size name r (some value)) ('\x7b' :: cs)
      (t, .members ((before ++ after).map Prod.fst)) := by
  intro gap rest hgap _
  have hbrace (cs : List Char) : skipGap (gap ++ '\x7b' :: cs) = '\x7b' :: cs := skipGap_gap_cons hgap rfl cs
  have hfew := Nat.lt_of_lt_of_le members.length_lt hs
  obtain ⟨mid, hread, hclose⟩ :=
    readMembers_of_text members (collects_marked hquoted htag keys values) hfew rest
  rw [List.cons_append]
  simp only [readTagged, hbrace, hread, hclose, here, bind, Except.bind, List.reverse_reverse]

theorem takeNat_of_lt {n limit : Nat} (h : n < limit) (name : String) :
    takeNat name limit (.number (.int n)) = .ok n := by
  have hrange : (0 : Int) ≤ n ∧ (n : Int) < limit := by omega
  simp only [takeNat, if_pos hrange, Int.toNat_natCast]

variable {α : Type} {parts : List (Part α)} {key : String} {given : List String}

theorem takeMembers_known {p : Part α} {v : Json} {a b : α}
    (hfind : parts.find? (fun p => p.name == key) = some p) (hnew : key ∉ given) (h : p.take a v = .ok b)
    (ms : List (String × Json)) :
    takeMembers parts ((key, v) :: ms) given a = takeMembers parts ms (key :: given) b := by
  have hgiven : given.contains key = false := by simpa using hnew
  rw [takeMembers, hfind]
  simp only [hgiven, h, bind, Except.bind, Bool.false_eq_true, if_false]

theorem takeMembers_unknown (hfind : parts.find? (fun p => p.name == key) = none) (v : Json)
    (ms : List (String × Json)) (a : α) :
    takeMembers parts ((key, v) :: ms) given a = takeMembers parts ms given a := by
  rw [takeMembers, hfind]

end Tags

end ConsoleNav.Json
