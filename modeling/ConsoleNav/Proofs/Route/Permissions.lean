import ConsoleNav.Proofs.Json.Embedding
import ConsoleNav.Proofs.Json.Reading
import ConsoleNav.Route.Wire

/-!
Permissions carry along what they do not interpret: all members but the one that names a route, expanded and
in the order of their keys. They come out as they were given, and are read again so, just if no object in
them stands for a text.
-/
namespace ConsoleNav.Route

open Json

section Accepted

/-- What has been made of members: the name of a route, and all other members. -/
inductive Permission.Splits : List (String × Json) → Option String × List (String × Json) → Prop
  | unnamed {ms : List (String × Json)} (others : ∀ m ∈ ms, m.1 ≠ "routeName") : Splits ms (none, ms)
  | named {before after : List (String × Json)} (others : ∀ m ∈ before ++ after, m.1 ≠ "routeName")
      (name : String) : Splits (before ++ ("routeName", .string name) :: after)
        (some name, before ++ after)

variable {size depth : Nat} {cs rest : List Char}

theorem Permission.Splits.concat {ms others : List (String × Json)} {name? : Option String}
    (h : Splits ms (name?, others)) {key : String} (hkey : key ≠ "routeName") (v : Json) :
    Splits (ms ++ [(key, v)]) (name?, others ++ [(key, v)]) := by
  cases h with
  | unnamed hothers =>
    refine .unnamed ?_
    rw [List.forall_mem_append, List.forall_mem_singleton]
    exact ⟨hothers, hkey⟩
  | @named before after hothers name =>
    rw [List.append_assoc, List.append_assoc, List.cons_append]
    refine .named ?_ name
    rw [← List.append_assoc, List.forall_mem_append, List.forall_mem_singleton]
    exact ⟨hothers, hkey⟩

/-- The member that names the route is taken where none has been. -/
theorem Permission.Splits.name {ms others : List (String × Json)} (h : Splits ms (none, others))
    (name : String) : Splits (ms ++ [("routeName", .string name)]) (some name, others) := by
  cases h with
  | unnamed hothers =>
    have hnamed := @Splits.named ms [] (by rwa [List.append_nil]) name
    rwa [List.append_nil] at hnamed

theorem readValue_of_readString {s : String} (h : readString cs = .ok (s, rest)) :
    readValue size depth cs = .ok (.string s, rest) := by
  unfold readString readStringAs at h
  split at h
  · next quoted opening =>
    obtain ⟨⟨name, rest'⟩, hname, heq⟩ := ok_of_bind h
    cases heq
    rw [readValue_eq, readAny_string opening, hname]
    rfl
  · cases h

theorem readMember_congr {α β : Type} {r : Reader α} {r' : Reader β} {key : String} {a : α} {b : β}
    (h : ∀ {text rest}, r text = .ok (a, rest) → r' text = .ok (b, rest))
    (hr : Json.readMember key r cs = .ok (a, rest)) : Json.readMember key r' cs = .ok (b, rest) := by
  obtain ⟨text, htext, hread⟩ := ok_of_readMember hr
  simp only [Json.readMember, htext, located, h hread, here, bind, Except.bind]

/-- A member of a permission is a member of any object. -/
theorem Permission.readMember_simulates {key : String} {s t : Option String × List (String × Json)}
    {ms : List (String × Json)} (hs : Splits ms.reverse (s.1, s.2.reverse))
    (hr : readMarkedMember "routeName" readString (readValue size depth) key s cs = .ok (t, rest)) :
    ∃ ms', valueMember (readValue size depth) key ms cs = .ok (ms', rest) ∧
      Splits ms'.reverse (t.1, t.2.reverse) := by
  unfold readMarkedMember at hr
  split at hr
  · next hkey =>
    subst hkey
    split at hr
    · cases hr
    · next hnone =>
      obtain ⟨⟨name, mid⟩, hname, heq⟩ := ok_of_bind hr
      cases heq
      have hvalue : Json.readMember "routeName" (readValue size depth) cs = .ok (.string name, rest) :=
        readMember_congr readValue_of_readString hname
      rw [hnone] at hs
      refine ⟨("routeName", .string name) :: ms, ?_, ?_⟩
      · simp only [valueMember, hvalue, bind, Except.bind]
      · rw [List.reverse_cons]
        exact hs.name name
  · next hkey =>
    obtain ⟨⟨v, mid⟩, hv, heq⟩ := ok_of_bind hr
    cases heq
    refine ⟨(key, v) :: ms, ?_, ?_⟩
    · simp only [valueMember, hv, bind, Except.bind]
    · rw [List.reverse_cons, List.reverse_cons]
      exact hs.concat hkey v

/-- A text of a permission is the text of an object, and it names a route once. -/
theorem Permission.readValue_of_reader {p : Permission}
    (h : Permission.reader size depth cs = .ok (p, rest)) :
    ∃ before after carried, readValue size depth cs =
        .ok (.object (before ++ ("routeName", .string p.routeName) :: after), rest) ∧
      (∀ m ∈ before ++ after, m.1 ≠ "routeName") ∧
      expandMembers (readEmbedded size) (before ++ after) = .ok carried ∧
      p.extra = Keyed.ofList (sortedValues carried) := by
  unfold Permission.reader at h
  split at h
  · next text opening =>
    split at h
    · cases h
    · next depth =>
      obtain ⟨⟨⟨name?, others⟩, mid⟩, hmembers, h⟩ := ok_of_bind h
      have hstart : Splits ([] : List (String × Json)).reverse (none, [].reverse) :=
        .unnamed fun _ hm => absurd hm List.not_mem_nil
      obtain ⟨ms, hms, hsplits⟩ := @readMembers_simulates _ _
        (readMarkedMember "routeName" readString (readValue size depth))
        (valueMember (readValue size depth)) (fun s ms => Splits ms.reverse (s.1, s.2.reverse))
        (fun _ _ _ _ _ _ => Permission.readMember_simulates) _ _ _ _ _ _ _ hstart hmembers
      dsimp only at h hsplits
      split at h
      · cases h
      · obtain ⟨carried, hcarried, h⟩ := ok_of_bind h
        obtain ⟨last, hlast, heq⟩ := ok_of_bind h
        cases heq
        have hexpand := ok_of_here hcarried
        generalize hreverse : ms.reverse = members at hsplits
        generalize others.reverse = kept at hsplits hexpand
        cases hsplits with
        | @named before after hothers name =>
          refine ⟨before, after, carried, ?_, hothers, hexpand, rfl⟩
          rw [readValue, readAny_object opening, hms]
          simp only [hreverse, hlast, bind, Except.bind]
  · unfold refuse at h
    cases h

theorem Permission.readWhole_of_decode {text : String} {p : Permission} (h : Wire.decode text = .ok p) :
    ∃ before after carried, readWhole readValue text =
        .ok (.object (before ++ ("routeName", .string p.routeName) :: after)) ∧
      (∀ m ∈ before ++ after, m.1 ≠ "routeName") ∧
      expandMembers (readEmbedded text.toList.length) (before ++ after) = .ok carried ∧
      p.extra = Keyed.ofList (sortedValues carried) := by
  obtain ⟨⟨q, rest⟩, hq, h⟩ := ok_of_bind h
  dsimp only at h
  split at h
  · next hrest =>
    cases h
    obtain ⟨before, after, carried, hread, hkept⟩ := readValue_of_reader hq
    refine ⟨before, after, carried, ?_, hkept⟩
    simp only [readWhole, hread, hrest, bind, Except.bind, if_true]
  · cases h

end Accepted

section Written

variable {name : String} {ms carried : List (String × Json)} {size depth : Nat}

/-- The text of an object whose first member names a route. -/
theorem Permission.reads (hothers : ∀ m ∈ ms, m.1 ≠ "routeName")
    (hnesting : ∀ m ∈ ms, m.2.nesting ≤ depth)
    (hnumbers : ∀ m ∈ ms, ∀ n ∈ m.2.numbers, ∃ i, n = .int i ∧ IsWord i)
    (hcarried : expandMembers (readEmbedded size) ms = .ok carried) (st : Style) (level : Nat)
    (hsize : ((Json.object (("routeName", .string name) :: ms)).spell st level).length ≤ size) :
    Reads (Permission.reader size (depth + 1))
      ((Json.object (("routeName", .string name) :: ms)).spell st level)
      ⟨name, Keyed.ofList (sortedValues carried)⟩ := by
  intro gap rest hgap _
  have hmembers := membersText_spell st level true (("routeName", Json.string name) :: ms)
  have hbrace (cs : List Char) : skipGap (gap ++ '\x7b' :: cs) = '\x7b' :: cs := skipGap_gap_cons hgap rfl cs
  rw [spell, List.length_cons] at hsize
  have hread : ∀ m ∈ ms, Reads (readValue size depth) (m.2.spell st (level + 1)) m.2 := by
    intro m hm
    have hlength := hmembers.length_le_of_mem (escape m.1.toList, m.2.spell st (level + 1))
      (List.mem_cons_of_mem _ (List.mem_map_of_mem hm))
    exact reads_value (spells_spell (hnesting m hm) (hnumbers m hm) _) (Nat.le_of_lt (hlength.trans_lt hsize))
  have hcollects := @collects_marked String "routeName" readString (readValue size depth) name
    (spell st (level + 1) (.string name)) []
    (ms.map fun m => (m, (escape m.1.toList, m.2.spell st (level + 1)))) (escape "routeName".toList)
    (quotes_escape _) (recovers_string name st (level + 1))
  simp only [List.nil_append, List.map_nil, List.forall_mem_map, List.map_map, Function.comp_def,
    List.map_id'] at hcollects
  have hall := hcollects (fun m _ => quotes_escape _) fun m hm => ⟨hothers m hm, hread m hm⟩
  have hfew := hmembers.length_lt.trans hsize
  obtain ⟨mid, hmid, hclose⟩ := readMembers_of_text hmembers hall hfew rest
  rw [spell, List.cons_append]
  simp only [Permission.reader, hbrace, hmid, hclose, hcarried, List.reverse_reverse, here, bind,
    Except.bind]

/-- A permission as it is read: its members are in order and sorted themselves. -/
structure Permission.IsNormal (p : Permission) : Prop where
  ordered : Keyed.IsOrdered p.extra
  others : ∀ m ∈ p.extra, m.1 ≠ "routeName"
  sorted : ∀ m ∈ p.extra, m.2.sorted = m.2

variable {p : Permission}

theorem Permission.IsNormal.ofList_sortedValues (h : p.IsNormal) :
    Keyed.ofList (sortedValues p.extra) = p.extra := by
  rw [sortedValues_eq, Keyed.ofList_map, Keyed.ofList_eq_self h.ordered]
  calc
    _ = p.extra.map id := List.map_congr_left fun m hm => congrArg (Prod.mk m.1) (h.sorted m hm)
    _ = p.extra := List.map_id _

theorem Permission.IsNormal.sorted_object (h : p.IsNormal) :
    (Json.object p.extra).sorted = .object p.extra := by
  rw [Json.sorted, h.ofList_sortedValues]

theorem Permission.decode_encode (h : p.IsNormal) (hplain : ∀ m ∈ p.extra, IsExpanded m.2)
    (hbounded : IsBounded depthLimit (.object p.extra))
    (hint : ∀ n ∈ (Json.object p.extra).numbers, ∃ i, n = .int i) :
    Wire.decode (Wire.encode p) = .ok p ∧ Wire.decode (Wire.encodePretty p) = .ok p := by
  have hvalues := nestingMembers_le.mp (Nat.le_of_lt_succ hbounded.nesting_le)
  have hnumbers := forall_numbers_object.mp (hbounded.isInt hint)
  have hdecode (st : Style) : Wire.decode (String.ofList (p.toJson.spell st 0)) = .ok p := by
    have hreads : Reads (Permission.reader (p.toJson.spell st 0).length depthLimit) (p.toJson.spell st 0)
        ⟨p.routeName, Keyed.ofList (sortedValues p.extra)⟩ :=
      reads h.others hvalues hnumbers (expandMembers_eq_self fun m hm => (hplain m hm).expand_eq_self) st 0
        (Nat.le_refl _)
    rw [h.ofList_sortedValues] at hreads
    exact readWhole_text hreads
  rw [Wire.encode, Wire.encodePretty, compact, pretty, print_eq 0, layOut_eq 0]
  exact ⟨hdecode .compact, hdecode .pretty⟩

theorem Permission.readWhole_encode (hbounded : IsBounded depthLimit (.object p.extra))
    (hint : ∀ n ∈ (Json.object p.extra).numbers, ∃ i, n = .int i) :
    readWhole readValue (Wire.encode p) = .ok p.toJson := by
  have hnesting : p.toJson.nesting ≤ depthLimit := by
    have hle := hbounded.nesting_le
    rwa [nesting, ← Nat.zero_max (nestingMembers p.extra)] at hle
  have hspells : Spells depthLimit p.toJson (p.toJson.spell .compact 0) :=
    spells_spell hnesting (hbounded.isInt hint) 0
  rw [Wire.encode, compact, print_eq 0]
  exact readWhole_text (reads_value hspells (Nat.le_refl _))

/-- Where no member names the route, only the first one of the written members does. -/
theorem Permission.eq_of_split {before after : List (String × Json)} {v w : Json}
    (hothers : ∀ m ∈ before, m.1 ≠ "routeName")
    (h : ("routeName", v) :: ms = before ++ ("routeName", w) :: after) : before = [] ∧ after = ms := by
  cases before with
  | nil => exact ⟨rfl, (List.cons.inj h).2.symm⟩
  | cons m before =>
    rw [List.cons_append] at h
    exact absurd (congrArg Prod.fst (List.cons.inj h).1).symm (hothers m List.mem_cons_self)

/-- What is read again as it was has nothing in it that stands for a text. -/
theorem Permission.IsNormal.isExpanded (h : p.IsNormal) (hbounded : IsBounded depthLimit (.object p.extra))
    (hint : ∀ n ∈ (Json.object p.extra).numbers, ∃ i, n = .int i)
    (hdecode : Wire.decode (Wire.encode p) = .ok p) : ∀ m ∈ p.extra, IsExpanded m.2 := by
  obtain ⟨before, after, carried, hread, hothers, hcarried, hextra⟩ := readWhole_of_decode hdecode
  rw [readWhole_encode hbounded hint] at hread
  obtain ⟨rfl, rfl⟩ := eq_of_split (fun m hm => hothers m (List.mem_append_left _ hm))
    (Json.object.inj (Except.ok.inj hread))
  have hagain : (Json.object carried).sorted = .object p.extra := by rw [Json.sorted, ← hextra]
  intro m hm
  obtain ⟨hsorted, w, hw, hvalue⟩ := sorted_of_expandMembers hcarried h.sorted_object hagain m hm
  exact isExpanded_of_sorted (fun _ _ => isExpanded_of_readEmbedded _) hw hsorted hvalue

/-- What is carried along is the expanded members, but for their order and their repetitions. -/
theorem Permission.isNormal_of_extra {read : String → Except Cause Json}
    (hothers : ∀ m ∈ ms, m.1 ≠ "routeName") (hcarried : expandMembers read ms = .ok carried)
    (hextra : p.extra = Keyed.ofList (sortedValues carried)) : p.IsNormal := by
  obtain ⟨parts, rfl, rfl, -⟩ := parts_of_expandMembers hcarried
  rw [sortedValues_eq, Keyed.ofList_map, Keyed.ofList_map, List.map_map] at hextra
  rw [List.forall_mem_map] at hothers
  refine ⟨?_, ?_, ?_⟩
  · rw [hextra]
    exact List.pairwise_map.mpr (Keyed.isOrdered_ofList parts)
  · rw [hextra, List.forall_mem_map]
    exact fun part hpart => hothers part ((Keyed.mem_ofList_iff parts part.1 part.2).mp hpart).mem
  · rw [hextra, List.forall_mem_map]
    exact fun part _ => sorted_sorted part.2.2

end Written

/-- What permissions do not interpret they carry along, expanded, so that no object in it stands for a text.
They are written with the name of their route first and then the other members, sorted, each key with its
last value. These are the members of the text, and what is written is read again as it was, exactly where no
object in the sorted members of the text stands for a text. None of the other members has a part in what a
filter keeps. -/
theorem permissions_carry_members (text : String) :
    (∀ p : Permission, Wire.decode text = .ok p →
      ∃ before after carried given : List (String × Json),
        readWhole readValue text = .ok (.object (before ++ ("routeName", .string p.routeName) :: after)) ∧
        (∀ m ∈ before ++ after, m.1 ≠ "routeName") ∧
        expandMembers (readEmbedded text.toList.length) (before ++ after) = .ok carried ∧
        carried.map Prod.fst = (before ++ after).map Prod.fst ∧
        (∀ m ∈ carried, IsExpanded m.2) ∧
        Sorts (.object carried) (.object p.extra) ∧
        Sorts (.object (before ++ after)) (.object given) ∧
        Wire.toJson p = .object (("routeName", .string p.routeName) :: p.extra) ∧
        ((∀ n ∈ (Json.object (before ++ after)).numbers, ∃ i, n = .int i) →
          ((∀ m ∈ given, IsExpanded m.2) ↔
            p.extra = given ∧
              Wire.decode (Wire.encode p) = .ok p ∧ Wire.decode (Wire.encodePretty p) = .ok p ∧
              (Wire.decode (Wire.encode p)).map (fun again : Permission => Wire.encode again) =
                .ok (Wire.encode p)))) ∧
    ∀ permissions permissions' : List Permission,
      permissions.map Permission.routeName = permissions'.map Permission.routeName →
        ∀ (kind : FilterKind) (rs : List Record), kind.apply permissions rs = kind.apply permissions' rs := by
  refine ⟨fun p htext => ?_, fun permissions permissions' h kind rs => ?_⟩
  · obtain ⟨before, after, carried, hread, hothers, hcarried, hextra⟩ := Permission.readWhole_of_decode htext
    have hsorts := sorts_sorted (.object carried)
    have hgiven := sorts_sorted (.object (before ++ after))
    rw [sorted, ← hextra] at hsorts
    rw [sorted_object] at hgiven
    have hexpanded := isExpanded_of_expandMembers (fun _ _ => isExpanded_of_readEmbedded _) hcarried
    refine ⟨before, after, carried, _, hread, hothers, hcarried, keys_expandMembers hcarried, hexpanded, hsorts,
      hgiven, rfl, fun hint => ?_⟩
    have hnormal := Permission.isNormal_of_extra hothers hcarried hextra
    have hsubset : before ++ after ⊆ before ++ ("routeName", .string p.routeName) :: after := by simp
    have hbounded := hgiven.isBounded
      ((Yields.whole (fun size => yields_value size depthLimit) hread).subset hsubset)
    have hints := fun n hn => hint n (hgiven.numbers_subset hn)
    constructor
    · intro hplain
      have hsame := sorted_expandMembers hcarried fun m hm w hw =>
        sorted_of_expand hw (List.forall_mem_map.mp hplain m hm)
      rw [sorted, ← hextra, sorted_object] at hsame
      rw [← Json.object.inj hsame] at hplain hbounded hints ⊢
      obtain ⟨hcompact, hpretty⟩ := Permission.decode_encode hnormal hplain hbounded hints
      refine ⟨rfl, hcompact, hpretty, ?_⟩
      rw [hcompact]
      rfl
    · rintro ⟨hsame, hcompact, -, -⟩
      rw [← hsame] at hbounded hints ⊢
      exact hnormal.isExpanded hbounded hints hcompact
  · cases kind with
    | passThrough => rfl
    | permission => rw [FilterKind.apply, FilterKind.apply, permitted, permitted, h]

theorem readEmbedded_list (levels : Nat) :
    readEmbedded (levels + 1) "[1]" = .ok (.array [.number (.int 1)]) := rfl

/-- A member whose value stands for a text is carried along as something else. -/
theorem embedded_text_not_carried :
    let text := "\x7b\"routeName\":\"a\",\"x\":\x7b\"$serde_json::private::RawValue\":\"[1]\"\x7d\x7d"
    let value := Json.object [(embedKey, .string "[1]")]
    let p : Permission := ⟨"a", [("x", .array [.number (.int 1)])]⟩
    readWhole readValue text = .ok (.object [("routeName", .string "a"), ("x", value)]) ∧
      Wire.decode text = .ok p ∧ Wire.encode p = "\x7b\"routeName\":\"a\",\"x\":[1]\x7d" := by
  intro text value p
  let v := Json.object [("routeName", .string "a"), ("x", value)]
  have htext : text = String.ofList (v.spell .compact 0) := by decide
  have hnumbers : ∀ n ∈ v.numbers, ∃ i, n = .int i ∧ IsWord i := fun _ hn => absurd hn List.not_mem_nil
  rw [htext]
  refine ⟨?_, ?_, by decide⟩
  · have hspells : Spells depthLimit v (v.spell .compact 0) := spells_spell (by decide) hnumbers _
    exact readWhole_text (reads_value hspells (Nat.le_refl _))
  · obtain ⟨levels, hlevels⟩ : ∃ levels, (v.spell .compact 0).length = levels + 1 := ⟨_, rfl⟩
    have hvalue : expand (readEmbedded (levels + 1)) value = .ok (.array [.number (.int 1)]) :=
      expand_embedded (readEmbedded_list levels)
    have hcarried : expandMembers (readEmbedded (v.spell .compact 0).length) [("x", value)] = .ok p.extra := by
      rw [hlevels, expandMembers, hvalue]
      rfl
    exact readWhole_text (@Permission.reads "a" [("x", value)] p.extra _ 126 (by decide) (by decide)
      (forall_numbers_object.mp hnumbers) hcarried .compact 0 (Nat.le_refl _))

end ConsoleNav.Route
