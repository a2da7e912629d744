import ConsoleNav.Json.Embedded
import ConsoleNav.Proofs.Json.Sorting

/-!
Expanded values. Members keep their keys, a value in which no object begins with the key of a text is left as
it is, and in what a value is expanded to there is no such object any more. So a sorted value is itself again,
expanded and sorted, just if there is no such object in it.
-/
namespace ConsoleNav.Json

mutual
/-- The first keys of the objects within a value. -/
def firstKeys : Json → List String
  | .array items => firstKeysOfItems items
  | .object members => (members.head?.map Prod.fst).toList ++ firstKeysOfMembers members
  | .null | .bool _ | .number _ | .string _ => []

def firstKeysOfItems : List Json → List String
  | [] => []
  | v :: vs => v.firstKeys ++ firstKeysOfItems vs

def firstKeysOfMembers : List (String × Json) → List String
  | [] => []
  | (_, v) :: ms => v.firstKeys ++ firstKeysOfMembers ms
end

variable {read : String → Except Cause Json}

/-- Only the first key of an object says whether it stands for a text. -/
theorem embedded?_eq_none_iff {ms : List (String × Json)} :
    embedded? ms = none ↔ (ms.map Prod.fst).head? ≠ some embedKey := by
  cases ms with
  | nil => simp [embedded?]
  | cons m ms => simp [embedded?]

theorem firstKeys_object (ms : List (String × Json)) :
    (Json.object ms).firstKeys = (ms.map Prod.fst).head?.toList ++ firstKeysOfMembers ms := by
  rw [firstKeys, List.head?_map]

theorem mem_firstKeysOfItems {key : String} {vs : List Json} :
    key ∈ firstKeysOfItems vs ↔ ∃ v ∈ vs, key ∈ v.firstKeys := by
  induction vs with
  | nil => simp [firstKeysOfItems]
  | cons v vs ih => rw [firstKeysOfItems, List.mem_append, ih, List.exists_mem_cons_iff]

theorem mem_firstKeysOfMembers {key : String} {ms : List (String × Json)} :
    key ∈ firstKeysOfMembers ms ↔ ∃ m ∈ ms, key ∈ m.2.firstKeys := by
  induction ms with
  | nil => simp [firstKeysOfMembers]
  | cons m ms ih => rw [firstKeysOfMembers, List.mem_append, ih, List.exists_mem_cons_iff]

/-- A value in which no object stands for a text. -/
def IsExpanded (v : Json) : Prop :=
  embedKey ∉ v.firstKeys

theorem isExpanded_array_iff {vs : List Json} : IsExpanded (.array vs) ↔ ∀ v ∈ vs, IsExpanded v := by
  simp [IsExpanded, firstKeys, mem_firstKeysOfItems]

theorem forall_isExpanded_iff {ms : List (String × Json)} :
    (∀ m ∈ ms, IsExpanded m.2) ↔ embedKey ∉ firstKeysOfMembers ms := by
  simp [IsExpanded, mem_firstKeysOfMembers]

theorem isExpanded_object_iff {ms : List (String × Json)} :
    IsExpanded (.object ms) ↔ embedded? ms = none ∧ ∀ m ∈ ms, IsExpanded m.2 := by
  rw [IsExpanded, firstKeys_object, List.mem_append, not_or, Option.mem_toList, embedded?_eq_none_iff,
    forall_isExpanded_iff]

/-! ### What is expanded -/

section Expand

variable {vs ws : List Json} {ms ns : List (String × Json)} {v w : Json}

/-- An object of nothing but a text stands for the value of the text. -/
theorem expand_embedded {text : String} (h : read text = .ok v) :
    expand read (.object [(embedKey, .string text)]) = .ok v := by
  simp [expand, embedded?, takeText, h, bind, Except.bind]

theorem takeText_eq_ok {text : String} (h : takeText v = .ok text) : v = .string text := by
  cases v with
  | string s =>
    cases h
    rfl
  | null | bool | number | array | object => cases h

theorem parts_of_expandItems (h : expandItems read vs = .ok ws) :
    ∃ parts : List (Json × Json), vs = parts.map Prod.fst ∧ ws = parts.map Prod.snd ∧
      ∀ p ∈ parts, expand read p.1 = .ok p.2 := by
  induction vs generalizing ws with
  | nil =>
    cases h
    exact ⟨[], rfl, rfl, fun _ hp => absurd hp List.not_mem_nil⟩
  | cons v vs ih =>
    obtain ⟨w, hw, h⟩ := ok_of_bind h
    obtain ⟨rest, hrest, heq⟩ := ok_of_bind h
    cases heq
    obtain ⟨parts, rfl, rfl, hparts⟩ := ih hrest
    exact ⟨(v, w) :: parts, rfl, rfl, List.forall_mem_cons.mpr ⟨hw, hparts⟩⟩

theorem parts_of_expandMembers (h : expandMembers read ms = .ok ns) :
    ∃ parts : List (String × Json × Json),
      ms = parts.map (Prod.map id Prod.fst) ∧ ns = parts.map (Prod.map id Prod.snd) ∧
      ∀ p ∈ parts, expand read p.2.1 = .ok p.2.2 := by
  induction ms generalizing ns with
  | nil =>
    cases h
    exact ⟨[], rfl, rfl, fun _ hp => absurd hp List.not_mem_nil⟩
  | cons m ms ih =>
    obtain ⟨w, hw, h⟩ := ok_of_bind h
    obtain ⟨rest, hrest, heq⟩ := ok_of_bind h
    cases heq
    obtain ⟨parts, rfl, rfl, hparts⟩ := ih hrest
    exact ⟨(m.1, m.2, w) :: parts, rfl, rfl, List.forall_mem_cons.mpr ⟨hw, hparts⟩⟩

theorem keys_expandMembers (h : expandMembers read ms = .ok ns) :
    ns.map Prod.fst = ms.map Prod.fst := by
  obtain ⟨parts, rfl, rfl, -⟩ := parts_of_expandMembers h
  rw [List.map_map, List.map_map]
  rfl

/-- An object is expanded to what its text stands for, or member by member. -/
theorem expand_object_eq_ok (h : expand read (.object ms) = .ok w) :
    (∃ text, ms = [(embedKey, .string text)] ∧ read text = .ok w) ∨
      (embedded? ms = none ∧ ∃ ns, expandMembers read ms = .ok ns ∧ w = .object ns) := by
  rw [expand] at h
  split at h
  · next v hv =>
    obtain ⟨text, htext, h⟩ := ok_of_bind h
    obtain ⟨value, hvalue, h⟩ := ok_of_bind h
    split at h
    · next hlength =>
      cases h
      obtain ⟨⟨key, v'⟩, rfl⟩ := List.length_eq_one_iff.mp hlength
      rw [embedded?] at hv
      split at hv
      · next hkey =>
        cases hv
        exact .inl ⟨text, by rw [hkey, takeText_eq_ok htext], hvalue⟩
      · cases hv
    · cases h
  · next hnone =>
    obtain ⟨ns, hns, heq⟩ := ok_of_bind h
    cases heq
    exact .inr ⟨hnone, ns, hns, rfl⟩

theorem expandMembers_eq_self (h : ∀ m ∈ ms, expand read m.2 = .ok m.2) : expandMembers read ms = .ok ms := by
  induction ms with
  | nil => rfl
  | cons m ms ih =>
    rw [List.forall_mem_cons] at h
    rw [expandMembers, h.1, ih h.2]
    rfl

theorem expandItems_eq_self (h : ∀ v ∈ vs, expand read v = .ok v) : expandItems read vs = .ok vs := by
  induction vs with
  | nil => rfl
  | cons v vs ih =>
    rw [List.forall_mem_cons] at h
    rw [expandItems, h.1, ih h.2]
    rfl

theorem IsExpanded.expand_eq_self (h : IsExpanded v) : expand read v = .ok v := by
  induction v using values_induction with
  | null | bool | number | string => rfl
  | array vs ih =>
    have hvs := isExpanded_array_iff.mp h
    rw [expand, expandItems_eq_self fun v hv => ih v hv (hvs v hv)]
    rfl
  | object ms ih =>
    obtain ⟨hfirst, hms⟩ := isExpanded_object_iff.mp h
    rw [expand, hfirst, expandMembers_eq_self fun m hm => ih m hm (hms m hm)]
    rfl

theorem isExpanded_of_expand (hread : ∀ text v, read text = .ok v → IsExpanded v)
    (h : expand read v = .ok w) : IsExpanded w := by
  induction v using values_induction generalizing w with
  | null | bool | number | string =>
    cases h
    exact List.not_mem_nil
  | array vs ih =>
    obtain ⟨ws, hws, heq⟩ := ok_of_bind h
    cases heq
    obtain ⟨parts, rfl, rfl, hparts⟩ := parts_of_expandItems hws
    rw [isExpanded_array_iff, List.forall_mem_map]
    exact fun p hp => ih p.1 (List.mem_map_of_mem hp) (hparts p hp)
  | object ms ih =>
    obtain ⟨text, -, hw⟩ | ⟨hfirst, ns, hns, rfl⟩ := expand_object_eq_ok h
    · exact hread text w hw
    · rw [embedded?_eq_none_iff, ← keys_expandMembers hns, ← embedded?_eq_none_iff] at hfirst
      obtain ⟨parts, rfl, rfl, hparts⟩ := parts_of_expandMembers hns
      rw [isExpanded_object_iff, List.forall_mem_map]
      exact ⟨hfirst, fun p hp => ih _ (List.mem_map_of_mem hp) (hparts p hp)⟩

theorem isExpanded_of_expandMembers (hread : ∀ text v, read text = .ok v → IsExpanded v)
    (h : expandMembers read ms = .ok ns) : ∀ n ∈ ns, IsExpanded n.2 := by
  obtain ⟨parts, rfl, rfl, hparts⟩ := parts_of_expandMembers h
  rw [List.forall_mem_map]
  exact fun p hp => isExpanded_of_expand hread (hparts p hp)

/-! ### What is expanded and sorted -/

/-- Only the last member of each key matters to what comes out sorted. -/
theorem sorted_expandMembers (h : expandMembers read ms = .ok ns)
    (hlast : ∀ m ∈ Keyed.ofList ms, ∀ {w}, expand read m.2 = .ok w → w.sorted = m.2.sorted) :
    (Json.object ns).sorted = (Json.object ms).sorted := by
  obtain ⟨parts, rfl, rfl, hparts⟩ := parts_of_expandMembers h
  rw [Keyed.ofList_map, List.forall_mem_map] at hlast
  rw [sorted_object, sorted_object, Keyed.ofList_map, Keyed.ofList_map, List.map_map, List.map_map]
  refine congrArg Json.object (List.map_congr_left fun p hp => ?_)
  have hexpand := hparts p ((Keyed.mem_ofList_iff parts p.1 p.2).mp hp).mem
  exact congrArg (Prod.mk p.1) (hlast p hp hexpand)

/-- Where no object in the sorted value stands for a text, the value is sorted to the same, expanded or not. -/
theorem sorted_of_expand (h : expand read v = .ok w) (hv : IsExpanded v.sorted) : w.sorted = v.sorted := by
  induction v using values_induction generalizing w with
  | null | bool | number | string =>
    cases h
    rfl
  | array vs ih =>
    obtain ⟨ws, hws, heq⟩ := ok_of_bind h
    cases heq
    obtain ⟨parts, rfl, rfl, hparts⟩ := parts_of_expandItems hws
    rw [sorted, sortedItems_eq, isExpanded_array_iff, List.map_map, List.forall_mem_map] at hv
    rw [sorted, sorted, sortedItems_eq, sortedItems_eq, List.map_map, List.map_map]
    refine congrArg Json.array (List.map_congr_left fun p hp => ?_)
    exact ih p.1 (List.mem_map_of_mem hp) (hparts p hp) (hv p hp)
  | object ms ih =>
    obtain ⟨text, rfl, -⟩ | ⟨-, ns, hns, rfl⟩ := expand_object_eq_ok h
    · exact absurd List.mem_cons_self hv
    · rw [sorted_object, isExpanded_object_iff, List.forall_mem_map] at hv
      refine sorted_expandMembers hns fun m hm w hw => ?_
      exact ih m ((Keyed.mem_ofList_iff ms m.1 m.2).mp hm).mem hw (hv.2 m hm)

/-- Members that come out as they were, expanded and sorted, do so one by one. -/
theorem sorted_of_expandMembers (h : expandMembers read ms = .ok ns)
    (hms : (Json.object ms).sorted = .object ms) (hns : (Json.object ns).sorted = .object ms) :
    ∀ m ∈ ms, m.2.sorted = m.2 ∧ ∃ w, expand read m.2 = .ok w ∧ w.sorted = m.2 := by
  have hordered : Keyed.IsOrdered ms := by
    rw [sorted_object] at hms
    rw [← Json.object.inj hms]
    exact List.pairwise_map.mpr (Keyed.isOrdered_ofList ms)
  obtain ⟨parts, rfl, rfl, hparts⟩ := parts_of_expandMembers h
  have hparts' : Keyed.ofList parts = parts := Keyed.ofList_eq_self (List.pairwise_map.mp hordered :)
  rw [sorted_object, Keyed.ofList_map, hparts', List.map_map] at hms hns
  have hfst := List.map_inj_left.mp (Json.object.inj hms)
  have hsnd := List.map_inj_left.mp (Json.object.inj hns)
  rw [List.forall_mem_map]
  intro p hp
  exact ⟨congrArg Prod.snd (hfst p hp), p.2.2, hparts p hp, congrArg Prod.snd (hsnd p hp)⟩

theorem not_isExpanded_of_sorted (h : w.sorted = .object [(embedKey, v)]) : ¬ IsExpanded w := by
  cases w with
  | object ms =>
    rw [sorted_object] at h
    have hofList : (Keyed.ofList ms).map Prod.fst = [embedKey] := by
      have hkeys := congrArg (List.map Prod.fst) (Json.object.inj h)
      rwa [List.map_map] at hkeys
    cases ms with
    | nil => cases hofList
    | cons m ms =>
      have hkey : m.1 = embedKey := by
        rw [← List.mem_singleton, ← hofList, Keyed.mem_keys_ofList]
        exact List.mem_cons_self
      simp [isExpanded_object_iff, embedded?, hkey]
  | null | bool | number | string | array => cases h

/-- A sorted value that is itself again, expanded and sorted, has no object in it that stands for a text. -/
theorem isExpanded_of_sorted (hread : ∀ text v, read text = .ok v → IsExpanded v)
    (h : expand read v = .ok w) (hv : v.sorted = v) (hw : w.sorted = v) : IsExpanded v := by
  induction v using values_induction generalizing w with
  | null | bool | number | string => exact List.not_mem_nil
  | array vs ih =>
    obtain ⟨ws, hws, heq⟩ := ok_of_bind h
    cases heq
    obtain ⟨parts, rfl, rfl, hparts⟩ := parts_of_expandItems hws
    rw [sorted, sortedItems_eq, List.map_map] at hv hw
    have hfst := List.map_inj_left.mp (Json.array.inj hv)
    have hsnd := List.map_inj_left.mp (Json.array.inj hw)
    rw [isExpanded_array_iff, List.forall_mem_map]
    exact fun p hp => ih p.1 (List.mem_map_of_mem hp) (hparts p hp) (hfst p hp) (hsnd p hp)
  | object ms ih =>
    obtain ⟨text, rfl, hvalue⟩ | ⟨hfirst, ns, hns, rfl⟩ := expand_object_eq_ok h
    · exact absurd (hread text w hvalue) (not_isExpanded_of_sorted hw)
    · rw [isExpanded_object_iff]
      refine ⟨hfirst, fun m hm => ?_⟩
      obtain ⟨hm', w, hw', hsorted⟩ := sorted_of_expandMembers hns hv hw m hm
      exact ih m hm hw' hm' hsorted

end Expand

section Read

variable {size : Nat} {inner : Option (Reader Json)} {value : Reader Json}

/-- The first key of an object is the one that stands first in its text. -/
theorem embedded?_of_readText? {text rest : List Char} {ms : List (String × Json)}
    (h : readText? text = none)
    (hr : readMembers (valueMember value) size true [] text = .ok (ms, rest)) :
    embedded? ms.reverse = none := by
  cases size with
  | zero => cases hr
  | succ size =>
    rw [readMembers] at hr
    split at hr
    · cases hr
    · cases hr
      rfl
    · next cs hcs =>
      split at hr
      · cases hr
      · next key cs' hkey =>
        obtain ⟨⟨first, mid⟩, hfirst, hr⟩ := ok_of_bind hr
        obtain ⟨⟨v, mid'⟩, -, heq⟩ := ok_of_bind hfirst
        cases heq
        have hne : String.ofList key ≠ embedKey := by
          intro heq
          rw [readText?, hcs] at h
          simp [hkey, heq] at h
        have hlast : ms.getLast? = some (String.ofList key, v) := by
          refine yields_members (P := fun ms => ms.getLast? = some (String.ofList key, v))
            (fun other s hs => ?_) size false rfl _ _ _ hr
          intro cs t rest ht
          obtain ⟨⟨w, mid'⟩, -, heq⟩ := ok_of_bind ht
          cases heq
          rw [List.getLast?_cons, hs]
          rfl
        obtain ⟨others, hothers⟩ := List.head?_eq_some_iff.mp (List.head?_reverse.trans hlast)
        rw [hothers, embedded?, if_neg hne]

variable (hread : ∀ text v, read text = .ok v → IsExpanded v)
include hread

theorem yields_expandedAny (h : ∀ value ∈ inner, Yields value IsExpanded) :
    Yields (readExpandedAny read size inner) IsExpanded := by
  have hany {cs rest : List Char} {v : Json} (hr : readAny size inner cs = .ok (v, rest))
      (hplain : ∀ text, skipGap cs = '\x7b' :: text → inner.isSome → readText? text = none) :
      IsExpanded v := by
    cases readsAny hr with
    | null | bool | string | number => exact List.not_mem_nil
    | array deeper hitems => exact isExpanded_array_iff.mpr ((h _ deeper).items _ _ _ _ _ hitems)
    | @object text _ _ ms opening deeper hmembers =>
      have hfirst := embedded?_of_readText? (hplain text opening (by simp [deeper])) hmembers
      refine isExpanded_object_iff.mpr ⟨hfirst, ?_⟩
      have hall := yields_members (fun key _ hms => (h _ deeper).valueMember key hms) _ _
        (fun _ hm => absurd hm List.not_mem_nil) _ _ _ hmembers
      exact fun m hm => hall m (List.mem_reverse.mp hm)
  intro cs v rest hr
  unfold readExpandedAny at hr
  split at hr
  · next text value hopening =>
    split at hr
    · obtain ⟨⟨given, mid⟩, -, hr⟩ := ok_of_bind hr
      obtain ⟨w, hw, hr⟩ := ok_of_bind hr
      obtain ⟨_, -, heq⟩ := ok_of_bind hr
      cases heq
      exact hread given v (ok_of_here hw)
    · next hnone =>
      refine hany hr fun text' hopening' _ => ?_
      cases hopening.symm.trans hopening'
      exact hnone
  · next hother =>
    refine hany hr fun text hopening hinner => ?_
    obtain ⟨value, rfl⟩ := Option.isSome_iff_exists.mp hinner
    exact absurd rfl (hother text value hopening)

theorem yields_expanded (size depth : Nat) : Yields (readExpanded read size depth) IsExpanded := by
  induction depth with
  | zero => exact yields_expandedAny hread fun _ h => absurd h (Option.not_mem_none _)
  | succ depth ih =>
    refine yields_expandedAny hread fun value hvalue => ?_
    cases hvalue
    exact ih

end Read

theorem isExpanded_of_readEmbedded (levels : Nat) {text : String} {v : Json}
    (h : readEmbedded levels text = .ok v) : IsExpanded v := by
  induction levels generalizing text v with
  | zero => cases h
  | succ levels ih =>
    rw [readEmbedded] at h
    split at h
    · next hv =>
      cases h
      exact Yields.whole (fun size => yields_expanded (fun _ _ => ih) size depthLimit) hv
    · cases h

end ConsoleNav.Json
