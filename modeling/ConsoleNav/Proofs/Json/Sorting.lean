import ConsoleNav.Proofs.Json.Values
import ConsoleNav.Proofs.Keyed
import ConsoleNav.Proofs.Text.Octets

/-!
Values with the members of their objects in the order of the keys. What has been sorted once stays as it
is, and sorting adds no depth and no numbers.
-/
namespace ConsoleNav.Json

open Text

/-- What carries over from the values in a list or an object to the whole of it, and holds of all other
values, holds of every value. -/
@[elab_as_elim]
theorem values_induction {P : Json → Prop} (null : P .null) (bool : ∀ b, P (.bool b))
    (number : ∀ n, P (.number n)) (string : ∀ s, P (.string s))
    (array : ∀ vs, (∀ v ∈ vs, P v) → P (.array vs))
    (object : ∀ ms, (∀ m ∈ ms, P m.2) → P (.object ms)) (v : Json) : P v :=
  @Json.rec P (fun vs => ∀ v ∈ vs, P v) (fun ms => ∀ m ∈ ms, P m.2) (fun m => P m.2)
    null bool number string array object
    (fun _ hv => absurd hv List.not_mem_nil) (fun _ _ hv hvs => List.forall_mem_cons.mpr ⟨hv, hvs⟩)
    (fun _ hm => absurd hm List.not_mem_nil) (fun _ _ hm hms => List.forall_mem_cons.mpr ⟨hm, hms⟩)
    (fun _ _ hv => hv) v

/-- The second value is the first one with every object sorted: each key with its last value, in the order
of the octets of the keys. -/
inductive Sorts : Json → Json → Prop
  | null : Sorts .null .null
  | bool (b : Bool) : Sorts (.bool b) (.bool b)
  | number (n : Number) : Sorts (.number n) (.number n)
  | string (s : String) : Sorts (.string s) (.string s)
  | array {parts : List (Json × Json)} (items : ∀ p ∈ parts, Sorts p.1 p.2) :
      Sorts (.array (parts.map Prod.fst)) (.array (parts.map Prod.snd))
  | object {ms : List (String × Json)} {parts : List (String × Json × Json)}
      (last : ∀ key v, (∃ w, (key, v, w) ∈ parts) ↔ Keyed.IsLast ms key v)
      (ordered : parts.Pairwise fun p q => encodeUtf8 p.1 < encodeUtf8 q.1)
      (values : ∀ p ∈ parts, Sorts p.2.1 p.2.2) :
      Sorts (.object ms) (.object (parts.map fun p => (p.1, p.2.2)))

theorem sortedItems_eq (vs : List Json) : sortedItems vs = vs.map sorted := by
  induction vs with
  | nil => rfl
  | cons v vs ih => rw [sortedItems, ih, List.map_cons]

theorem sortedValues_eq (ms : List (String × Json)) : sortedValues ms = ms.map (Prod.map id sorted) := by
  induction ms with
  | nil => rfl
  | cons m ms ih => rw [sortedValues, ih, List.map_cons, Prod.map_apply, id]

theorem sorted_object (ms : List (String × Json)) :
    (Json.object ms).sorted = .object ((Keyed.ofList ms).map (Prod.map id sorted)) := by
  rw [sorted, sortedValues_eq, Keyed.ofList_map]

theorem sorts_sorted (v : Json) : Sorts v v.sorted := by
  induction v using values_induction with
  | null => exact .null
  | bool b => exact .bool b
  | number n => exact .number n
  | string s => exact .string s
  | array vs ih =>
    have hsorts := @Sorts.array (vs.map fun v => (v, v.sorted))
    simp only [List.map_map, Function.comp_def, List.map_id', List.forall_mem_map] at hsorts
    rw [sorted, sortedItems_eq]
    exact hsorts ih
  | object ms ih =>
    have hsorts := @Sorts.object ms ((Keyed.ofList ms).map fun m => (m.1, m.2, m.2.sorted))
    simp only [List.map_map, Function.comp_def, List.forall_mem_map, List.pairwise_map,
      encodeUtf8_lt_iff] at hsorts
    rw [sorted_object]
    refine hsorts (fun key v => ?_) (Keyed.isOrdered_ofList ms) fun m hm => ?_
    · simp [← Keyed.mem_ofList_iff]
    · exact ih m ((Keyed.mem_ofList_iff ms m.1 m.2).mp hm).mem

variable {v w : Json}

theorem Sorts.sorted_eq_self (h : Sorts v w) : w.sorted = w := by
  induction h with
  | null | bool | number | string => rfl
  | @array parts items ih =>
    rw [sorted, sortedItems_eq, List.map_map]
    exact congrArg Json.array (List.map_congr_left ih)
  | @object ms parts last ordered values ih =>
    have hordered : Keyed.IsOrdered (parts.map fun p => (p.1, p.2.2)) :=
      List.pairwise_map.mpr (ordered.imp encodeUtf8_lt_iff.mp)
    -- The keys are in order already, so nothing but the values could still be sorted.
    rw [sorted_object, Keyed.ofList_eq_self hordered, List.map_map]
    refine congrArg Json.object (List.map_congr_left fun p hp => ?_)
    exact congrArg (Prod.mk p.1) (ih p hp)

theorem sorted_sorted (v : Json) : v.sorted.sorted = v.sorted :=
  (sorts_sorted v).sorted_eq_self

theorem Sorts.nesting_le (h : Sorts v w) : w.nesting ≤ v.nesting := by
  induction h with
  | null | bool | number | string => exact Nat.le_refl _
  | @array parts items ih =>
    rw [nesting, nesting, Nat.add_le_add_iff_right, nestingItems_le, List.forall_mem_map]
    have hparts := nestingItems_le.mp (Nat.le_refl (nestingItems (parts.map Prod.fst)))
    exact fun p hp => Nat.le_trans (ih p hp) (hparts p.1 (List.mem_map_of_mem hp))
  | @object ms parts last ordered values ih =>
    rw [nesting, nesting, Nat.add_le_add_iff_right, nestingMembers_le, List.forall_mem_map]
    have hparts := nestingMembers_le.mp (Nat.le_refl (nestingMembers ms))
    exact fun p hp => Nat.le_trans (ih p hp) (hparts _ ((last p.1 p.2.1).mp ⟨p.2.2, hp⟩).mem)

theorem Sorts.numbers_subset (h : Sorts v w) : w.numbers ⊆ v.numbers := by
  induction h with
  | null | bool | number | string => exact List.Subset.refl _
  | @array parts items ih =>
    have hparts := forall_numbers_array.mp (List.Subset.refl (Json.array (parts.map Prod.fst)).numbers)
    refine forall_numbers_array.mpr (List.forall_mem_map.mpr fun p hp n hn => ?_)
    exact hparts p.1 (List.mem_map_of_mem hp) n (ih p hp hn)
  | @object ms parts last ordered values ih =>
    have hparts := forall_numbers_object.mp (List.Subset.refl (Json.object ms).numbers)
    refine forall_numbers_object.mpr (List.forall_mem_map.mpr fun p hp n hn => ?_)
    exact hparts _ ((last p.1 p.2.1).mp ⟨p.2.2, hp⟩).mem n (ih p hp hn)

theorem Sorts.isBounded {depth : Nat} (h : Sorts v w) (hv : IsBounded depth v) : IsBounded depth w :=
  ⟨Nat.le_trans h.nesting_le hv.nesting_le, fun n hn => hv.isWord n (h.numbers_subset hn)⟩

end ConsoleNav.Json
