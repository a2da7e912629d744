import ConsoleNav.Keyed
import Mathlib.Data.List.Induction
import Mathlib.Data.String.Basic

/-!
Ordered lists of keys with their values. A list made of entries holds, for every key among them, the
value of the last one, and it is the only list in order that does.
-/
namespace ConsoleNav.Keyed

variable {α β : Type} {key : String} {value : α} {m entries : List (String × α)} {e : String × α}

def IsOrdered (m : List (String × α)) : Prop :=
  m.Pairwise fun a b => a.1 < b.1

/-- The last of the entries with a key has the value. -/
def IsLast (entries : List (String × α)) (key : String) (value : α) : Prop :=
  ∃ before after, entries = before ++ (key, value) :: after ∧ key ∉ after.map Prod.fst

theorem IsLast.mem (h : IsLast entries key value) : (key, value) ∈ entries := by
  obtain ⟨before, after, rfl, -⟩ := h
  exact List.mem_append_right _ List.mem_cons_self

theorem mem_insert_of_mem (h : e ∈ insert key value m) : e = (key, value) ∨ e ∈ m := by
  induction m with
  | nil => exact .inl (List.mem_singleton.mp h)
  | cons d m ih =>
    obtain ⟨k, v⟩ := d
    rw [insert] at h
    split at h
    · exact (List.mem_cons.mp h).imp_right (List.mem_cons_of_mem _)
    · split at h
      · exact List.mem_cons.mp h
      · rcases List.mem_cons.mp h with rfl | h
        · exact .inr List.mem_cons_self
        · exact (ih h).imp_right (List.mem_cons_of_mem _)

theorem isOrdered_insert (h : IsOrdered m) (key : String) (value : α) :
    IsOrdered (insert key value m) := by
  induction m with
  | nil => exact List.pairwise_singleton _ _
  | cons d m ih =>
    obtain ⟨k, v⟩ := d
    obtain ⟨hfirst, hrest⟩ := List.pairwise_cons.mp h
    rw [insert]
    split
    · next heq =>
      subst heq
      exact List.pairwise_cons.mpr ⟨hfirst, hrest⟩
    · next hne =>
      split
      · next hlt =>
        refine List.pairwise_cons.mpr ⟨fun e he => ?_, h⟩
        rcases List.mem_cons.mp he with rfl | he
        · exact hlt
        · exact hlt.trans (hfirst e he)
      · next hge =>
        refine List.pairwise_cons.mpr ⟨fun e he => ?_, ih hrest⟩
        rcases mem_insert_of_mem he with rfl | he
        · exact lt_of_le_of_ne (not_lt.mp hge) (Ne.symm hne)
        · exact hfirst e he

/-- In an ordered list the new entry takes the place of the one with its key. -/
theorem mem_insert_iff (h : IsOrdered m) :
    e ∈ insert key value m ↔ e = (key, value) ∨ (e.1 ≠ key ∧ e ∈ m) := by
  induction m with
  | nil => simp [insert]
  | cons d m ih =>
    obtain ⟨k, v⟩ := d
    obtain ⟨hfirst, hrest⟩ := List.pairwise_cons.mp h
    have hgreater (hk : key ≤ k) (he : e ∈ m) : e.1 ≠ key := (hk.trans_lt (hfirst e he)).ne'
    rw [insert]
    split
    · next heq =>
      subst heq
      rw [List.mem_cons, List.mem_cons]
      constructor
      · rintro (rfl | he)
        · exact .inl rfl
        · exact .inr ⟨hgreater le_rfl he, .inr he⟩
      · rintro (rfl | ⟨hne, rfl | he⟩)
        · exact .inl rfl
        · exact absurd rfl hne
        · exact .inr he
    · next hne =>
      split
      · next hlt =>
        rw [List.mem_cons, List.mem_cons]
        refine or_congr_right (iff_and_self.mpr ?_)
        rintro (rfl | he)
        · exact hlt.ne'
        · exact hgreater hlt.le he
      · rw [List.mem_cons, List.mem_cons, ih hrest]
        constructor
        · rintro (rfl | rfl | ⟨hkey, he⟩)
          · exact .inr ⟨Ne.symm hne, .inl rfl⟩
          · exact .inl rfl
          · exact .inr ⟨hkey, .inr he⟩
        · rintro (rfl | ⟨hkey, rfl | he⟩)
          · exact .inr (.inl rfl)
          · exact .inl rfl
          · exact .inr (.inr ⟨hkey, he⟩)

theorem insert_eq_append (h : ∀ e ∈ m, e.1 < key) (value : α) :
    insert key value m = m ++ [(key, value)] := by
  induction m with
  | nil => rfl
  | cons d m ih =>
    obtain ⟨k, v⟩ := d
    rw [List.forall_mem_cons] at h
    rw [insert, if_neg h.1.ne', if_neg h.1.not_gt, ih h.2, List.cons_append]

theorem insert_map (f : α → β) (key : String) (value : α) (m : List (String × α)) :
    (insert key value m).map (Prod.map id f) = insert key (f value) (m.map (Prod.map id f)) := by
  induction m with
  | nil => rfl
  | cons d m ih =>
    obtain ⟨k, v⟩ := d
    rw [List.map_cons, Prod.map_apply, id, insert, insert, ← ih]
    split
    · rfl
    · split <;> rfl

theorem ofList_concat (entries : List (String × α)) (e : String × α) :
    ofList (entries ++ [e]) = insert e.1 e.2 (ofList entries) := by
  rw [ofList, List.foldl_append]
  rfl

theorem isOrdered_ofList (entries : List (String × α)) : IsOrdered (ofList entries) := by
  induction entries using List.reverseRecOn with
  | nil => exact .nil
  | append_singleton entries e ih =>
    rw [ofList_concat]
    exact isOrdered_insert ih e.1 e.2

theorem isLast_concat_iff : IsLast (entries ++ [e]) key value ↔
    (key, value) = e ∨ (key ≠ e.1 ∧ IsLast entries key value) := by
  constructor
  · rintro ⟨before, after, heq, hnew⟩
    rcases List.eq_nil_or_concat after with rfl | ⟨after, last, rfl⟩
    · exact .inl (List.singleton_inj.mp (List.append_inj' heq rfl).2).symm
    · rw [List.concat_eq_append, ← List.cons_append, ← List.append_assoc] at heq
      obtain ⟨hentries, hlast⟩ := List.append_inj' heq rfl
      obtain rfl := List.singleton_inj.mp hlast
      rw [List.concat_eq_append, List.map_append, List.mem_append, not_or] at hnew
      refine .inr ⟨fun hkey => hnew.2 ?_, before, after, hentries, hnew.1⟩
      exact List.mem_singleton.mpr hkey
  · rintro (rfl | ⟨hne, before, after, rfl, hnew⟩)
    · exact ⟨entries, [], rfl, List.not_mem_nil⟩
    · refine ⟨before, after ++ [e], ?_, ?_⟩
      · rw [List.append_assoc, List.cons_append]
      · rw [List.map_append, List.mem_append, not_or]
        exact ⟨hnew, fun hkey => hne (List.mem_singleton.mp hkey)⟩

theorem exists_isLast_iff : (∃ value, IsLast entries key value) ↔ key ∈ entries.map Prod.fst := by
  constructor
  · rintro ⟨value, h⟩
    exact List.mem_map_of_mem (f := Prod.fst) h.mem
  · intro h
    induction entries using List.reverseRecOn with
    | nil => exact absurd h List.not_mem_nil
    | append_singleton entries e ih =>
      by_cases hkey : key = e.1
      · exact ⟨e.2, isLast_concat_iff.mpr (.inl (Prod.ext hkey rfl))⟩
      · rw [List.map_append, List.mem_append, List.map_singleton, List.mem_singleton] at h
        obtain ⟨value, hlast⟩ := ih (h.resolve_right hkey)
        exact ⟨value, isLast_concat_iff.mpr (.inr ⟨hkey, hlast⟩)⟩

theorem IsOrdered.lookup_eq (h : IsOrdered m) (he : (key, value) ∈ m) :
    m.lookup key = some value := by
  obtain ⟨before, after, rfl⟩ := List.append_of_mem he
  refine List.lookup_eq_some_iff.mpr ⟨before, after, rfl, fun e hmem => ?_⟩
  rw [bne_iff_ne]
  exact ((List.pairwise_append.mp h).2.2 e hmem _ List.mem_cons_self).ne'

theorem mem_ofList_iff (entries : List (String × α)) (key : String) (value : α) :
    (key, value) ∈ ofList entries ↔ IsLast entries key value := by
  induction entries using List.reverseRecOn with
  | nil => simp [IsLast, ofList_nil]
  | append_singleton entries e ih =>
    rw [ofList_concat, mem_insert_iff (isOrdered_ofList entries), ih, isLast_concat_iff]

theorem mem_keys_ofList : key ∈ (ofList entries).map Prod.fst ↔ key ∈ entries.map Prod.fst := by
  rw [← @exists_isLast_iff α key entries, List.mem_map]
  constructor
  · rintro ⟨e, he, rfl⟩
    exact ⟨e.2, (mem_ofList_iff entries e.1 e.2).mp he⟩
  · rintro ⟨value, h⟩
    exact ⟨(key, value), (mem_ofList_iff entries key value).mpr h, rfl⟩

theorem ofList_eq_self (h : IsOrdered m) : ofList m = m := by
  induction m using List.reverseRecOn with
  | nil => rfl
  | append_singleton m e ih =>
    obtain ⟨hm, -, hlast⟩ := List.pairwise_append.mp h
    rw [ofList_concat, ih hm]
    exact insert_eq_append (fun d hd => hlast d hd e (List.mem_singleton.mpr rfl)) e.2

theorem ofList_map (f : α → β) (entries : List (String × α)) :
    ofList (entries.map (Prod.map id f)) = (ofList entries).map (Prod.map id f) := by
  induction entries using List.reverseRecOn with
  | nil => rfl
  | append_singleton entries e ih =>
    rw [List.map_append, List.map_singleton, ofList_concat, ofList_concat, ih, insert_map]
    rfl

end ConsoleNav.Keyed
