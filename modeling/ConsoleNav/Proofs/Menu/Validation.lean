import ConsoleNav.Menu.Violation
import ConsoleNav.Proofs.Keys
import ConsoleNav.Proofs.Menu.Preorder
import Mathlib.Data.List.Count
import Mathlib.Data.List.Infix
import Mathlib.Data.List.Induction
import Mathlib.Tactic.Tauto

/-!
What is reported of a menu that breaks the rules of its shape. Each entry is judged in its place, by the
entries that a walk has visited before it and by the entry that holds it, and nothing is reported of a
menu if and only if it is well-formed. In a well-formed menu every entry is found under its id.
-/
namespace ConsoleNav.Menu

section Before

variable {α β γ : Type}

/-- What `f` gives for the members of a list one after the other, when it knows those before each. -/
def flatMapBefore (f : List α → α → List β) (xs : List α) : List β :=
  (xs.inits.zip xs).flatMap fun x => f x.1 x.2

theorem flatMapBefore_nil (f : List α → α → List β) : flatMapBefore f [] = [] := rfl

theorem flatMapBefore_cons (f : List α → α → List β) (x : α) (xs : List α) :
    flatMapBefore f (x :: xs) = f [] x ++ flatMapBefore (fun before => f (x :: before)) xs := by
  rw [flatMapBefore, List.inits_cons, List.zip_cons_cons, List.flatMap_cons, List.zip_map_left,
    List.flatMap_map]
  rfl

theorem flatMapBefore_append (f : List α → α → List β) (xs ys : List α) :
    flatMapBefore f (xs ++ ys) =
      flatMapBefore f xs ++ flatMapBefore (fun before => f (xs ++ before)) ys := by
  induction xs generalizing f with
  | nil => rfl
  | cons x xs ih =>
      rw [List.cons_append, flatMapBefore_cons, flatMapBefore_cons, ih, List.append_assoc]
      rfl

theorem flatMapBefore_concat (f : List α → α → List β) (xs : List α) (x : α) :
    flatMapBefore f (xs ++ [x]) = flatMapBefore f xs ++ f xs x := by
  rw [flatMapBefore_append, flatMapBefore_cons, flatMapBefore_nil, List.append_nil, List.append_nil]

theorem flatMapBefore_map (f : List β → β → List γ) (g : α → β) (xs : List α) :
    flatMapBefore f (xs.map g) = flatMapBefore (fun before x => f (before.map g) (g x)) xs := by
  induction xs generalizing f with
  | nil => rfl
  | cons x xs ih =>
      rw [List.map_cons, flatMapBefore_cons, flatMapBefore_cons, ih]
      rfl

end Before

/-- What is wrong with an entry that a walk visits after entries with the ids `earlier`, where it is held
by an entry with the id `holder` or by none. -/
def Entry.faults (earlier : List String) (holder : Option String) (e : Entry) : List Violation :=
  (if e.id = "" then [.emptyId e.name]
    else if e.id ∈ earlier then [.duplicateId e.id] else []) ++
  if e.parent = holder then [] else [.parentMismatch e.id holder e.parent]

def Placed.faults (before : List Placed) (p : Placed) : List Violation :=
  p.entry.faults (before.map fun q => q.entry.id) p.holder

structure IsWellFormed (menu : List Entry) : Prop where
  named : ∀ e ∈ entries menu, e.id ≠ ""
  distinct : (ids menu).Nodup
  roots : ∀ e ∈ menu, e.parent = none
  held : ∀ e ∈ entries menu, ∀ child ∈ e.children, child.parent = some e.id

variable {menu : List Entry} {id : String} {e : Entry}

/-! ### The check follows the walk -/

section Check

variable {seen earlier : List String} {holder : Option String}

/-- The ids that a check has seen are those of earlier entries, but for empty ones. -/
def Remembers (seen earlier : List String) : Prop :=
  ∀ id, id ∈ seen ↔ id ≠ "" ∧ id ∈ earlier

theorem own_faults (h : Remembers seen earlier) (e : Entry) :
    idViolations seen e ++ parentViolations holder e = e.faults earlier holder := by
  unfold idViolations parentViolations Entry.faults
  congr 1
  by_cases hempty : e.id = ""
  · simp [hempty]
  · simp [hempty, h e.id]

theorem mem_seenAfter_iff : id ∈ seenAfter seen e ↔ id ∈ seen ∨ id ≠ "" ∧ id = e.id := by
  unfold seenAfter
  split
  · rename_i hold
    rw [Bool.or_eq_true, String.isEmpty_iff, List.contains_iff_mem] at hold
    constructor
    · exact .inl
    · rintro (hid | ⟨hempty, rfl⟩)
      · exact hid
      · exact hold.resolve_left hempty
  · rename_i hnew
    rw [Bool.or_eq_true, String.isEmpty_iff, not_or] at hnew
    rw [List.mem_cons]
    constructor
    · rintro (rfl | hid)
      · exact .inr ⟨hnew.1, rfl⟩
      · exact .inl hid
    · rintro (hid | ⟨-, rfl⟩)
      · exact .inr hid
      · exact .inl rfl

theorem Remembers.seenAfter (h : Remembers seen earlier) (e : Entry) :
    Remembers (seenAfter seen e) (earlier ++ [e.id]) := by
  intro id
  rw [mem_seenAfter_iff, h id, List.mem_append, List.mem_singleton]
  tauto

/-- Below the entry that holds them, and after it, entries are judged as in a menu of their own. -/
theorem faults_within (index : Nat) (e : Entry) (before : List Placed) (p : Placed) :
    ((p.within e).at index).entry.faults
        (earlier ++ (⟨[index], [], e⟩ :: before.map fun q => (q.within e).at index).map
          fun q => q.entry.id)
        (((p.within e).at index).holder.or holder) =
      p.entry.faults ((earlier ++ [e.id]) ++ before.map fun q => q.entry.id)
        (p.holder.or (some e.id)) := by
  rw [Placed.holder_within, Option.or_assoc, Option.some_or, List.map_cons, List.map_map,
    List.append_assoc]
  rfl

theorem check_faults (holder : Option String) (index : Nat) (menu : List Entry)
    (h : Remembers seen earlier) :
    (check holder seen menu).1 =
        flatMapBefore (fun before p =>
          p.entry.faults (earlier ++ before.map fun q => q.entry.id) (p.holder.or holder))
          (preorderFrom index menu) ∧
      Remembers (check holder seen menu).2 (earlier ++ ids menu) := by
  induction menu using forest_induction generalizing index holder seen earlier with
  | nil =>
      refine ⟨rfl, ?_⟩
      rw [show ids [] = [] from rfl, List.append_nil]
      exact h
  | cons e es ihChildren ihRest =>
      obtain ⟨hbelow, hmiddle⟩ := ihChildren (some e.id) 0 (h.seenAfter e)
      obtain ⟨hrest, hend⟩ := ihRest holder (index + 1) hmiddle
      simp only [check, Entry.check_eq]
      constructor
      · rw [preorderFrom_cons, flatMapBefore_append, flatMapBefore_cons, flatMapBefore_map,
          own_faults h, hbelow, hrest]
        simp only [faults_within]
        congr 1
        · simp [Placed.holder]
        · simp only [List.map_append, List.map_cons, List.map_map, List.append_assoc]
          rw [← map_id_preorderFrom 0 e.children]
          rfl
      · rw [ids_cons]
        simpa only [List.append_assoc, List.nil_append, List.cons_append] using hend

theorem violations_eq (menu : List Entry) :
    violations menu = flatMapBefore Placed.faults (preorder menu) := by
  have hnone : Remembers [] [] := fun id => by simp
  rw [violations, (check_faults none 0 menu hnone).1]
  simp only [List.nil_append, Option.or_none]
  rfl

end Check

/-! ### Menus without faults -/

theorem Placed.faults_eq_nil_iff {before : List Placed} {p : Placed} :
    p.faults before = [] ↔
      p.entry.id ≠ "" ∧ p.entry.id ∉ before.map (fun q => q.entry.id) ∧ p.entry.parent = p.holder := by
  unfold Placed.faults Entry.faults
  by_cases hempty : p.entry.id = ""
  · simp [hempty]
  · by_cases hearlier : p.entry.id ∈ before.map fun q => q.entry.id
    · simp [hempty, hearlier]
    · simp [hempty, hearlier]

theorem flatMapBefore_faults_eq_nil_iff (ps : List Placed) :
    flatMapBefore Placed.faults ps = [] ↔
      (∀ p ∈ ps, p.entry.id ≠ "") ∧ (ps.map fun p => p.entry.id).Nodup ∧
        ∀ p ∈ ps, p.entry.parent = p.holder := by
  induction ps using List.reverseRecOn with
  | nil => simp [flatMapBefore_nil]
  | append_singleton ps p ih =>
      rw [flatMapBefore_concat, List.append_eq_nil_iff, ih, Placed.faults_eq_nil_iff,
        List.forall_mem_append, List.forall_mem_append, List.forall_mem_singleton,
        List.forall_mem_singleton, List.map_append, List.map_singleton, ← List.concat_eq_append,
        List.nodup_concat]
      tauto

/-- Below an entry, or at the top, every entry names the one that holds it. -/
theorem forall_holder_iff (index : Nat) (holder : Option String) (menu : List Entry) :
    (∀ p ∈ preorderFrom index menu, p.entry.parent = p.holder.or holder) ↔
      (∀ e ∈ menu, e.parent = holder) ∧
        ∀ e ∈ entries menu, ∀ child ∈ e.children, child.parent = some e.id := by
  induction menu using forest_induction generalizing index holder with
  | nil => simp [preorderFrom, entries, walk, visitsFrom]
  | cons e es ihChildren ihRest =>
      have hbelow := ihChildren 0 (some e.id)
      have hrest := ihRest (index + 1) holder
      have hself : (Placed.holder ⟨[index], [], e⟩).or holder = holder := rfl
      simp only [preorderFrom_cons, List.forall_mem_append, List.forall_mem_cons, List.forall_mem_map,
        Placed.holder_within, Option.or_assoc, Option.some_or, entries_cons, hself, hrest]
      -- What `e` itself asks of its children is the part on the top of the menu below it.
      have hinner : (∀ p ∈ preorderFrom 0 e.children,
            ((p.within e).at index).entry.parent = p.holder.or (some e.id)) ↔ _ := hbelow
      rw [hinner]
      tauto

theorem isWellFormed_iff :
    IsWellFormed menu ↔
      (∀ p ∈ preorder menu, p.entry.id ≠ "") ∧ ((preorder menu).map fun p => p.entry.id).Nodup ∧
        ∀ p ∈ preorder menu, p.entry.parent = p.holder := by
  have hnamed : (∀ p ∈ preorder menu, p.entry.id ≠ "") ↔ ∀ e ∈ entries menu, e.id ≠ "" := by
    rw [← map_entry_preorderFrom 0 menu, List.forall_mem_map]
    rfl
  have hholder := forall_holder_iff 0 none menu
  simp only [Option.or_none] at hholder
  rw [hnamed, preorder, map_id_preorderFrom, hholder]
  constructor
  · rintro ⟨named, distinct, roots, held⟩
    exact ⟨named, distinct, roots, held⟩
  · rintro ⟨named, distinct, roots, held⟩
    exact ⟨named, distinct, roots, held⟩

theorem isValid_iff : isValid menu = true ↔ IsWellFormed menu := by
  rw [isValid, List.isEmpty_iff, violations_eq, flatMapBefore_faults_eq_nil_iff, isWellFormed_iff]

/-- Every entry is found under its id, with all that lies below it. -/
theorem find?_of_mem_entries (h : isValid menu) (he : e ∈ entries menu) :
    find? e.id menu = some e := by
  rw [find?_eq]
  exact find?_of_nodup (isValid_iff.mp h).distinct he

theorem isSome_find?_iff_count (h : isValid menu) (id : String) :
    (find? id menu).isSome ↔ (ids menu).count id = 1 := by
  rw [isSome_find?_iff]
  constructor
  · intro hmem
    exact List.count_eq_one_of_mem (isValid_iff.mp h).distinct hmem
  · intro hcount
    apply List.count_pos_iff.mp
    omega

/-! ### Repeated ids -/

theorem Placed.count_faults (before : List Placed) (p : Placed) (id : String) :
    (p.faults before).count (.duplicateId id) =
      if id ≠ "" ∧ p.entry.id = id ∧ id ∈ before.map (fun q => q.entry.id) then 1 else 0 := by
  unfold Placed.faults Entry.faults
  have hparent : ∀ found : Option String, (if p.entry.parent = found then []
      else [Violation.parentMismatch p.entry.id found p.entry.parent]).count (.duplicateId id) = 0 := by
    intro found
    split <;> rfl
  rw [List.count_append, hparent, Nat.add_zero]
  by_cases hempty : p.entry.id = ""
  · rw [if_pos hempty, if_neg]
    · rfl
    · rintro ⟨hid, rfl, -⟩
      exact hid hempty
  · rw [if_neg hempty]
    by_cases hid : p.entry.id = id
    · subst hid
      by_cases hearlier : p.entry.id ∈ before.map fun q => q.entry.id
      · rw [if_pos hearlier, if_pos ⟨hempty, rfl, hearlier⟩]
        exact List.count_singleton_self
      · rw [if_neg hearlier, if_neg fun h => hearlier h.2.2]
        rfl
    · have hother : ¬(id ≠ "" ∧ p.entry.id = id ∧ id ∈ before.map fun q => q.entry.id) :=
        fun h => hid h.2.1
      rw [if_neg hother]
      apply List.count_eq_zero.mpr
      split <;> simp [Ne.symm hid]

/-- Of an id that several entries have, all but the first one are reported. -/
theorem count_duplicateId (ps : List Placed) (id : String) :
    (flatMapBefore Placed.faults ps).count (.duplicateId id) =
      if id = "" then 0 else (ps.map fun p => p.entry.id).count id - 1 := by
  induction ps using List.reverseRecOn with
  | nil => simp [flatMapBefore_nil]
  | append_singleton ps p ih =>
      rw [flatMapBefore_concat, List.count_append, ih, Placed.count_faults, List.map_append,
        List.count_append, List.map_singleton, List.count_singleton]
      by_cases hempty : id = ""
      · simp [hempty]
      · by_cases hid : p.entry.id = id
        · have hearlier := List.count_pos_iff (a := id) (l := ps.map fun q => q.entry.id)
          by_cases hmem : id ∈ ps.map fun q => q.entry.id
          · have hpos := hearlier.mpr hmem
            rw [if_neg hempty, if_pos ⟨hempty, hid, hmem⟩, if_neg hempty, if_pos (by simpa using hid)]
            omega
          · have hzero := List.count_eq_zero.mpr hmem
            rw [if_neg hempty, if_neg fun h => hmem h.2.2, if_neg hempty, hzero]
            split <;> rfl
        · rw [if_neg hempty, if_neg fun h => hid h.2.1, if_neg hempty, if_neg (by simpa using hid)]
          rfl

/-- Validation is sound, complete and exact. -/
theorem validation_exact (menu : List Entry) :
    (isValid menu = true ↔ IsWellFormed menu) ∧
    (∀ p, p ∈ preorder menu ↔ p.IsIn menu) ∧
    (preorder menu).map Placed.visit = walk menu ∧
    violations menu = flatMapBefore Placed.faults (preorder menu) ∧
    ∀ id, (violations menu).count (.duplicateId id) =
      if id = "" then 0 else (ids menu).count id - 1 := by
  refine ⟨isValid_iff, fun p => mem_preorder_iff, map_visit_preorder menu, violations_eq menu, ?_⟩
  intro id
  rw [violations_eq, count_duplicateId, preorder, map_id_preorderFrom]

end ConsoleNav.Menu
