import ConsoleNav.Proofs.Route.Postorder
import ConsoleNav.Route.Wire

/-!
The records of a table by their positions. Resolving the views on the way to a position resolves those at
the positions on this way and no others, and it changes nothing else.
-/
namespace ConsoleNav.Route

/-- The record at a position within a record; the record itself is at the empty position. -/
def Record.at? : Position → Record → Option Record
  | [], r => some r
  | i :: position, r => r.children[i]?.bind (Record.at? position)

def recordAt? : Position → List Record → Option Record
  | [], _ => none
  | i :: position, rs => rs[i]?.bind (Record.at? position)

/-- The view of the record at a position within a record has been located. -/
def Record.IsResolvedAt (position : Position) (r : Record) : Prop :=
  ∃ found, r.at? position = some found ∧ found.view.resolved = true

def IsResolvedAt (position : Position) (rs : List Record) : Prop :=
  ∃ found, recordAt? position rs = some found ∧ found.view.resolved = true

/-- The positions of the records that are passed on the way to a position, which is the last one of
them. -/
def Position.way : Position → List Position
  | [] => []
  | i :: position => [i] :: (Position.way position).map (i :: ·)

variable {p q : Position} {rs : List Record}

@[simp] theorem recordAt?_nil (rs : List Record) : recordAt? [] rs = none := rfl

theorem recordAt?_cons (i : Nat) (p : Position) (rs : List Record) :
    recordAt? (i :: p) rs = rs[i]?.bind (Record.at? p) := rfl

theorem Record.at?_cons (i : Nat) (p : Position) (r : Record) :
    r.at? (i :: p) = recordAt? (i :: p) r.children := rfl

theorem mem_way_iff : q ∈ p.way ↔ q ≠ [] ∧ q <+: p := by
  induction p generalizing q with
  | nil =>
    rw [Position.way, List.prefix_nil]
    exact ⟨fun h => absurd h List.not_mem_nil, fun h => absurd h.2 h.1⟩
  | cons i p ih =>
    rw [Position.way, List.mem_cons, List.mem_map]
    constructor
    · rintro (rfl | ⟨other, hother, rfl⟩)
      · exact ⟨List.cons_ne_nil _ _, List.prefix_append [i] p⟩
      · exact ⟨List.cons_ne_nil _ _, (List.cons_prefix_cons.mpr ⟨rfl, (ih.mp hother).2⟩)⟩
    · rintro ⟨hnonempty, hprefix⟩
      obtain ⟨j, other, rfl⟩ := List.exists_cons_of_ne_nil hnonempty
      obtain ⟨rfl, hother⟩ := List.cons_prefix_cons.mp hprefix
      by_cases hend : other = []
      · exact .inl (by rw [hend])
      · exact .inr ⟨other, ih.mpr ⟨hend, hother⟩, rfl⟩

/-! ### The records on the way to a record -/

/-- On the way to a record are those around it, from the outside inwards, and the record itself. -/
theorem Placed.IsIn.map_way {placed : Placed} (h : placed.IsIn rs) :
    placed.position.way.map (recordAt? · rs) = placed.chain.map some := by
  induction h with
  | @top rs i r here => simp [Position.way, recordAt?_cons, here, Record.at?, Placed.chain]
  | @inner rs i r p here within ih =>
    have hbelow : p.position.way.map (fun q => recordAt? (i :: q) rs) = p.chain.map some := by
      rw [← ih]
      apply List.map_congr_left
      intro q hq
      obtain ⟨j, q, rfl⟩ := List.exists_cons_of_ne_nil (mem_way_iff.mp hq).1
      rw [recordAt?_cons, here, Option.bind_some, Record.at?_cons]
    show (Position.way (i :: p.position)).map (recordAt? · rs) = ((r :: p.outer) ++ [p.leaf]).map some
    rw [Position.way, List.map_cons, List.map_map, recordAt?_cons, here]
    exact congrArg (some r :: ·) hbelow

theorem Table.hit?_isIn {t : Table} {path : String} {hit : Hit} (h : t.hit? path = some hit) :
    (⟨hit.position, hit.outer, hit.leaf⟩ : Placed).IsIn t.records := by
  rw [t.hit?_eq] at h
  obtain ⟨placed, hplaced, hhit⟩ := List.exists_of_findSome?_eq_some h
  obtain ⟨captures, -, rfl⟩ := Option.map_eq_some_iff.mp hhit
  exact mem_postorder_iff.mp hplaced

theorem Table.map_way_hit? {t : Table} {path : String} {hit : Hit} (h : t.hit? path = some hit) :
    hit.position.way.map (recordAt? · t.records) = (hit.outer ++ [hit.leaf]).map some :=
  (Table.hit?_isIn h).map_way

/-- There is a record at each position on the way to the record for a path. -/
theorem Table.isSome_of_mem_way {t : Table} {path : String} {hit : Hit} (h : t.hit? path = some hit)
    (hq : q ∈ hit.position.way) : (recordAt? q t.records).isSome := by
  have hmem : recordAt? q t.records ∈ (hit.outer ++ [hit.leaf]).map some := by
    rw [← Table.map_way_hit? h]
    exact List.mem_map_of_mem (f := (recordAt? · t.records)) hq
  obtain ⟨r, -, hr⟩ := List.mem_map.mp hmem
  rw [← hr]
  rfl

/-! ### Resolving views -/

theorem not_isResolvedAt_nil (rs : List Record) : ¬ IsResolvedAt [] rs := by
  rintro ⟨r, hr, -⟩
  cases hr

theorem Record.isResolvedAt_nil_iff {r : Record} : r.IsResolvedAt [] ↔ r.view.resolved = true := by
  simp [IsResolvedAt, Record.at?]

theorem isResolvedAt_cons_iff {j : Nat} :
    IsResolvedAt (j :: q) rs ↔ ∃ r, rs[j]? = some r ∧ r.IsResolvedAt q := by
  simp only [IsResolvedAt, Record.IsResolvedAt, recordAt?_cons, Option.bind_eq_some_iff]
  constructor
  · rintro ⟨found, ⟨r, hr, hfound⟩, hresolved⟩
    exact ⟨r, hr, found, hfound, hresolved⟩
  · rintro ⟨r, hr, found, hfound, hresolved⟩
    exact ⟨found, ⟨r, hr, hfound⟩, hresolved⟩

/-- Resolving views at some positions within one of several records does so within all of them. -/
theorem isResolvedAt_modify_iff {f : Record → Record} {P : Position → Prop}
    (h : ∀ r q, (f r).IsResolvedAt q ↔ r.IsResolvedAt q ∨ P q ∧ (r.at? q).isSome) (i j : Nat)
    (q : Position) (rs : List Record) :
    IsResolvedAt (j :: q) (rs.modify i f) ↔
      IsResolvedAt (j :: q) rs ∨ (j = i ∧ P q) ∧ (recordAt? (j :: q) rs).isSome := by
  rw [isResolvedAt_cons_iff, isResolvedAt_cons_iff, recordAt?_cons, List.getElem?_modify]
  cases rs[j]? with
  | none => simp
  | some r =>
    by_cases hij : i = j
    · simp [hij, h]
    · simp [hij, Ne.symm hij]

theorem mem_way_cons_iff {i j : Nat} :
    j :: q ∈ Position.way (i :: p) ↔ j = i ∧ (q = [] ∨ q ∈ p.way) := by
  rw [Position.way, List.mem_cons, List.mem_map]
  constructor
  · rintro (hhere | ⟨other, hother, heq⟩)
    · cases hhere
      exact ⟨rfl, .inl rfl⟩
    · cases heq
      exact ⟨rfl, .inr hother⟩
  · rintro ⟨rfl, rfl | hq⟩
    · exact .inl rfl
    · exact .inr ⟨q, hq, rfl⟩

/-- Besides the views resolved before, exactly those on the way to the position are. -/
theorem isResolvedAt_resolveAlong_iff :
    IsResolvedAt q (resolveAlong p rs) ↔
      IsResolvedAt q rs ∨ q ∈ p.way ∧ (recordAt? q rs).isSome := by
  induction p generalizing q rs with
  | nil => exact ⟨.inl, fun h => h.resolve_right fun hway => List.not_mem_nil hway.1⟩
  | cons i p ih =>
    rcases q with _ | ⟨j, q⟩
    · simp [not_isResolvedAt_nil]
    · rw [resolveAlong, mem_way_cons_iff]
      refine isResolvedAt_modify_iff (P := fun q => q = [] ∨ q ∈ Position.way p) ?_ i j q rs
      intro r q
      rcases q with _ | ⟨k, q⟩
      · exact ⟨fun _ => .inr ⟨.inl rfl, rfl⟩, fun _ => Record.isResolvedAt_nil_iff.mpr rfl⟩
      · refine (ih (q := k :: q)).trans (or_congr_right (and_congr_left' ?_))
        exact ⟨.inr, fun h => h.resolve_left (List.cons_ne_nil k q)⟩

/-- Besides the views resolved before, exactly the one at the position is. -/
theorem isResolvedAt_resolveAt_iff :
    IsResolvedAt q (resolveAt p rs) ↔ IsResolvedAt q rs ∨ q = p ∧ (recordAt? q rs).isSome := by
  induction p generalizing q rs with
  | nil =>
    refine ⟨.inl, fun h => h.resolve_right ?_⟩
    rintro ⟨rfl, hnone⟩
    cases hnone
  | cons i p ih =>
    rcases q with _ | ⟨j, q⟩
    · simp [not_isResolvedAt_nil]
    · rw [List.cons.injEq]
      rcases p with _ | ⟨k, p⟩
      · refine isResolvedAt_modify_iff (P := fun q => q = []) ?_ i j q rs
        intro r q
        rcases q with _ | ⟨l, q⟩
        · exact ⟨fun _ => .inr ⟨rfl, rfl⟩, fun _ => Record.isResolvedAt_nil_iff.mpr rfl⟩
        · exact ⟨.inl, fun h => h.resolve_right fun hend => List.cons_ne_nil l q hend.1⟩
      · refine isResolvedAt_modify_iff (P := fun q => q = k :: p) ?_ i j q rs
        intro r q
        rcases q with _ | ⟨l, q⟩
        · rw [Record.isResolvedAt_nil_iff, Record.isResolvedAt_nil_iff]
          exact ⟨.inl, fun h => h.resolve_right fun hend => List.cons_ne_nil k p hend.1.symm⟩
        · exact ih (q := l :: q)

end ConsoleNav.Route
