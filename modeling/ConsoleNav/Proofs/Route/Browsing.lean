import ConsoleNav.Proofs.Route.Erasure

/-!
Uses of a table one after the other. Views are located along the ways to the records that paths have been
resolved to, and where single views have been asked for, and nowhere else. That they are is not to be seen
from any answer: each one is the answer of a table in which no view is located.
-/
namespace ConsoleNav.Route

inductive Step where
  | resolve (path : String)
  | find (name : String)
  | filter (kind : FilterKind) (permissions : List Permission)
  | list
  /-- Resolve the view of the first record with a name. -/
  | viewNamed (name : String)
  /-- Resolve the view of the record at a position. -/
  | viewAt (position : Position)

inductive Answer where
  | navigated (result : Except NotFound RouteMatch)
  | found (r : Option Record)
  /-- A filtered copy of the table, and whether the copy counts as equal to the table. -/
  | kept (copy : List Record) (isSame : Bool)
  | listed (json : String)
  | viewed (v : Option ResolvedView)

def Table.viewAt (t : Table) (position : Position) : Answer × Table :=
  match recordAt? position t.records with
  | some r => (.viewed (some r.view.located), ⟨resolveAt position t.records⟩)
  | none => (.viewed none, t)

def Table.step (t : Table) : Step → Answer × Table
  | .resolve path => ((.navigated (t.resolve path).1), (t.resolve path).2)
  | .find name => (.found (t.find? name), t)
  | .filter kind permissions =>
    let copy := kind.apply permissions t.records
    (.kept copy (same copy t.records), t)
  | .list => (.listed (Json.Wire.encode t.records), t)
  | .viewNamed name =>
    match t.resolveView? name with
    | some (v, t) => (.viewed (some v), t)
    | none => (.viewed none, t)
  | .viewAt position => t.viewAt position

/-- The positions of the records whose views a step makes use of. -/
def Step.addressed (t : Table) : Step → List Position
  | .resolve path =>
    match t.hit? path with
    | some hit => hit.position.way
    | none => []
  | .viewNamed name => (positionOf? name 0 t.records).toList
  | .viewAt position => if (recordAt? position t.records).isSome then [position] else []
  | .find _ | .filter _ _ | .list => []

/-- An answer in which no view is located. -/
def Answer.unresolved : Answer → Answer
  | .found r => .found (r.map Record.unresolved)
  | .kept copy isSame => .kept (Route.unresolved copy) isSame
  | answer => answer

def Answer.copy? : Answer → Option (List Record)
  | .kept copy _ => some copy
  | _ => none

/-- The records of a table at some positions are those that an answer speaks of, and the view it gives is
the one of the last of them. -/
def Answer.SpeaksOf (t : Table) (positions : List Position) : Answer → Prop
  | .navigated (.ok m) =>
    positions.map (fun p => (recordAt? p t.records).map Record.matched) = m.matched.map some ∧
      ∃ leaf, m.matched.getLast? = some leaf ∧
        m.view = ⟨leaf.component, "/assets/views/" ++ leaf.component ++ ".js"⟩
  | .viewed (some v) =>
    ∃ p r, positions = [p] ∧ recordAt? p t.records = some r ∧
      v = ⟨r.view.component, "/assets/views/" ++ r.view.component ++ ".js"⟩
  | _ => positions = []

/-- A table and the filtered copies that have been made of it. -/
structure Browsing where
  table : Table
  copies : List (List Record) := []

namespace Browsing

def step (b : Browsing) (s : Step) : Answer × Browsing :=
  ((b.table.step s).1,
    { table := (b.table.step s).2, copies := b.copies ++ (b.table.step s).1.copy?.toList })

def after (b : Browsing) (steps : List Step) : Browsing :=
  steps.foldl (fun b s => (b.step s).2) b

end Browsing

variable {t : Table} {p : Position}

/-! ### Single views -/

theorem Table.resolveView?_eq (t : Table) (name : String) :
    t.resolveView? name =
      (positionOf? name 0 t.records).bind fun position =>
        (recordAt? position t.records).map fun r =>
          (r.view.located, ⟨resolveAt position t.records⟩) := by
  rw [Table.resolveView?, Table.find?]
  rcases find?_eq_recordAt? name 0 t.records with
    ⟨hposition, hfind⟩ | ⟨i, q, hposition, hfind, hsome⟩
  · rw [hposition, hfind]
    rfl
  · obtain ⟨r, hr⟩ := Option.isSome_iff_exists.mp hsome
    rw [hposition, hr, Option.bind_some, Nat.zero_add, ← hfind, hr]
    rfl

/-- To ask for the view of the first record with a name is to ask for the one at its position. -/
theorem Table.step_viewNamed (t : Table) (name : String) :
    (positionOf? name 0 t.records = none ∧ t.step (.viewNamed name) = (.viewed none, t)) ∨
      ∃ position r, positionOf? name 0 t.records = some position ∧
        recordAt? position t.records = some r ∧ t.step (.viewNamed name) = t.viewAt position := by
  rw [Table.step, Table.resolveView?_eq]
  rcases find?_eq_recordAt? name 0 t.records with
    ⟨hposition, -⟩ | ⟨i, q, hposition, hfind, hsome⟩
  · rw [hposition]
    exact .inl ⟨rfl, rfl⟩
  · obtain ⟨r, hr⟩ := Option.isSome_iff_exists.mp hsome
    rw [hfind] at hr
    rw [hposition, Nat.zero_add]
    refine .inr ⟨i :: q, r, rfl, hr, ?_⟩
    rw [Option.bind_some, Table.viewAt, hr]
    rfl

/-! ### One step -/

theorem Table.unresolved_step (t : Table) (s : Step) : (t.step s).2.unresolved = t.unresolved := by
  have hview (position : Position) : (t.viewAt position).2.unresolved = t.unresolved := by
    rw [Table.viewAt]
    cases recordAt? position t.records with
    | none => rfl
    | some r => exact congrArg Table.mk (unresolved_resolveAt position t.records)
  cases s with
  | resolve path =>
    rw [Table.step, Table.resolve]
    cases t.hit? path with
    | none => rfl
    | some hit => exact congrArg Table.mk (unresolved_resolveAlong hit.position t.records)
  | viewNamed name =>
    rcases t.step_viewNamed name with ⟨-, hstep⟩ | ⟨position, r, -, -, hstep⟩
    · rw [hstep]
    · rw [hstep, hview]
  | viewAt position => exact hview position
  | find | filter | list => rfl

theorem Step.addressed_unresolved (t : Table) (s : Step) :
    s.addressed t.unresolved = s.addressed t := by
  cases s with
  | resolve path =>
    rw [Step.addressed, Step.addressed, Table.hit?_unresolved]
    cases t.hit? path <;> rfl
  | viewNamed name => exact congrArg Option.toList (positionOf?_unresolved name 0 t.records)
  | viewAt position =>
    have hsome : (recordAt? position t.unresolved.records).isSome =
        (recordAt? position t.records).isSome := by
      rw [Table.unresolved, recordAt?_unresolved, Option.isSome_map]
    rw [Step.addressed, Step.addressed, hsome]
  | find | filter | list => rfl

/-- Exactly the views that a step makes use of are located in it. -/
theorem Table.isResolvedAt_step_iff (t : Table) (s : Step) (p : Position) :
    IsResolvedAt p (t.step s).2.records ↔ IsResolvedAt p t.records ∨ p ∈ s.addressed t := by
  have hnone : IsResolvedAt p t.records ↔ IsResolvedAt p t.records ∨ p ∈ ([] : List Position) :=
    ⟨.inl, fun h => h.resolve_right List.not_mem_nil⟩
  have hview (position : Position) (r : Record) (hr : recordAt? position t.records = some r) :
      IsResolvedAt p (t.viewAt position).2.records ↔
        IsResolvedAt p t.records ∨ p ∈ [position] := by
    rw [Table.viewAt, hr, List.mem_singleton]
    refine isResolvedAt_resolveAt_iff.trans (or_congr_right (and_iff_left_of_imp ?_))
    rintro rfl
    rw [hr]
    rfl
  cases s with
  | resolve path =>
    rw [Table.step, Table.resolve, Step.addressed]
    cases hhit : t.hit? path with
    | none => exact hnone
    | some hit =>
      refine isResolvedAt_resolveAlong_iff.trans (or_congr_right (and_iff_left_of_imp ?_))
      exact Table.isSome_of_mem_way hhit
  | viewNamed name =>
    rcases t.step_viewNamed name with ⟨hposition, hstep⟩ | ⟨position, r, hposition, hr, hstep⟩
    · rw [hstep, Step.addressed, hposition]
      exact hnone
    · rw [hstep, Step.addressed, hposition]
      exact hview position r hr
  | viewAt position =>
    rw [Step.addressed]
    cases hr : recordAt? position t.records with
    | none =>
      rw [Table.step, Table.viewAt, hr]
      exact hnone
    | some r => exact hview position r hr
  | find | filter | list => exact hnone

/-- A step answers as if no view had been located before it. -/
theorem Table.answer_unresolved (t : Table) (s : Step) :
    (t.step s).1.unresolved = (t.unresolved.step s).1 := by
  have hview (position : Position) :
      (t.viewAt position).1.unresolved = (t.unresolved.viewAt position).1 := by
    rw [Table.viewAt, Table.viewAt, Table.unresolved, recordAt?_unresolved]
    cases recordAt? position t.records with
    | none => rfl
    | some r => exact congrArg (Answer.viewed ∘ some) r.unresolved_located.symm
  cases s with
  | resolve path =>
    rw [Table.step, Table.step, Table.resolve_fst, Table.resolve_fst, Table.hit?_unresolved]
    cases t.hit? path with
    | none => rfl
    | some hit => exact congrArg (Answer.navigated ∘ .ok) (hit.toMatch_unresolved path).symm
  | find name => exact congrArg Answer.found (find?_unresolved name t.records).symm
  | filter kind permissions =>
    have hcopy := apply_unresolved kind permissions t.records
    have hsame := same_unresolved (kind.apply permissions t.records) t.records
    rw [← hcopy] at hsame
    exact congrArg₂ Answer.kept hcopy.symm hsame.symm
  | list => exact congrArg Answer.listed (encode_unresolved t.records).symm
  | viewNamed name =>
    have hposition : positionOf? name 0 t.unresolved.records = positionOf? name 0 t.records :=
      positionOf?_unresolved name 0 t.records
    rcases t.step_viewNamed name with ⟨hnone, hstep⟩ | ⟨position, r, hsome, -, hstep⟩
    · rcases t.unresolved.step_viewNamed name with ⟨-, hfresh⟩ | ⟨position, r, hsome, -, -⟩
      · rw [hstep, hfresh]
        rfl
      · rw [hposition, hnone] at hsome
        cases hsome
    · rcases t.unresolved.step_viewNamed name with ⟨hnone, -⟩ | ⟨other, r, hother, -, hfresh⟩
      · rw [hposition, hsome] at hnone
        cases hnone
      · rw [hposition, hsome] at hother
        cases hother
        rw [hstep, hfresh, hview]
  | viewAt position => exact hview position

/-- A step without a match and without a view leaves the table alone. -/
theorem Table.step_unchanged (t : Table) {s : Step}
    (hmatch : ∀ m, (t.step s).1 ≠ .navigated (.ok m)) (hview : ∀ v, (t.step s).1 ≠ .viewed (some v)) :
    (t.step s).2 = t := by
  have hviewAt (position : Position) (h : ∀ v, (t.viewAt position).1 ≠ .viewed (some v)) :
      (t.viewAt position).2 = t := by
    rw [Table.viewAt] at h ⊢
    cases hr : recordAt? position t.records with
    | none => rfl
    | some r =>
      rw [hr] at h
      exact absurd rfl (h _)
  cases s with
  | resolve path =>
    rw [Table.step, Table.resolve] at hmatch ⊢
    cases hhit : t.hit? path with
    | none => rfl
    | some hit =>
      rw [hhit] at hmatch
      exact absurd rfl (hmatch _)
  | viewNamed name =>
    rcases t.step_viewNamed name with ⟨-, hstep⟩ | ⟨position, r, -, -, hstep⟩
    · rw [hstep]
    · rw [hstep] at hview ⊢
      exact hviewAt position hview
  | viewAt position => exact hviewAt position hview
  | find | filter | list => rfl

theorem Answer.speaksOf_unresolved_iff (positions : List Position) (answer : Answer) :
    answer.unresolved.SpeaksOf t positions ↔ answer.SpeaksOf t positions := by
  cases answer <;> exact Iff.rfl

theorem Table.speaksOf_viewAt {r : Record} (hr : recordAt? p t.records = some r) :
    (t.viewAt p).1.SpeaksOf t [p] := by
  rw [Table.viewAt, hr]
  exact ⟨p, r, rfl, hr, rfl⟩

theorem Table.speaksOf_step (t : Table) (s : Step) :
    (t.step s).1.SpeaksOf t (s.addressed t) := by
  cases s with
  | resolve path =>
    rw [Table.step, Table.resolve, Step.addressed]
    cases hhit : t.hit? path with
    | none => rfl
    | some hit =>
      constructor
      · have hway := congrArg (List.map (Option.map Record.matched)) (Table.map_way_hit? hhit)
        rw [List.map_map, List.map_map] at hway
        rw [Hit.toMatch, List.map_map]
        exact hway
      · exact ⟨hit.leaf.matched, by simp [Hit.toMatch], rfl⟩
  | viewNamed name =>
    rcases t.step_viewNamed name with ⟨hposition, hstep⟩ | ⟨position, r, hposition, hr, hstep⟩
    · rw [hstep, Step.addressed, hposition]
      rfl
    · rw [hstep, Step.addressed, hposition]
      exact Table.speaksOf_viewAt hr
  | viewAt position =>
    rw [Step.addressed]
    cases hr : recordAt? position t.records with
    | none =>
      rw [Table.step, Table.viewAt, hr]
      rfl
    | some r => exact Table.speaksOf_viewAt hr
  | find | filter | list => rfl

/-! ### Runs -/

theorem Browsing.unresolved_after (b : Browsing) (steps : List Step) :
    (b.after steps).table.unresolved = b.table.unresolved := by
  induction steps generalizing b with
  | nil => rfl
  | cons s steps ih => exact (ih _).trans (b.table.unresolved_step s)

/-- The located views are those located at the beginning and those that steps have made use of. -/
theorem Browsing.isResolvedAt_after_iff (b : Browsing) (steps : List Step) (p : Position) :
    IsResolvedAt p (b.after steps).table.records ↔
      IsResolvedAt p b.table.records ∨ ∃ s ∈ steps, p ∈ s.addressed b.table.unresolved := by
  induction steps generalizing b with
  | nil => simp [after]
  | cons s steps ih =>
    have hfresh : (b.step s).2.table.unresolved = b.table.unresolved := b.table.unresolved_step s
    refine (ih (b.step s).2).trans ?_
    rw [hfresh, List.exists_mem_cons_iff, Step.addressed_unresolved, ← or_assoc]
    exact or_congr_left (b.table.isResolvedAt_step_iff s p)

/-- Views are located lazily, and nobody notices. -/
theorem lazy_views (t : Table) (before : List Step) (step : Step) :
    let fresh := t.unresolved
    let b := Browsing.after ⟨t, []⟩ before
    let answer := (b.step step).1
    let c := (b.step step).2
    (∀ p, ¬ IsResolvedAt p fresh.records) ∧
    (∀ p, IsResolvedAt p b.table.records ↔
      IsResolvedAt p t.records ∨ ∃ earlier ∈ before, p ∈ earlier.addressed fresh) ∧
    answer.SpeaksOf fresh (step.addressed fresh) ∧
    ((∀ m, answer ≠ .navigated (.ok m)) → (∀ v, answer ≠ .viewed (some v)) → c.table = b.table) ∧
    c.copies = b.copies ++ answer.copy?.toList ∧
    answer.unresolved = (fresh.step step).1 ∧
    ∀ rs, same rs (unresolved rs) = true ∧
      Json.Wire.encode (unresolved rs) = Json.Wire.encode rs := by
  intro fresh b answer c
  have hfresh : b.table.unresolved = fresh := Browsing.unresolved_after ⟨t, []⟩ before
  have hanswer : answer.unresolved = (fresh.step step).1 := by
    rw [← hfresh]
    exact b.table.answer_unresolved step
  refine ⟨fun p => not_isResolvedAt_unresolved p t.records,
    fun p => Browsing.isResolvedAt_after_iff ⟨t, []⟩ before p, ?_, b.table.step_unchanged, rfl, hanswer,
    fun rs => ⟨?_, encode_unresolved rs⟩⟩
  · rw [← Answer.speaksOf_unresolved_iff, hanswer]
    exact fresh.speaksOf_step step
  · rw [same_iff, unresolved_unresolved]

end ConsoleNav.Route
