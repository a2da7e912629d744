import ConsoleNav.Proofs.Route.Erasure
import ConsoleNav.Proofs.Route.Thinning

/-!
How what a filter keeps depends on the permissions. Two lists of permissions together keep what each of
them keeps and nothing else, whatever stands in them twice or in another order, and a table that is
filtered already has nothing more to lose.
-/
namespace ConsoleNav.Route

/-- The first permissions name every route that the others name. -/
def Covers (more fewer : List Permission) : Prop :=
  ∀ n ∈ fewer.map Permission.routeName, n ∈ more.map Permission.routeName

/-- The record at a position is one of those that are kept. -/
def IsKept (permissions : List Permission) (rs : List Record) (q : Position) : Prop :=
  ∃ p r, recordAt? p (FilterKind.permission.apply permissions rs) = some r ∧
    origin? (permissions.map Permission.routeName) p rs = some q

variable {fewer more : List String} {rs : List Record} {r : Record}

/-! ### Survival -/

theorem Record.isGranted_append_iff :
    r.IsGranted (fewer ++ more) ↔ r.IsGranted fewer ∨ r.IsGranted more := by
  unfold Record.IsGranted
  rw [List.mem_append]
  tauto

theorem Record.survives_append_iff :
    r.survives (fewer ++ more) = true ↔ r.survives fewer = true ∨ r.survives more = true := by
  simp only [Record.survives_iff_at?, Record.isGranted_append_iff, and_or_left, exists_or]

theorem Record.survives_mono (h : ∀ n ∈ fewer, n ∈ more) (hr : r.survives fewer = true) :
    r.survives more = true := by
  rw [Record.survives_iff_at?] at hr ⊢
  obtain ⟨s, d, hd, hgranted⟩ := hr
  exact ⟨s, d, hd, hgranted.imp_right (h d.name)⟩

theorem Record.survives_eq (allowed : List String) (r : Record) :
    r.survives allowed =
      (r.isPublic || allowed.contains r.name || !(keepAll allowed r.children).isEmpty) := by
  rw [Record.survives, Record.keep_eq]
  split
  · rename_i hkept
    exact hkept.symm
  · rename_i hgone
    exact (Bool.eq_false_iff.mpr hgone).symm

theorem isKept_iff {permissions : List Permission} {q : Position} :
    IsKept permissions rs q ↔
      ∃ r, recordAt? q rs = some r ∧ r.survives (permissions.map Permission.routeName) = true := by
  unfold IsKept
  change (∃ p r, recordAt? p (keepAll _ rs) = some r ∧ _) ↔ _
  simp only [recordAt?_keepAll]
  constructor
  · rintro ⟨p, r, hr, hq⟩
    rw [hq, Option.bind_some] at hr
    obtain ⟨d, hd, -⟩ := Option.map_eq_some_iff.mp hr
    exact ⟨d, hd, (exists_origin?_iff hd).mp ⟨p, hq⟩⟩
  · rintro ⟨r, hr, hsurvives⟩
    obtain ⟨p, hq⟩ := (exists_origin?_iff hr).mpr hsurvives
    exact ⟨p, r.thinned _, by rw [hq, Option.bind_some, hr, Option.map_some], hq⟩

/-! ### Filtering what is filtered -/

theorem keepAll_congr (h : ∀ n, n ∈ fewer ↔ n ∈ more) (rs : List Record) :
    keepAll fewer rs = keepAll more rs := by
  induction rs using records_induction with
  | nil => rfl
  | cons r rs ihChildren ihRest =>
      have hnames : fewer.contains r.name = more.contains r.name := by
        rw [Bool.eq_iff_iff, List.contains_iff_mem, List.contains_iff_mem]
        exact h r.name
      rw [keepAll, keepAll, Record.keep_eq, Record.keep_eq, ihChildren, ihRest, hnames]

theorem Record.keep_withChildren (allowed : List String) (r : Record) (children : List Record) :
    (r.withChildren children).keep allowed =
      if r.isPublic || allowed.contains r.name || !(keepAll allowed children).isEmpty then
        some (r.withChildren (keepAll allowed children))
      else none :=
  (r.withChildren children).keep_eq allowed

/-- To keep less of what has been kept is to keep less from the first. -/
theorem keepAll_keepAll (h : ∀ n ∈ fewer, n ∈ more) (rs : List Record) :
    keepAll fewer (keepAll more rs) = keepAll fewer rs := by
  induction rs using records_induction with
  | nil => rfl
  | cons r rs ihChildren ihRest =>
      rw [keepAll.eq_2 more, keepAll.eq_2 fewer r rs]
      rcases r.keep_cases more with ⟨-, hkeep⟩ | ⟨hgone, hkeep, -⟩
      · have hsame : (r.withChildren (keepAll more r.children)).keep fewer = r.keep fewer := by
          rw [Record.keep_withChildren, ihChildren, Record.keep_eq]
        rw [hkeep]
        change keepAll fewer (_ :: _) = _
        rw [keepAll, hsame, ihRest]
      · have hnone : r.keep fewer = none := by
          rw [← Option.not_isSome_iff_eq_none]
          intro hsurvives
          exact Bool.false_ne_true (hgone.symm.trans (Record.survives_mono h hsurvives))
        rw [hkeep, hnone]
        exact ihRest

/-- A filter that keeps more finds nothing to take out. -/
theorem keepAll_of_kept (h : ∀ n ∈ fewer, n ∈ more) (rs : List Record) :
    keepAll more (keepAll fewer rs) = keepAll fewer rs := by
  induction rs using records_induction with
  | nil => rfl
  | cons r rs ihChildren ihRest =>
      rw [keepAll.eq_2 fewer]
      rcases r.keep_cases fewer with ⟨hsurvives, hkeep⟩ | ⟨-, hkeep, -⟩
      · have hsame : (r.withChildren (keepAll fewer r.children)).keep more =
            some (r.withChildren (keepAll fewer r.children)) := by
          rw [Record.keep_withChildren, ihChildren, if_pos]
          rw [Record.survives_eq] at hsurvives
          simp only [Bool.or_eq_true, List.contains_iff_mem] at hsurvives ⊢
          exact hsurvives.imp_left (Or.imp_right (h r.name))
        rw [hkeep]
        change keepAll more (_ :: _) = _ :: _
        rw [keepAll, hsame, ihRest]
      · rw [hkeep]
        exact ihRest

/-- Filtering by permissions is a projection that respects unions. -/
theorem permitted_union (P Q : List Permission) (rs : List Record) :
    let copy := fun permissions => FilterKind.permission.apply permissions rs
    let origin := fun permissions p => origin? (permissions.map Permission.routeName) p rs
    (∀ permissions, IsThinning (origin permissions) (copy permissions) rs) ∧
    (∀ q, IsKept (P ++ Q) rs q ↔ IsKept P rs q ∨ IsKept Q rs q) ∧
    (Covers P Q → Covers Q P → copy P = copy Q) ∧
    (Covers Q P → (∀ q, IsKept P rs q → IsKept Q rs q) ∧
      FilterKind.permission.apply P (copy Q) = copy P ∧
      FilterKind.permission.apply Q (copy P) = copy P) ∧
    FilterKind.permission.apply P (copy P) = copy P := by
  intro copy origin
  refine ⟨fun permissions => isThinning_keepAll _ rs, fun q => ?_, fun hP hQ => ?_, fun hQ => ?_, ?_⟩
  · simp only [isKept_iff, List.map_append, Record.survives_append_iff, and_or_left, exists_or]
  · exact keepAll_congr (fun n => ⟨hQ n, hP n⟩) rs
  · refine ⟨fun q hq => ?_, keepAll_keepAll hQ rs, keepAll_of_kept hQ rs⟩
    obtain ⟨r, hr, hsurvives⟩ := isKept_iff.mp hq
    exact isKept_iff.mpr ⟨r, hr, Record.survives_mono hQ hsurvives⟩
  · exact keepAll_keepAll (fun n hn => hn) rs

end ConsoleNav.Route
