import ConsoleNav.Proofs.Route.Filtering
import ConsoleNav.Proofs.Route.Place

/-!
Where the records of a filtered table have been in the whole one. A filter takes records out and moves
none: those that are left stand below the same records and in the same order as before.
-/
namespace ConsoleNav.Route

/-- A copy of some records has less of them. Each record of the copy is at `origin` of its position in the
whole, where the empty position stands for the table itself. -/
structure IsThinning (origin : Position → Option Position) (copy whole : List Record) : Prop where
  defined : ∀ p, p ≠ [] → ((recordAt? p copy).isSome ↔ (origin p).isSome)
  alike : ∀ p k, recordAt? p copy = some k →
    ∃ q r, origin p = some q ∧ recordAt? q whole = some r ∧ k = r.withChildren k.children
  once : ∀ p p' q, origin p = some q → origin p' = some q → p = p'
  below : ∀ p i s, origin (p ++ [i]) = some s → ∃ q j, origin p = some q ∧ s = q ++ [j]
  inOrder : ∀ p q i j i' j', origin (p ++ [i]) = some (q ++ [j]) →
    origin (p ++ [i']) = some (q ++ [j']) → (i < i' ↔ j < j')
  resolved : ∀ p q, origin p = some q → (IsResolvedAt p copy ↔ IsResolvedAt q whole)

/-- A record with those records within it that survive. -/
def Record.thinned (allowed : List String) (r : Record) : Record :=
  r.withChildren (keepAll allowed r.children)

/-- The records that survive among some, with their indices. -/
def surviving (allowed : List String) (rs : List Record) : List (Record × Nat) :=
  rs.zipIdx.filter fun x => x.1.survives allowed

/-- The position in some records of the one that is at a position once only the surviving ones are left. -/
def origin? (allowed : List String) : Position → List Record → Option Position
  | [], _ => some []
  | i :: p, rs =>
    (surviving allowed rs)[i]?.bind fun x => (origin? allowed p x.1.children).map (x.2 :: ·)

variable {allowed : List String} {rs : List Record} {r : Record} {p q s : Position} {i j : Nat}

/-! ### Siblings -/

theorem keepAll_eq (allowed : List String) (rs : List Record) :
    keepAll allowed rs = (surviving allowed rs).map fun x => x.1.thinned allowed := by
  have hfilter : keepAll allowed rs =
      (rs.filter fun r => r.survives allowed).map (Record.thinned allowed) := by
    induction rs with
    | nil => rfl
    | cons r rs ih =>
        rw [keepAll, ih]
        rcases r.keep_cases allowed with ⟨hsurvives, hkeep⟩ | ⟨hgone, hkeep, -⟩
        · rw [hkeep, List.filter_cons_of_pos hsurvives]
          rfl
        · rw [hkeep, List.filter_cons_of_neg (by rw [hgone]; decide)]
  have hfst : (surviving allowed rs).map Prod.fst = rs.filter fun r => r.survives allowed := by
    conv_rhs => rw [← List.zipIdx_map_fst 0 rs, List.filter_map]
    rfl
  rw [hfilter, ← hfst, List.map_map]
  rfl

theorem mem_surviving_iff :
    (r, j) ∈ surviving allowed rs ↔ rs[j]? = some r ∧ r.survives allowed = true := by
  rw [surviving, List.mem_filter, List.mk_mem_zipIdx_iff_getElem?]

theorem surviving_pairwise (allowed : List String) (rs : List Record) :
    (surviving allowed rs).Pairwise fun x y => x.2 < y.2 := by
  apply List.Pairwise.filter
  apply List.pairwise_map.mp
  rw [List.zipIdx_map_snd]
  exact List.pairwise_lt_range'

theorem index_lt_iff {x y : Record × Nat} {i' : Nat} (hx : (surviving allowed rs)[i]? = some x)
    (hy : (surviving allowed rs)[i']? = some y) : i < i' ↔ x.2 < y.2 := by
  have hsorted : ∀ {m n : Nat} {u v : Record × Nat}, (surviving allowed rs)[m]? = some u →
      (surviving allowed rs)[n]? = some v → m < n → u.2 < v.2 := by
    intro m n u v hu hv hmn
    obtain ⟨hm, rfl⟩ := List.getElem?_eq_some_iff.mp hu
    obtain ⟨hn, rfl⟩ := List.getElem?_eq_some_iff.mp hv
    exact List.pairwise_iff_getElem.mp (surviving_pairwise allowed rs) m n hm hn hmn
  constructor
  · exact hsorted hx hy
  · intro hlt
    rcases Nat.lt_trichotomy i i' with hbefore | rfl | hafter
    · exact hbefore
    · rw [hx] at hy
      cases hy
      exact absurd hlt (Nat.lt_irrefl _)
    · exact absurd (hsorted hy hx hafter) (Nat.lt_asymm hlt)

/-! ### Positions -/

theorem origin?_cons_iff :
    origin? allowed (i :: p) rs = some q ↔
      ∃ r j s, (surviving allowed rs)[i]? = some (r, j) ∧ origin? allowed p r.children = some s ∧
        q = j :: s := by
  rw [origin?, Option.bind_eq_some_iff]
  constructor
  · rintro ⟨⟨r, j⟩, hr, hq⟩
    obtain ⟨s, hs, rfl⟩ := Option.map_eq_some_iff.mp hq
    exact ⟨r, j, s, hr, hs, rfl⟩
  · rintro ⟨r, j, s, hr, hs, rfl⟩
    exact ⟨(r, j), hr, Option.map_eq_some_iff.mpr ⟨s, hs, rfl⟩⟩

/-- Each position in the filtered table is that of a record of the whole one. -/
theorem recordAt?_keepAll (allowed : List String) (p : Position) (rs : List Record) :
    recordAt? p (keepAll allowed rs) =
      (origin? allowed p rs).bind fun q => (recordAt? q rs).map (Record.thinned allowed) := by
  induction p generalizing rs with
  | nil => rfl
  | cons i p ih =>
      rw [recordAt?_cons, keepAll_eq, List.getElem?_map, origin?]
      cases hx : (surviving allowed rs)[i]? with
      | none => rfl
      | some x =>
          obtain ⟨r, j⟩ := x
          have hr := (mem_surviving_iff.mp (List.mem_of_getElem? hx)).1
          rcases p with _ | ⟨k, p⟩
          · simp [origin?, recordAt?_cons, hr, Record.at?]
          · have hbelow := ih r.children
            rw [Option.map_some, Option.bind_some, Option.bind_some, Record.at?_cons]
            change recordAt? (k :: p) (keepAll allowed r.children) = _
            rw [hbelow, Option.bind_map]
            -- The way on from `r` is that from its children, since it does not end at `r`.
            apply Option.bind_congr
            intro s hs
            obtain ⟨_, l, s, -, -, rfl⟩ := origin?_cons_iff.mp hs
            rw [Function.comp_apply, recordAt?_cons j, hr, Option.bind_some, Record.at?_cons]

theorem origin?_recordAt? (h : origin? allowed p rs = some q) (hp : p ≠ []) :
    ∃ r, recordAt? q rs = some r ∧ r.survives allowed = true := by
  induction p generalizing rs q with
  | nil => exact absurd rfl hp
  | cons i p ih =>
      obtain ⟨r, j, s, hr, hs, rfl⟩ := origin?_cons_iff.mp h
      obtain ⟨hhere, hsurvives⟩ := mem_surviving_iff.mp (List.mem_of_getElem? hr)
      rw [recordAt?_cons, hhere, Option.bind_some]
      rcases p with _ | ⟨k, p⟩
      · cases hs
        exact ⟨r, rfl, hsurvives⟩
      · obtain ⟨d, hd, hdeep⟩ := ih hs (List.cons_ne_nil k p)
        obtain ⟨_, l, s, -, -, rfl⟩ := origin?_cons_iff.mp hs
        exact ⟨d, hd, hdeep⟩

theorem origin?_injective {p' : Position} (h : origin? allowed p rs = some q)
    (h' : origin? allowed p' rs = some q) : p = p' := by
  induction p generalizing p' rs q with
  | nil =>
      cases h
      rcases p' with _ | ⟨i', p'⟩
      · rfl
      · obtain ⟨_, _, _, -, -, hq⟩ := origin?_cons_iff.mp h'
        cases hq
  | cons i p ih =>
      obtain ⟨r, j, s, hr, hs, rfl⟩ := origin?_cons_iff.mp h
      rcases p' with _ | ⟨i', p'⟩
      · cases h'
      · obtain ⟨r', j', s', hr', hs', hq⟩ := origin?_cons_iff.mp h'
        cases hq
        have hi : i = i' := by
          have hlt := (index_lt_iff hr hr').not
          have hgt := (index_lt_iff hr' hr).not
          omega
        subst hi
        rw [hr] at hr'
        cases hr'
        rw [ih hs hs']

theorem origin?_append (allowed : List String) (p : Position) (i : Nat) (rs : List Record) :
    origin? allowed (p ++ [i]) rs = some s → ∃ q j, origin? allowed p rs = some q ∧ s = q ++ [j] := by
  induction p generalizing rs s with
  | nil =>
      intro h
      obtain ⟨r, j, _, -, hs, rfl⟩ := origin?_cons_iff.mp h
      cases hs
      exact ⟨[], j, rfl, rfl⟩
  | cons k p ih =>
      intro h
      obtain ⟨r, l, s, hr, hs, rfl⟩ := origin?_cons_iff.mp h
      obtain ⟨q, j, hq, rfl⟩ := ih r.children hs
      exact ⟨l :: q, j, origin?_cons_iff.mpr ⟨r, l, q, hr, hq, rfl⟩, rfl⟩

theorem origin?_lt_iff {i' j' : Nat} (h : origin? allowed (p ++ [i]) rs = some (q ++ [j]))
    (h' : origin? allowed (p ++ [i']) rs = some (q ++ [j'])) : i < i' ↔ j < j' := by
  induction p generalizing q rs with
  | nil =>
      obtain ⟨r, _, _, hr, hs, hq⟩ := origin?_cons_iff.mp h
      obtain ⟨r', _, _, hr', hs', hq'⟩ := origin?_cons_iff.mp h'
      cases hs
      cases hs'
      rcases q with _ | ⟨l, q⟩
      · cases hq
        cases hq'
        exact index_lt_iff hr hr'
      · exact absurd hq (by simp)
  | cons k p ih =>
      obtain ⟨r, l, s, hr, hs, hq⟩ := origin?_cons_iff.mp h
      obtain ⟨r', l', s', hr', hs', hq'⟩ := origin?_cons_iff.mp h'
      rw [hr] at hr'
      cases hr'
      rcases q with _ | ⟨m, q⟩
      · obtain ⟨_, _, -, hs⟩ := origin?_append allowed p i r.children hs
        simp_all
      · cases hq
        cases hq'
        exact ih hs hs'

/-! ### What is left -/

theorem recordAt?_eq_at? {s : Position} (hs : s ≠ []) (r : Record) :
    r.at? s = recordAt? s r.children := by
  obtain ⟨i, s, rfl⟩ := List.exists_cons_of_ne_nil hs
  exact Record.at?_cons i s r

theorem Placed.IsIn.position_ne_nil {placed : Placed} (h : placed.IsIn rs) :
    placed.position ≠ [] := by
  cases h <;> exact List.cons_ne_nil _ _

theorem Placed.IsIn.recordAt? {placed : Placed} (h : placed.IsIn rs) :
    recordAt? placed.position rs = some placed.leaf := by
  induction h with
  | @top rs i r here => rw [recordAt?_cons, here, Option.bind_some, Record.at?]
  | @inner rs i r p here within ih =>
      change Route.recordAt? (i :: p.position) rs = some p.leaf
      rw [recordAt?_cons, here, Option.bind_some, recordAt?_eq_at? within.position_ne_nil, ih]

theorem Record.at?_of_mem_postorder {placed : Placed} (h : placed ∈ r.postorder) :
    r.at? placed.position = some placed.leaf := by
  rcases Record.mem_postorder_iff.mp h with rfl | ⟨p, hp, rfl⟩
  · rfl
  · have hin := Route.mem_postorder_iff.mp hp
    change r.at? p.position = some p.leaf
    rw [recordAt?_eq_at? hin.position_ne_nil, hin.recordAt?]

theorem Record.survives_of_child {child : Record} (hchild : r.children[i]? = some child)
    (hsurvives : child.survives allowed = true) : r.survives allowed = true := by
  rcases r.keep_cases allowed with ⟨hr, -⟩ | ⟨-, -, hnone⟩
  · exact hr
  · rw [keepAll_eq, List.map_eq_nil_iff] at hnone
    have hmem := mem_surviving_iff.mpr ⟨hchild, hsurvives⟩
    rw [hnone] at hmem
    exact absurd hmem List.not_mem_nil

/-- The records around one that survives do so as well. -/
theorem Record.survives_of_at? {d : Record} (hd : r.at? s = some d)
    (hsurvives : d.survives allowed = true) : r.survives allowed = true := by
  induction s generalizing r with
  | nil =>
      cases hd
      exact hsurvives
  | cons i s ih =>
      obtain ⟨child, hchild, hbelow⟩ := Option.bind_eq_some_iff.mp hd
      exact Record.survives_of_child hchild (ih hbelow)

theorem Record.survives_iff_at? (allowed : List String) (r : Record) :
    r.survives allowed = true ↔ ∃ s d, r.at? s = some d ∧ d.IsGranted allowed := by
  constructor
  · intro hsurvives
    obtain ⟨p, hp, hgranted⟩ := (r.survives_iff allowed).mp hsurvives
    exact ⟨p.position, p.leaf, Record.at?_of_mem_postorder hp, hgranted⟩
  · rintro ⟨s, d, hd, hgranted⟩
    exact Record.survives_of_at? hd (Record.survives_of_granted hgranted)

theorem exists_origin?_iff (hr : recordAt? q rs = some r) :
    (∃ p, origin? allowed p rs = some q) ↔ r.survives allowed = true := by
  constructor
  · rintro ⟨p, hp⟩
    have hne : p ≠ [] := by
      rintro rfl
      cases hp
      cases hr
    obtain ⟨d, hd, hsurvives⟩ := origin?_recordAt? hp hne
    rw [hr] at hd
    cases hd
    exact hsurvives
  · intro hsurvives
    induction q generalizing rs with
    | nil => cases hr
    | cons j q ih =>
        obtain ⟨child, hchild, hbelow⟩ := Option.bind_eq_some_iff.mp hr
        have hmem := mem_surviving_iff.mpr ⟨hchild, Record.survives_of_at? hbelow hsurvives⟩
        obtain ⟨i, hi⟩ := List.mem_iff_getElem?.mp hmem
        rcases q with _ | ⟨k, q⟩
        · exact ⟨[i], origin?_cons_iff.mpr ⟨child, j, [], hi, rfl, rfl⟩⟩
        · obtain ⟨p, hp⟩ := ih hbelow
          exact ⟨i :: p, origin?_cons_iff.mpr ⟨child, j, k :: q, hi, hp, rfl⟩⟩

theorem isThinning_keepAll (allowed : List String) (rs : List Record) :
    IsThinning (fun p => origin? allowed p rs) (keepAll allowed rs) rs := by
  have hat : ∀ {p q}, p ≠ [] → origin? allowed p rs = some q →
      ∃ r, recordAt? q rs = some r ∧ recordAt? p (keepAll allowed rs) = some (r.thinned allowed) := by
    intro p q hp hq
    obtain ⟨r, hr, -⟩ := origin?_recordAt? hq hp
    refine ⟨r, hr, ?_⟩
    rw [recordAt?_keepAll, hq, Option.bind_some, hr, Option.map_some]
  constructor
  case defined =>
    intro p hp
    cases hq : origin? allowed p rs with
    | none => simp [recordAt?_keepAll, hq]
    | some q =>
        obtain ⟨r, -, hcopy⟩ := hat hp hq
        rw [hcopy]
        exact Iff.rfl
  case alike =>
    intro p k hk
    rw [recordAt?_keepAll] at hk
    obtain ⟨q, hq, hmap⟩ := Option.bind_eq_some_iff.mp hk
    obtain ⟨r, hr, rfl⟩ := Option.map_eq_some_iff.mp hmap
    exact ⟨q, r, hq, hr, rfl⟩
  case once => exact fun p p' q => origin?_injective
  case below => exact fun p i s => origin?_append allowed p i rs
  case inOrder => exact fun p q i j i' j' => origin?_lt_iff
  case resolved =>
    intro p q hq
    rcases p with _ | ⟨i, p⟩
    · cases hq
      exact iff_of_false (not_isResolvedAt_nil _) (not_isResolvedAt_nil _)
    · obtain ⟨r, hr, hcopy⟩ := hat (List.cons_ne_nil i p) hq
      simp only [IsResolvedAt, hr, hcopy, Option.some.injEq, exists_eq_left']
      exact Iff.rfl

/-- Nothing is left within a record if nothing there is granted, whatever holds of the record itself. -/
theorem keepAll_children_eq_nil_iff (allowed : List String) (r : Record) :
    keepAll allowed r.children = [] ↔
      ∀ s d, s ≠ [] → r.at? s = some d → ¬ d.IsGranted allowed := by
  rw [keepAll_eq, List.map_eq_nil_iff, List.eq_nil_iff_forall_not_mem]
  constructor
  · intro hnone s d hs hd hgranted
    obtain ⟨i, s, rfl⟩ := List.exists_cons_of_ne_nil hs
    obtain ⟨child, hchild, hbelow⟩ := Option.bind_eq_some_iff.mp hd
    have hsurvives := (child.survives_iff_at? allowed).mpr ⟨s, d, hbelow, hgranted⟩
    exact hnone (child, i) (mem_surviving_iff.mpr ⟨hchild, hsurvives⟩)
  · rintro hnone ⟨child, i⟩ hmem
    obtain ⟨hchild, hsurvives⟩ := mem_surviving_iff.mp hmem
    obtain ⟨s, d, hd, hgranted⟩ := (child.survives_iff_at? allowed).mp hsurvives
    refine hnone (i :: s) d (List.cons_ne_nil i s) ?_ hgranted
    rw [Record.at?, hchild, Option.bind_some, hd]

/-- A filter by permissions keeps exactly what it must. -/
theorem permitted_exact (permissions : List Permission) (rs : List Record) :
    let allowed := permissions.map Permission.routeName
    let copy := FilterKind.permission.apply permissions rs
    let origin := fun p => origin? allowed p rs
    IsThinning origin copy rs ∧
    (∀ q r, recordAt? q rs = some r →
      ((∃ p, origin p = some q) ↔ ∃ s d, r.at? s = some d ∧ d.IsGranted allowed)) ∧
    ∀ p q k r, origin p = some q → recordAt? p copy = some k → recordAt? q rs = some r →
      (k.children = [] ↔ ∀ s d, s ≠ [] → r.at? s = some d → ¬ d.IsGranted allowed) := by
  intro allowed copy origin
  refine ⟨isThinning_keepAll allowed rs, ?_, ?_⟩
  · intro q r hr
    exact (exists_origin?_iff hr).trans (r.survives_iff_at? allowed)
  · intro p q k r hq hk hr
    have hcopy : recordAt? p copy = some (r.thinned allowed) := by
      change recordAt? p (keepAll allowed rs) = _
      rw [recordAt?_keepAll, show origin? allowed p rs = some q from hq, Option.bind_some, hr,
        Option.map_some]
    rw [hcopy] at hk
    cases hk
    exact keepAll_children_eq_nil_iff allowed r

end ConsoleNav.Route
