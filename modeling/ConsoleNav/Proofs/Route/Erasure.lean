import ConsoleNav.Proofs.Route.Filtering
import ConsoleNav.Proofs.Route.Place

/-!
Tables as if no view had been located yet. Whatever is asked of a table, the answer is the one of this
erased table, but for what it says itself about located views.
-/
namespace ConsoleNav.Route

/-- What carries over from the records within a record and the records after it to all of them together
holds of every list of records. -/
@[elab_as_elim]
theorem records_induction {P : List Record → Prop} (nil : P [])
    (cons : ∀ r rs, P r.children → P rs → P (r :: rs)) : ∀ rs : List Record, P rs
  | [] => nil
  | ⟨path, name, view, isPublic, children⟩ :: rs =>
      cons ⟨path, name, view, isPublic, children⟩ rs (records_induction nil cons children)
        (records_induction nil cons rs)

def View.unresolved (v : View) : View :=
  ⟨v.component, false⟩

mutual
def Record.unresolved : Record → Record
  | ⟨path, name, view, isPublic, children⟩ =>
    ⟨path, name, view.unresolved, isPublic, unresolved children⟩

/-- Records with no view located. -/
def unresolved : List Record → List Record
  | [] => []
  | r :: rs => r.unresolved :: unresolved rs
end

def Hit.unresolved (hit : Hit) : Hit :=
  { hit with outer := Route.unresolved hit.outer, leaf := hit.leaf.unresolved }

def Table.unresolved (t : Table) : Table :=
  ⟨Route.unresolved t.records⟩

theorem Record.unresolved_eq (r : Record) :
    r.unresolved = ⟨r.path, r.name, r.view.unresolved, r.isPublic, Route.unresolved r.children⟩ := by
  obtain ⟨path, name, view, isPublic, children⟩ := r
  rw [Record.unresolved]

theorem unresolved_eq_map (rs : List Record) : unresolved rs = rs.map Record.unresolved := by
  induction rs with
  | nil => rfl
  | cons r rs ih => rw [unresolved, ih, List.map_cons]

@[simp] theorem Record.unresolved_children (r : Record) :
    r.unresolved.children = Route.unresolved r.children := by
  rw [Record.unresolved_eq]

@[simp] theorem Record.unresolved_name (r : Record) : r.unresolved.name = r.name := by
  rw [Record.unresolved_eq]

@[simp] theorem Record.unresolved_located (r : Record) :
    r.unresolved.view.located = r.view.located := by
  rw [Record.unresolved_eq]
  rfl

@[simp] theorem Record.unresolved_matched (r : Record) : r.unresolved.matched = r.matched := by
  rw [Record.unresolved_eq]
  rfl

theorem unresolved_unresolved (rs : List Record) : unresolved (unresolved rs) = unresolved rs := by
  induction rs using records_induction with
  | nil => rfl
  | cons r rs ihChildren ihRest =>
    rw [unresolved, unresolved, ihRest, Record.unresolved_eq, Record.unresolved_children, ihChildren,
      Record.unresolved_eq]
    rfl

theorem Record.unresolved_not_resolved (r : Record) : r.unresolved.view.resolved = false := by
  rw [Record.unresolved_eq]
  rfl

/-! ### Records by position -/

theorem Record.at?_unresolved (p : Position) (r : Record) :
    r.unresolved.at? p = (r.at? p).map Record.unresolved := by
  induction p generalizing r with
  | nil => rfl
  | cons i p ih =>
    rw [Record.at?, Record.at?, Record.unresolved_children, unresolved_eq_map, List.getElem?_map]
    cases r.children[i]? with
    | none => rfl
    | some child => exact ih child

theorem recordAt?_unresolved (p : Position) (rs : List Record) :
    recordAt? p (unresolved rs) = (recordAt? p rs).map Record.unresolved := by
  cases p with
  | nil => rfl
  | cons i p =>
    rw [recordAt?_cons, recordAt?_cons, unresolved_eq_map, List.getElem?_map]
    cases rs[i]? with
    | none => rfl
    | some r => exact r.at?_unresolved p

theorem not_isResolvedAt_unresolved (p : Position) (rs : List Record) :
    ¬ IsResolvedAt p (unresolved rs) := by
  rintro ⟨found, hfound, hresolved⟩
  rw [recordAt?_unresolved, Option.map_eq_some_iff] at hfound
  obtain ⟨r, -, rfl⟩ := hfound
  rw [r.unresolved_not_resolved] at hresolved
  cases hresolved

/-! ### Resolving views -/

theorem unresolved_modify {f : Record → Record} (h : ∀ r, (f r).unresolved = r.unresolved) (i : Nat)
    (rs : List Record) : unresolved (rs.modify i f) = unresolved rs := by
  rw [unresolved_eq_map, unresolved_eq_map]
  apply List.ext_getElem?
  intro j
  rw [List.getElem?_map, List.getElem?_map, List.getElem?_modify]
  cases rs[j]? with
  | none => rfl
  | some r =>
    by_cases hij : i = j
    · simp [hij, h]
    · simp [hij]

theorem unresolved_resolveAlong (p : Position) (rs : List Record) :
    unresolved (resolveAlong p rs) = unresolved rs := by
  induction p generalizing rs with
  | nil => rfl
  | cons i p ih =>
    apply unresolved_modify
    intro r
    rw [Record.unresolved_eq, Record.unresolved_eq, ih]
    rfl

theorem unresolved_resolveAt (p : Position) (rs : List Record) :
    unresolved (resolveAt p rs) = unresolved rs := by
  induction p generalizing rs with
  | nil => rfl
  | cons i p ih =>
    rcases p with _ | ⟨j, p⟩
    · apply unresolved_modify
      intro r
      rw [Record.unresolved_eq, Record.unresolved_eq]
      rfl
    · apply unresolved_modify
      intro r
      rw [Record.unresolved_eq, Record.unresolved_eq, ih]

/-! ### Looking for records -/

theorem Record.search_cases (base : Pattern) (segments : List String) (r : Record) :
    r.search base segments =
      match Route.search (extendPattern base r.path) segments 0 r.children with
      | some hit => some { hit with outer := r :: hit.outer }
      | none => (matchSegments (extendPattern base r.path) segments).map fun captures =>
          ⟨[], r, [], captures⟩ := by
  obtain ⟨path, name, view, isPublic, children⟩ := r
  exact Record.search.eq_1 base segments path name view isPublic children

theorem search_unresolved (base : Pattern) (segments : List String) (index : Nat)
    (rs : List Record) :
    search base segments index (unresolved rs) =
      (search base segments index rs).map Hit.unresolved := by
  induction rs using records_induction generalizing base index with
  | nil => rfl
  | cons r rs ihChildren ihRest =>
    have hpath : r.unresolved.path = r.path := by rw [Record.unresolved_eq]
    have hfirst : r.unresolved.search base segments =
        (r.search base segments).map Hit.unresolved := by
      rw [Record.search_cases, Record.search_cases, Record.unresolved_children, ihChildren, hpath]
      cases search (extendPattern base r.path) segments 0 r.children with
      | some hit => rfl
      | none => cases matchSegments (extendPattern base r.path) segments <;> rfl
    rw [unresolved, search, search, hfirst, ihRest]
    cases r.search base segments <;> rfl

theorem Hit.toMatch_unresolved (path : String) (hit : Hit) :
    hit.unresolved.toMatch path = hit.toMatch path := by
  have hmatched : (Route.unresolved hit.outer ++ [hit.leaf.unresolved]).map Record.matched =
      (hit.outer ++ [hit.leaf]).map Record.matched := by
    simp [unresolved_eq_map]
  simp only [toMatch, Hit.unresolved, hmatched, Record.unresolved_name, Record.unresolved_located]

theorem Table.hit?_unresolved (t : Table) (path : String) :
    t.unresolved.hit? path = (t.hit? path).map Hit.unresolved :=
  search_unresolved _ _ _ _

theorem Record.find?_eq (name : String) (r : Record) :
    r.find? name = if r.name = name then some r else Route.find? name r.children := by
  obtain ⟨path, other, view, isPublic, children⟩ := r
  rw [Record.find?]

theorem find?_unresolved (name : String) (rs : List Record) :
    find? name (unresolved rs) = (find? name rs).map Record.unresolved := by
  induction rs using records_induction with
  | nil => rfl
  | cons r rs ihChildren ihRest =>
    rw [unresolved, find?, find?, Record.find?_eq, Record.find?_eq, Record.unresolved_name,
      Record.unresolved_children, ihChildren, ihRest]
    by_cases hname : r.name = name
    · rw [if_pos hname, if_pos hname]
      rfl
    · rw [if_neg hname, if_neg hname]
      cases find? name r.children <;> rfl

theorem Record.positionOf?_eq (name : String) (r : Record) :
    r.positionOf? name = if r.name = name then some [] else Route.positionOf? name 0 r.children := by
  obtain ⟨path, other, view, isPublic, children⟩ := r
  rw [Record.positionOf?]

theorem positionOf?_unresolved (name : String) (index : Nat) (rs : List Record) :
    positionOf? name index (unresolved rs) = positionOf? name index rs := by
  induction rs using records_induction generalizing index with
  | nil => rfl
  | cons r rs ihChildren ihRest =>
    rw [unresolved, positionOf?, positionOf?, Record.positionOf?_eq, Record.positionOf?_eq,
      Record.unresolved_name, Record.unresolved_children, ihChildren, ihRest]

/-- The first record with a name is at the first position at which a record has it. -/
theorem find?_eq_recordAt? (name : String) (index : Nat) (rs : List Record) :
    (positionOf? name index rs = none ∧ find? name rs = none) ∨
      ∃ i p, positionOf? name index rs = some ((index + i) :: p) ∧
        find? name rs = recordAt? (i :: p) rs ∧ (find? name rs).isSome := by
  induction rs using records_induction generalizing index with
  | nil => exact .inl ⟨rfl, rfl⟩
  | cons r rs ihChildren ihRest =>
    rw [positionOf?, find?, Record.positionOf?_eq, Record.find?_eq]
    by_cases hname : r.name = name
    · rw [if_pos hname, if_pos hname]
      exact .inr ⟨0, [], rfl, rfl, rfl⟩
    · rw [if_neg hname, if_neg hname]
      rcases ihChildren 0 with ⟨hposition, hfind⟩ | ⟨i, p, hposition, hfind, hsome⟩
      · rw [hposition, hfind]
        rcases ihRest (index + 1) with ⟨hposition, hfind⟩ | ⟨i, p, hposition, hfind, hsome⟩
        · exact .inl ⟨hposition, hfind⟩
        · refine .inr ⟨i + 1, p, ?_, hfind, hsome⟩
          rw [hposition, Nat.add_assoc, Nat.add_comm 1]
      · obtain ⟨found, hfound⟩ := Option.isSome_iff_exists.mp hsome
        rw [hposition, hfound]
        refine .inr ⟨0, (0 + i) :: p, rfl, ?_, rfl⟩
        rw [Nat.zero_add]
        exact hfound.symm.trans hfind

/-! ### Filtering, listing and comparing -/

theorem isEmpty_unresolved (rs : List Record) : (unresolved rs).isEmpty = rs.isEmpty := by
  rw [unresolved_eq_map, List.isEmpty_map]

theorem Record.withChildren_unresolved (r : Record) (rs : List Record) :
    r.unresolved.withChildren (Route.unresolved rs) = (r.withChildren rs).unresolved := by
  rw [Record.unresolved_eq, Record.unresolved_eq]
  rfl

theorem keepAll_unresolved (allowed : List String) (rs : List Record) :
    keepAll allowed (unresolved rs) = unresolved (keepAll allowed rs) := by
  induction rs using records_induction with
  | nil => rfl
  | cons r rs ihChildren ihRest =>
    have hpublic : r.unresolved.isPublic = r.isPublic := by rw [Record.unresolved_eq]
    have hfirst : r.unresolved.keep allowed = (r.keep allowed).map Record.unresolved := by
      rw [Record.keep_eq, Record.keep_eq, Record.unresolved_children, Record.unresolved_name,
        ihChildren, hpublic, isEmpty_unresolved, Record.withChildren_unresolved]
      split <;> rfl
    rw [unresolved, keepAll, keepAll, hfirst, ihRest]
    cases r.keep allowed <;> rfl

theorem apply_unresolved (kind : FilterKind) (permissions : List Permission) (rs : List Record) :
    kind.apply permissions (unresolved rs) = unresolved (kind.apply permissions rs) := by
  cases kind with
  | passThrough => rfl
  | permission => exact keepAll_unresolved _ rs

theorem Record.toJson_eq (r : Record) :
    r.toJson = .object ([("path", .string r.path), ("name", .string r.name), ("view", r.view.toJson),
      ("public", .bool r.isPublic)] ++
      (if r.children.isEmpty then [] else [("children", .array (recordsToJson r.children))])) := by
  obtain ⟨path, name, view, isPublic, children⟩ := r
  rw [Record.toJson]

theorem recordsToJson_unresolved (rs : List Record) :
    recordsToJson (unresolved rs) = recordsToJson rs := by
  induction rs using records_induction with
  | nil => rfl
  | cons r rs ihChildren ihRest =>
    rw [unresolved, recordsToJson, recordsToJson, Record.toJson_eq, Record.toJson_eq, ihRest,
      Record.unresolved_children, ihChildren, isEmpty_unresolved, Record.unresolved_eq]
    rfl

theorem recordsToJson_eq_map (rs : List Record) : recordsToJson rs = rs.map Record.toJson := by
  induction rs with
  | nil => rfl
  | cons r rs ih => rw [recordsToJson, ih, List.map_cons]

theorem encode_unresolved (rs : List Record) :
    Json.Wire.encode (unresolved rs) = Json.Wire.encode rs := by
  have hmap := recordsToJson_unresolved rs
  rw [recordsToJson_eq_map, recordsToJson_eq_map] at hmap
  exact congrArg (fun js => (Json.array js).compact) hmap

theorem Record.same_eq (r s : Record) :
    r.same s = (r.path == s.path && r.name == s.name && r.view.component == s.view.component &&
      r.isPublic == s.isPublic && Route.same r.children s.children) := by
  obtain ⟨path, name, view, isPublic, children⟩ := r
  rw [Record.same]

/-- Records count as equal if and only if they are once no view is located. -/
theorem same_iff (rs ss : List Record) : same rs ss = true ↔ unresolved rs = unresolved ss := by
  induction rs using records_induction generalizing ss with
  | nil => cases ss <;> simp [same, unresolved]
  | cons r rs ihChildren ihRest =>
    cases ss with
    | nil => simp [same, unresolved]
    | cons s ss =>
      rw [same, Record.same_eq, unresolved, unresolved, List.cons.injEq, Record.unresolved_eq,
        Record.unresolved_eq, Record.mk.injEq]
      simp only [Bool.and_eq_true, beq_iff_eq, ihChildren, ihRest, View.unresolved, View.mk.injEq,
        and_true, and_assoc]

theorem same_unresolved (rs ss : List Record) : same (unresolved rs) (unresolved ss) = same rs ss := by
  rw [Bool.eq_iff_iff, same_iff, same_iff, unresolved_unresolved, unresolved_unresolved]

end ConsoleNav.Route
