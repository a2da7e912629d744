import ConsoleNav.Proofs.Json.Giving
import ConsoleNav.Proofs.Json.Reading
import ConsoleNav.Proofs.Route.Browsing

/-!
Route tables are read back from their texts as they were before any view was located. The text of a
table says nothing of located views, and so a table that has been read from it answers like the one that
has been written. The children of a record take two levels of nesting, one for the record and one for
their list, and its view takes one.
-/
namespace ConsoleNav.Route

open Json

section Writing

/-- The members that every record has. -/
def Record.ownMembers (r : Record) : List (String × Json) :=
  [("path", .string r.path), ("name", .string r.name),
    ("view", .object [("component", .string r.view.component)]), ("public", .bool r.isPublic)]

def Record.members (r : Record) : List (String × Json) :=
  r.ownMembers ++ if r.children = [] then [] else [("children", .array (r.children.map toJson))]

/-- How records are written: with a list of children where there are children, and only there. -/
inductive Record.Written : Record → Json → Prop
  | leaf {r : Record} (none : r.children = []) : Written r (.object r.ownMembers)
  | parent {r : Record} {vs : List Json} (some : r.children ≠ [])
      (children : List.Forall₂ Written r.children vs) :
      Written r (.object (r.ownMembers ++ [("children", .array vs)]))

theorem Record.toJson_eq_members (r : Record) : r.toJson = .object r.members := by
  rw [Record.toJson_eq, recordsToJson_eq_map]
  simp only [members, ownMembers, View.toJson, List.isEmpty_iff]

theorem written_map_toJson (rs : List Record) : List.Forall₂ Record.Written rs (rs.map Record.toJson) := by
  induction rs using records_induction with
  | nil => exact .nil
  | cons r rs ihChildren ihRest =>
    refine .cons ?_ ihRest
    rw [Record.toJson_eq_members, Record.members]
    by_cases hnone : r.children = []
    · rw [if_pos hnone, List.append_nil]
      exact .leaf hnone
    · rw [if_neg hnone]
      exact .parent hnone ihChildren

theorem Record.opens_toJson (r : Record) : Opens r.toJson := by
  rw [toJson_eq_members]
  exact opens_object _

theorem Record.keys_members (r : Record) :
    (r.members.map Prod.fst).Sublist ["path", "name", "view", "public", "children"] := by
  unfold members ownMembers
  split
  · exact List.sublist_append_left ["path", "name", "view", "public"] ["children"]
  · exact List.Sublist.refl _

end Writing

section Reading

theorem View.resolved_of_unresolved {v : View} (h : v.unresolved = v) : v.resolved = false := by
  rw [← h]
  rfl

theorem Record.unresolved_eq_self_iff {r : Record} :
    r.unresolved = r ↔ r.view.unresolved = r.view ∧ Route.unresolved r.children = r.children := by
  obtain ⟨path, name, view, isPublic, children⟩ := r
  simp [unresolved_eq]

theorem unresolved_eq_self_iff {rs : List Record} :
    unresolved rs = rs ↔ ∀ r ∈ rs, r.unresolved = r := by
  have hid : rs.map id = rs := List.map_id rs
  rw [unresolved_eq_map]
  nth_rewrite 2 [← hid]
  exact List.map_inj_left

def View.shape : Shape View where
  blank := ⟨"", false⟩
  fields := [.of "component" .always readString fun s v => { v with component := s }]

theorem View.recovers {v : View} (h : v.unresolved = v) {size depth : Nat}
    (hfits : Fits size depth v.toJson) : Recovers (View.reader size depth) v.toJson v := by
  obtain ⟨d, rfl, hfew, -⟩ := hfits.members
  obtain ⟨component, resolved⟩ := v
  obtain rfl : resolved = false := resolved_of_unresolved h
  have hfills : View.shape.Fills View.shape.blank [("component", .string component)] ⟨component, false⟩ :=
    .single (fun s (v : View) => { v with component := s }) rfl (recovers_string component) _
  refine hfills.recovers (List.nodup_singleton _) ?_ hfew _
  intro f hf _
  rw [List.mem_singleton.mp hf]
  exact List.mem_singleton.mpr rfl

/-- A record whose views are not located is got back, given readers that get back its view and its
children. -/
theorem Record.fills {view : Reader View} {children : Reader (List Record)} {r : Record}
    (hview : Recovers view r.view.toJson r.view)
    (hchildren : r.children ≠ [] → Recovers children (.array (r.children.map toJson)) r.children) :
    (shape view children).Fills (shape view children).blank r.members r := by
  obtain ⟨path, name, v, isPublic, rs⟩ := r
  have hpath : (shape view children).Fills (shape view children).blank [("path", .string path)]
      ⟨path, "", ⟨"", false⟩, false, []⟩ :=
    .single (fun s (r : Record) => { r with path := s }) rfl (recovers_string path) _
  have hname : (shape view children).Fills ⟨path, "", ⟨"", false⟩, false, []⟩
      [("name", .string name)] ⟨path, name, ⟨"", false⟩, false, []⟩ :=
    .single (fun s (r : Record) => { r with name := s }) rfl (recovers_string name) _
  have hview : (shape view children).Fills ⟨path, name, ⟨"", false⟩, false, []⟩
      [("view", v.toJson)] ⟨path, name, v, false, []⟩ :=
    .single (fun v (r : Record) => { r with view := v }) rfl hview _
  have hpublic : (shape view children).Fills ⟨path, name, v, false, []⟩
      [("public", .bool isPublic)] ⟨path, name, v, isPublic, []⟩ :=
    .single (fun b (r : Record) => { r with isPublic := b }) rfl (recovers_bool isPublic) _
  have hown := ((hpath.append hname).append hview).append hpublic
  unfold members
  split
  · next hnone =>
    dsimp only at hnone
    subst hnone
    exact hown.append (.nil _)
  · next hsome =>
    exact hown.append
      (.single (fun rs (r : Record) => { r with children := rs }) rfl (hchildren hsome) _)

theorem Record.recovers {view : Reader View} {children : Reader (List Record)} {r : Record} {size : Nat}
    (hfew : r.members.length < size) (hview : Recovers view r.view.toJson r.view)
    (hchildren : r.children ≠ [] → Recovers children (.array (r.children.map toJson)) r.children) :
    Recovers (readRecord size "struct RouteRecord" (some (shape view children))) r.toJson r := by
  rw [toJson_eq_members]
  refine (fills hview hchildren).recovers (r.keys_members.nodup (by decide)) ?_ hfew _
  intro f hf hneed
  simp only [shape, List.mem_cons, List.not_mem_nil, or_false] at hf
  rcases hf with rfl | rfl | rfl | rfl | rfl
  iterate 3 · simp [members, ownMembers, Field.of]
  all_goals cases hneed

theorem Record.mem_members_view (r : Record) : ("view", r.view.toJson) ∈ r.members := by
  simp [members, ownMembers, View.toJson]

theorem Record.mem_members_children {r : Record} (h : r.children ≠ []) :
    ("children", .array (r.children.map toJson)) ∈ r.members := by
  simp [members, h]

/-- At every depth the children are read with two levels less. -/
theorem Record.recovers_reader {size : Nat} : ∀ {depth : Nat} (r : Record), r.unresolved = r →
    Fits size depth r.toJson → Recovers (reader size depth) r.toJson r
  | 0, r, _, h => by
      rw [toJson_eq_members] at h
      obtain ⟨d, hd, -⟩ := h.members
      cases hd
  | 1, r, _, h => by
      rw [toJson_eq_members] at h
      obtain ⟨d, hd, -, hparts⟩ := h.members
      cases hd
      obtain ⟨d, hd, -⟩ := (hparts _ r.mem_members_view).members
      cases hd
  | depth + 2, r, hr, h => by
      rw [toJson_eq_members] at h
      obtain ⟨d, hd, hfew, hparts⟩ := h.members
      cases hd
      obtain ⟨hview, hchildren⟩ := unresolved_eq_self_iff.mp hr
      refine recovers hfew (View.recovers hview (hparts _ r.mem_members_view)) fun hsome => ?_
      obtain ⟨d, hd, hshort, hitems⟩ := (hparts _ (mem_members_children hsome)).items
      cases hd
      rw [List.length_map] at hshort
      refine recovers_list (fun child hchild => ⟨child.opens_toJson, ?_⟩) hshort
      exact recovers_reader child (Route.unresolved_eq_self_iff.mp hchildren child hchild)
        (hitems _ (List.mem_map_of_mem hchild))

end Reading

section Accepted

theorem View.yields_reader (size depth : Nat) :
    Yields (View.reader size (depth + 1)) fun v => v.unresolved = v := by
  have hkeeps : View.shape.Keeps fun v => v.unresolved = v := by
    refine ⟨rfl, fun f hf v hv => ?_⟩
    rw [List.mem_singleton.mp hf]
    refine Field.yields_of (fun _ _ _ _ => trivial) (fun s (_ : True) => ?_) _ _
    rw [View.unresolved, resolved_of_unresolved hv]
  exact hkeeps.record size _

theorem Record.keeps {view : Reader View} {children : Reader (List Record)} {P : List Record → Prop}
    (hview : Yields view fun v => v.unresolved = v) (hchildren : Yields children P) (hnone : P []) :
    (shape view children).Keeps fun r => r.view.unresolved = r.view ∧ P r.children where
  blank := ⟨rfl, hnone⟩
  field := by
    intro f hf r hr
    simp only [shape, List.mem_cons, List.not_mem_nil, or_false] at hf
    rcases hf with rfl | rfl | rfl | rfl | rfl
    case inr.inr.inl => exact Field.yields_of hview (fun _ hv => ⟨hv, hr.2⟩) _ _
    case inr.inr.inr.inr => exact Field.yields_of hchildren (fun _ hrs => ⟨hr.1, hrs⟩) _ _
    -- The other fields touch neither the view nor the children.
    all_goals exact Field.yields_of (fun _ _ _ _ => trivial) (fun _ (_ : True) => hr) _ _

theorem nesting_array_le {rs : List Record} {depth : Nat} (h : ∀ r ∈ rs, r.toJson.nesting ≤ depth) :
    nesting (.array (rs.map Record.toJson)) ≤ depth + 1 := by
  rw [nesting, Nat.add_le_add_iff_right, nestingItems_le]
  intro v hv
  obtain ⟨r, hr, rfl⟩ := List.mem_map.mp hv
  exact h r hr

theorem Record.nesting_toJson_le {r : Record} {depth : Nat}
    (h : ∀ child ∈ r.children, child.toJson.nesting ≤ depth) : r.toJson.nesting ≤ depth + 2 := by
  rw [toJson_eq_members, nesting, Nat.add_le_add_iff_right, nestingMembers_le, members,
    List.forall_mem_append]
  constructor
  · simp [ownMembers, nesting, nestingMembers]
  · split
    · exact fun m hm => absurd hm List.not_mem_nil
    · rw [List.forall_mem_singleton]
      exact nesting_array_le h

theorem Record.shape_names {view : Reader View} {children : Reader (List Record)} :
    ((shape view children).fields.map Field.name).Nodup := by
  change ["path", "name", "view", "public", "children"].Nodup
  decide

/-- A record that has been read has no view located, and it is nested no deeper than its reader could
go. -/
theorem Record.yields_reader (size : Nat) :
    ∀ depth : Nat, Yields (reader size depth) fun r => r.unresolved = r ∧ r.toJson.nesting ≤ depth
  | 0 => fun _ _ _ hr => absurd hr not_ok_readRecord_none
  | 1 => by
      intro cs r rest hr
      -- The view, which no record can do without, does not fit.
      obtain ⟨_, text, _, _, hview⟩ := Shape.readable_of_readRecord shape_names hr
        (.of "view" .always (View.reader size 0) fun v r => { r with view := v }) (by simp [shape]) rfl
      obtain ⟨v, hv, -⟩ := Field.read_of hview
      exact absurd hv (@not_ok_readRecord_none _ size _ _ _ _)
  | depth + 2 => by
      have hchildren := (yields_reader size depth).list size
      intro cs r rest hr
      have hr := (keeps (View.yields_reader size depth) hchildren
        fun _ h => absurd h List.not_mem_nil).record _ _ _ _ _ hr
      refine ⟨unresolved_eq_self_iff.mpr ⟨hr.1, ?_⟩, nesting_toJson_le fun c hc => (hr.2 c hc).2⟩
      exact Route.unresolved_eq_self_iff.mpr fun c hc => (hr.2 c hc).1

theorem yields_records (size depth : Nat) :
    Yields (Wire.reader size depth) fun rs : List Record =>
      unresolved rs = rs ∧ (Wire.toJson rs).nesting ≤ depth := by
  intro cs rs rest hr
  cases depth with
  | zero => exact absurd hr not_ok_readList_none
  | succ depth =>
    have hrs := (Record.yields_reader size depth).list size _ _ _ hr
    exact ⟨unresolved_eq_self_iff.mpr fun r h => (hrs r h).1, nesting_array_le fun r h => (hrs r h).2⟩

end Accepted

section Tables

variable {rs ss : List Record}

theorem recovers_records (h : unresolved rs = rs) {size depth : Nat}
    (hfits : Fits size depth (Wire.toJson rs)) :
    Recovers (Wire.reader size depth) (Wire.toJson rs) rs := by
  obtain ⟨d, rfl, hfew, hparts⟩ := hfits.items
  rw [List.length_map] at hfew
  refine recovers_list (fun r hr => ⟨r.opens_toJson, ?_⟩) hfew
  exact r.recovers_reader (unresolved_eq_self_iff.mp h r hr) (hparts _ (List.mem_map_of_mem hr))

theorem toJson_unresolved (rs : List Record) : Wire.toJson (unresolved rs) = Wire.toJson rs := by
  have hmap := recordsToJson_unresolved rs
  rw [recordsToJson_eq_map, recordsToJson_eq_map] at hmap
  exact congrArg Json.array hmap

theorem toJson_of_same (h : same rs ss = true) : Wire.toJson rs = Wire.toJson ss := by
  rw [← toJson_unresolved rs, ← toJson_unresolved ss, (same_iff rs ss).mp h]

theorem same_of_unresolved (rs : List Record) : same (unresolved rs) rs = true := by
  rw [same_iff, unresolved_unresolved]

theorem decode_encode_records (h : (Wire.toJson rs).nesting ≤ 127) :
    Wire.decode (Wire.encode rs) = .ok (unresolved rs) ∧
      Wire.decode (Wire.encodePretty rs) = .ok (unresolved rs) := by
  rw [Wire.encode, Wire.encodePretty, ← toJson_unresolved rs]
  rw [← toJson_unresolved rs] at h
  have hrecovers (size : Nat) := @recovers_records _ (unresolved_unresolved rs) size depthLimit
  exact ⟨readWhole_compact h hrecovers, readWhole_pretty h hrecovers⟩

/-- Tables that differ at most in which views are located give the same answers, and so they do after
any uses of each. -/
theorem answers_of_same (h : same rs ss = true) (before before' : List Step) :
    let t := (Browsing.after ⟨⟨rs⟩, []⟩ before).table
    let u := (Browsing.after ⟨⟨ss⟩, []⟩ before').table
    (∀ path, (t.resolve path).1 = (u.resolve path).1) ∧
    (∀ (kind : FilterKind) (permissions : List Permission),
      same (kind.apply permissions t.records) (kind.apply permissions u.records) = true) := by
  intro t u
  have hfresh : t.unresolved = u.unresolved := by
    rw [Browsing.unresolved_after, Browsing.unresolved_after]
    exact congrArg Table.mk ((same_iff rs ss).mp h)
  constructor
  · intro path
    have ht : (t.step (.resolve path)).1.unresolved = (u.step (.resolve path)).1.unresolved := by
      rw [Table.answer_unresolved, Table.answer_unresolved, hfresh]
    exact Answer.navigated.inj ht
  · intro kind permissions
    rw [same_iff, ← apply_unresolved, ← apply_unresolved]
    exact congrArg (fun w : Table => kind.apply permissions w.records) hfresh

/-- Route tables lose in their texts, compact or pretty, which views are located, and nothing else. What
is read from a text can be written and read again. -/
theorem records_roundTrip :
    (∀ rs : List Record, (Wire.toJson rs).nesting ≤ 127 →
      ∃ again : List Record, Wire.decode (Wire.encode rs) = .ok again ∧
        Wire.decode (Wire.encodePretty rs) = .ok again ∧ same again rs = true ∧
        (∀ p, ¬ IsResolvedAt p again) ∧
        ∀ before before' : List Step,
          let t := (Browsing.after ⟨⟨again⟩, []⟩ before).table
          let u := (Browsing.after ⟨⟨rs⟩, []⟩ before').table
          (∀ path, (t.resolve path).1 = (u.resolve path).1) ∧
          (∀ (kind : FilterKind) (permissions : List Permission),
            same (kind.apply permissions t.records) (kind.apply permissions u.records) = true)) ∧
    (∀ rs ss : List Record, same rs ss = true →
      Wire.encode rs = Wire.encode ss ∧ Wire.encodePretty rs = Wire.encodePretty ss) ∧
    (∀ rs : List Record, ∃ vs, List.Forall₂ Record.Written rs vs ∧
      Wire.encode rs = (Json.array vs).compact ∧ Wire.encodePretty rs = (Json.array vs).pretty) ∧
    ∀ (text : String) (rs : List Record), Wire.decode text = .ok rs →
      Wire.decode (Wire.encode rs) = .ok rs ∧ (∀ p, ¬ IsResolvedAt p rs) ∧
        (Wire.decode (Wire.encode rs)).map (fun again : List Record => Wire.encode again) =
          .ok (Wire.encode rs) := by
  refine ⟨fun rs h => ?_, fun rs ss h => ?_, fun rs => ⟨_, written_map_toJson rs, rfl, rfl⟩,
    fun text rs htext => ?_⟩
  · obtain ⟨hcompact, hpretty⟩ := decode_encode_records h
    refine ⟨unresolved rs, hcompact, hpretty, same_of_unresolved rs,
      fun p => not_isResolvedAt_unresolved p rs, answers_of_same (same_of_unresolved rs)⟩
  · rw [Wire.encode, Wire.encode, Wire.encodePretty, Wire.encodePretty, toJson_of_same h]
    exact ⟨rfl, rfl⟩
  · obtain ⟨hfresh, hnesting⟩ := Yields.whole (fun size => yields_records size depthLimit) htext
    have hagain := (decode_encode_records hnesting).1
    rw [hfresh] at hagain
    refine ⟨hagain, fun p => ?_, ?_⟩
    · rw [← hfresh]
      exact not_isResolvedAt_unresolved p rs
    · rw [hagain]
      rfl

end Tables

end ConsoleNav.Route
