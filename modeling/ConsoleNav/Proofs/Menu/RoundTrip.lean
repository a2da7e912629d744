import ConsoleNav.Menu.Wire
import ConsoleNav.Proofs.Json.Reading
import ConsoleNav.Proofs.Json.Yielding

/-!
Menus are read back from their texts: what was absent stays absent, what was empty stays empty. The
children of an entry take two levels of nesting, one for the entry and one for their list.
-/
namespace ConsoleNav.Menu

open Json

namespace Entry

def members (e : Entry) : List (String × Json) :=
  [("menuId", .string e.id)] ++ [("menuName", .string e.name)] ++
    optionalMember "menuIcon" (e.iconText.map .string) ++
    optionalMember "menuRoute" (e.routeText.map .string) ++
    optionalMember "children" (e.childList.map fun es => .array (es.map toJson)) ++
    optionalMember "parentMenuId" (e.parent.map .string)

end Entry

theorem entriesToJson_eq (es : List Entry) : entriesToJson es = es.map Entry.toJson := by
  induction es with
  | nil => rfl
  | cons e es ih => rw [entriesToJson, ih, List.map_cons]

namespace Entry

theorem toJson_eq (e : Entry) : e.toJson = .object e.members := by
  obtain ⟨id, name, icon, route, children, parent⟩ := e
  cases children with
  | none => simp [toJson, members, optionalMember]
  | some es => simp [toJson, members, optionalMember, entriesToJson_eq]

theorem opens_toJson (e : Entry) : Opens e.toJson := by
  rw [toJson_eq]
  exact opens_object _

end Entry

theorem mem_optionalMember {key : String} {v : Option Json} {m : String × Json}
    (h : m ∈ optionalMember key v) : v = some m.2 := by
  cases v with
  | none => exact absurd h List.not_mem_nil
  | some v => rw [List.mem_singleton.mp h]

theorem keys_optionalMember (key : String) (v : Option Json) :
    ((optionalMember key v).map Prod.fst).Sublist [key] := by
  cases v with
  | none => exact List.nil_sublist _
  | some v => exact List.Sublist.refl _

namespace Entry

def keys : List String :=
  ["menuId", "menuName", "menuIcon", "menuRoute", "children", "parentMenuId"]

theorem keys_members (e : Entry) : (e.members.map Prod.fst).Sublist keys := by
  simp only [members, List.map_append]
  have hkeys : keys = ["menuId"] ++ ["menuName"] ++ ["menuIcon"] ++ ["menuRoute"] ++ ["children"] ++
    ["parentMenuId"] := rfl
  rw [hkeys]
  iterate 4 refine List.Sublist.append ?_ (keys_optionalMember _ _)
  exact List.Sublist.refl _

end Entry

section Reading

variable {α β : Type} {shape : Shape α}

/-- A member that is left out leaves the record as it is. -/
theorem fills_optional {key : String} {need : Need} {r : Reader β} {toJson : β → Json} {a : α}
    (store : Option β → α → α)
    (field : shape.fields.find? (fun f => f.name == key) = some (.of key need (readOption r) store))
    (hnone : store none a = a) {o : Option β}
    (h : ∀ b ∈ o, Recovers r (toJson b) b ∧ Opens (toJson b) ∧ (toJson b).opening ≠ some 'n') :
    shape.Fills a (optionalMember key (o.map toJson)) (store o a) := by
  cases o with
  | none =>
    rw [hnone]
    exact .nil a
  | some b =>
    obtain ⟨hb, ho, hn⟩ := h b rfl
    exact .single store field (hb.option ho hn) a

theorem fills_string {key : String} {need : Need} {a : α} (store : Option String → α → α)
    (field : shape.fields.find? (fun f => f.name == key) =
      some (.of key need (readOption readString) store))
    (hnone : store none a = a) (o : Option String) :
    shape.Fills a (optionalMember key (o.map .string)) (store o a) := by
  refine fills_optional store field hnone fun s _ => ⟨recovers_string s, opens_string s, ?_⟩
  simp [opening]

end Reading

namespace Entry

theorem fills {children : Reader (List Entry)} (e : Entry)
    (h : ∀ es ∈ e.childList, Recovers children (.array (es.map toJson)) es) :
    (shape children).Fills (shape children).blank e.members e := by
  obtain ⟨id, name, icon, route, childList, parent⟩ := e
  have hid : (shape children).Fills (shape children).blank [("menuId", .string id)]
      ⟨id, "", none, none, none, none⟩ :=
    .single (fun s (e : Entry) => { e with id := s }) rfl (recovers_string id) _
  have hname : (shape children).Fills ⟨id, "", none, none, none, none⟩ [("menuName", .string name)]
      ⟨id, name, none, none, none, none⟩ :=
    .single (fun s (e : Entry) => { e with name := s }) rfl (recovers_string name) _
  have hicon : (shape children).Fills ⟨id, name, none, none, none, none⟩
      (optionalMember "menuIcon" (icon.map .string)) ⟨id, name, icon, none, none, none⟩ :=
    fills_string (fun s (e : Entry) => { e with iconText := s }) rfl rfl icon
  have hroute : (shape children).Fills ⟨id, name, icon, none, none, none⟩
      (optionalMember "menuRoute" (route.map .string)) ⟨id, name, icon, route, none, none⟩ :=
    fills_string (fun s (e : Entry) => { e with routeText := s }) rfl rfl route
  have hchildren : (shape children).Fills ⟨id, name, icon, route, none, none⟩
      (optionalMember "children" (childList.map fun es => .array (es.map toJson)))
      ⟨id, name, icon, route, childList, none⟩ :=
    fills_optional (fun es (e : Entry) => { e with childList := es }) rfl rfl fun es hes =>
      ⟨h es hes, opens_array _, by simp [opening]⟩
  have hparent : (shape children).Fills ⟨id, name, icon, route, childList, none⟩
      (optionalMember "parentMenuId" (parent.map .string))
      ⟨id, name, icon, route, childList, parent⟩ :=
    fills_string (fun s (e : Entry) => { e with parent := s }) rfl rfl parent
  exact ((((hid.append hname).append hicon).append hroute).append hchildren).append hparent

theorem recovers {children : Reader (List Entry)} (e : Entry) {size : Nat}
    (hs : e.members.length < size) (name : String)
    (h : ∀ es ∈ e.childList, Recovers children (.array (es.map toJson)) es) :
    Recovers (readRecord size name (some (shape children))) e.toJson e := by
  rw [toJson_eq]
  refine (e.fills h).recovers ?_ ?_ hs name
  · exact e.keys_members.nodup (by decide)
  · intro f hf hneed
    simp only [shape, List.mem_cons, List.not_mem_nil, or_false] at hf
    rcases hf with rfl | rfl | rfl | rfl | rfl | rfl
    · simp [members, Field.of]
    · simp [members, Field.of]
    all_goals cases hneed

theorem mem_members_children {e : Entry} {es : List Entry} (h : es ∈ e.childList) :
    ("children", .array (es.map toJson)) ∈ e.members := by
  simp [members, optionalMember, Option.mem_def.mp h]

/-- At every depth the children are read with two levels less. -/
theorem recovers_reader {size : Nat} : ∀ {depth : Nat} (e : Entry), Fits size depth e.toJson →
    Recovers (reader size depth) e.toJson e
  | 0, e, h => by
      rw [toJson_eq] at h
      obtain ⟨d, hd, -⟩ := h.members
      cases hd
  | 1, e, h => by
      rw [toJson_eq] at h
      obtain ⟨d, hd, hfew, hparts⟩ := h.members
      cases hd
      refine e.recovers hfew _ fun es hes => ?_
      obtain ⟨d, hd, -⟩ := (hparts _ (mem_members_children hes)).items
      cases hd
  | depth + 2, e, h => by
      rw [toJson_eq] at h
      obtain ⟨d, hd, hfew, hparts⟩ := h.members
      cases hd
      refine e.recovers hfew _ fun es hes => ?_
      obtain ⟨d, hd, hshort, hitems⟩ := (hparts _ (mem_members_children hes)).items
      cases hd
      rw [List.length_map] at hshort
      refine recovers_list (fun child hchild => ⟨child.opens_toJson, ?_⟩) hshort
      exact recovers_reader child (hitems _ (List.mem_map_of_mem hchild))

theorem keeps {children : Reader (List Entry)} {P : List Entry → Prop} (h : Yields children P) :
    (shape children).Keeps fun e => ∀ es ∈ e.childList, P es where
  blank _ hes := absurd hes (Option.not_mem_none _)
  field := by
    intro f hf e he
    simp only [shape, List.mem_cons, List.not_mem_nil, or_false] at hf
    rcases hf with rfl | rfl | rfl | rfl | rfl | rfl
    case inr.inr.inr.inr.inl => exact Field.yields_of h.option (fun _ hes => hes) _ _
    -- No other field touches the children.
    all_goals exact Field.yields_of (fun _ _ _ _ => trivial) (fun _ (_ : True) => he) _ _

theorem nesting_toJson_le {e : Entry} {depth : Nat}
    (h : ∀ es ∈ e.childList, nesting (.array (es.map toJson)) ≤ depth) : e.toJson.nesting ≤ depth + 1 := by
  have hstring (s : Option String) (key : String) :
      ∀ m ∈ optionalMember key (s.map .string), m.2.nesting ≤ depth := by
    intro m hm
    obtain ⟨s, -, hs⟩ := Option.map_eq_some_iff.mp (mem_optionalMember hm)
    rw [← hs]
    exact Nat.zero_le _
  have hchildren : ∀ m ∈ optionalMember "children" (e.childList.map fun es => .array (es.map toJson)),
      m.2.nesting ≤ depth := by
    intro m hm
    obtain ⟨es, hes, hm⟩ := Option.map_eq_some_iff.mp (mem_optionalMember hm)
    rw [← hm]
    exact h es hes
  rw [toJson_eq, nesting, Nat.add_le_add_iff_right, nestingMembers_le]
  simp only [members, List.forall_mem_append, List.forall_mem_singleton]
  exact ⟨⟨⟨⟨⟨Nat.zero_le _, Nat.zero_le _⟩, hstring _ _⟩, hstring _ _⟩, hchildren⟩, hstring _ _⟩

end Entry

theorem nesting_array_le {es : List Entry} {depth : Nat} (h : ∀ e ∈ es, e.toJson.nesting ≤ depth) :
    nesting (.array (es.map Entry.toJson)) ≤ depth + 1 := by
  rw [nesting, Nat.add_le_add_iff_right, nestingItems_le]
  intro v hv
  obtain ⟨e, he, rfl⟩ := List.mem_map.mp hv
  exact h e he

namespace Entry

/-- An entry that has been read is nested no deeper than its reader could go. -/
theorem yields_reader (size : Nat) :
    ∀ depth : Nat, Yields (reader size depth) fun e => e.toJson.nesting ≤ depth
  | 0 => fun _ _ _ hr => absurd hr not_ok_readRecord_none
  | 1 => by
      have hchildren : Yields (readList size none) fun _ : List Entry => False :=
        fun _ _ _ hr => not_ok_readList_none hr
      intro cs e rest hr
      have he := (keeps hchildren).record _ _ _ _ _ hr
      exact nesting_toJson_le fun es hes => (he es hes).elim
  | depth + 2 => by
      have hchildren := (yields_reader size depth).list size
      intro cs e rest hr
      have he := (keeps hchildren).record _ _ _ _ _ hr
      exact nesting_toJson_le fun es hes => nesting_array_le (he es hes)

end Entry

section Menus

theorem recovers_menu {size depth : Nat} (menu : List Entry) (h : Fits size depth (Wire.toJson menu)) :
    Recovers (Wire.reader size depth) (Wire.toJson menu) menu := by
  obtain ⟨d, rfl, hfew, hparts⟩ := h.items
  rw [List.length_map] at hfew
  refine recovers_list (fun e he => ⟨e.opens_toJson, ?_⟩) hfew
  exact e.recovers_reader (hparts _ (List.mem_map_of_mem he))

theorem yields_menu (size depth : Nat) :
    Yields (Wire.reader size depth) fun menu : List Entry => (Wire.toJson menu).nesting ≤ depth := by
  intro cs menu rest hr
  cases depth with
  | zero => exact absurd hr not_ok_readList_none
  | succ depth => exact nesting_array_le ((Entry.yields_reader size depth).list size _ _ _ hr)

theorem denotes_menu (menu : List Entry) : Denotes (Wire.encode menu) menu :=
  denotes_encode fun _ _ => recovers_menu menu

theorem Entry.denotes (e : Entry) : Denotes (Wire.encode e) e :=
  denotes_encode fun _ _ => e.recovers_reader

theorem decode_encode {menu : List Entry} (h : (Wire.toJson menu).nesting ≤ 127) :
    Wire.decode (Wire.encode menu) = .ok menu :=
  (denotes_menu menu).decode h

theorem decode_encodePretty {menu : List Entry} (h : (Wire.toJson menu).nesting ≤ 127) :
    Wire.decode (Wire.encodePretty menu) = .ok menu :=
  readWhole_pretty h fun _ => recovers_menu menu

theorem nesting_of_decode {text : String} {menu : List Entry} (h : Wire.decode text = .ok menu) :
    (Wire.toJson menu).nesting ≤ 127 :=
  Yields.whole (fun size => yields_menu size depthLimit) h

/-- Menus lose nothing in their texts, compact or pretty, up to the nesting that readers allow; and what
is read from a text can be written and read again. -/
theorem wire_roundTrip :
    (∀ menu : List Entry, (Wire.toJson menu).nesting ≤ 127 →
      Wire.decode (Wire.encode menu) = .ok menu ∧ Wire.decode (Wire.encodePretty menu) = .ok menu) ∧
    ∀ (text : String) (menu : List Entry), Wire.decode text = .ok menu →
      Wire.decode (Wire.encode menu) = .ok menu ∧
        (Wire.decode (Wire.encode menu)).map (fun again : List Entry => Wire.encode again) =
          .ok (Wire.encode menu) := by
  refine ⟨fun menu h => ⟨decode_encode h, decode_encodePretty h⟩, fun text menu htext => ?_⟩
  have h := decode_encode (nesting_of_decode htext)
  refine ⟨h, ?_⟩
  rw [h]
  rfl

end Menus

end ConsoleNav.Menu
