import ConsoleNav.Config.File
import ConsoleNav.Proofs.Json.Records

/-!
Settings and their texts. A text gives any of the settings, in any order and among members that are none;
what is written of settings gives all of them.
-/
namespace ConsoleNav.Config

open Json

section Origins

variable {size depth : Nat} {o : MenuOrigin} {url : String} {retries : UInt32}

def MenuOrigin.kindName : MenuOrigin → String
  | .builtIn => "fixture"
  | .remote _ _ => "remote"

/-- The names that mean something for an origin. -/
def MenuOrigin.names : MenuOrigin → List String
  | .builtIn => ["kind"]
  | .remote _ _ => ["kind", "url", "retries"]

/-- A member in a text of an origin. Where its name means nothing, it is any value that can be read. -/
inductive MenuOrigin.IsMember (depth : Nat) : MenuOrigin → String → List Char → Prop
  | kind {o : MenuOrigin} {text : List Char} (h : IsString o.kindName text) : IsMember depth o "kind" text
  | url {url : String} {retries : UInt32} {text : List Char} (h : IsString url text) :
      IsMember depth (.remote url retries) "url" text
  | retries (url : String) (retries : UInt32) :
      IsMember depth (.remote url retries) "retries" (toString retries.toNat).toList
  | other {o : MenuOrigin} {name : String} {v : Json} {text : List Char} (unknown : name ∉ o.names)
      (h : Spells depth v text) : IsMember depth o name text

/-- Only two retries need not be given. -/
inductive MenuOrigin.Needs : MenuOrigin → String → Prop
  | kind (o : MenuOrigin) : Needs o "kind"
  | url (url : String) (retries : UInt32) : Needs (.remote url retries) "url"
  | retries {url : String} {retries : UInt32} (h : retries ≠ 2) : Needs (.remote url retries) "retries"

/-- A text of an origin in which values are nested at most `depth` deep. -/
def MenuOrigin.IsText (depth : Nat) (o : MenuOrigin) : List Char → Prop :=
  IsObject (o.IsMember depth) o.names o.Needs

/-- A value under a name that is not the tag. -/
inductive MenuOrigin.Holds : MenuOrigin → String → Json → Prop
  | url (url : String) (retries : UInt32) : Holds (.remote url retries) "url" (.string url)
  | retries (url : String) (retries : UInt32) :
      Holds (.remote url retries) "retries" (.number (.int retries.toNat))
  | other {o : MenuOrigin} {name : String} {v : Json} (unknown : name ∉ o.names) : Holds o name v

theorem MenuOrigin.kind_mem_names (o : MenuOrigin) : "kind" ∈ o.names := by
  cases o with
  | builtIn | remote => exact List.mem_cons_self

theorem MenuOrigin.IsMember.isString_kind {text : List Char} (h : o.IsMember depth "kind" text) :
    IsString o.kindName text := by
  generalize hname : "kind" = name at h
  cases h with
  | kind h => exact h
  | other unknown => exact absurd (hname ▸ o.kind_mem_names) unknown
  | url | retries => exact absurd hname (by decide)

theorem MenuOrigin.IsMember.exists_holds {name : String} {text : List Char} (h : o.IsMember depth name text)
    (hname : name ≠ "kind") : ∃ v, Spells depth v text ∧ o.Holds name v := by
  cases h with
  | kind => exact absurd rfl hname
  | url h => exact ⟨_, h.spells depth, .url _ _⟩
  | retries url retries =>
    have hlt := retries.toNat_lt
    refine ⟨_, .number (n := .int retries.toNat) ?_, .retries url retries⟩
    rw [toList_toString_nat]
    exact readNumber_toString ⟨by omega, by omega⟩
  | other unknown h => exact ⟨_, h, .other unknown⟩

def urlPart : Json.Part (String × UInt32) :=
  ⟨"url", .always, fun o v => do .ok (← takeString v, o.2)⟩

def retriesPart : Json.Part (String × UInt32) :=
  ⟨"retries", .never, fun o v => do .ok (o.1, UInt32.ofNat (← takeNat "u32" UInt32.size v))⟩

def remoteParts : List (Json.Part (String × UInt32)) :=
  [urlPart, retriesPart]

theorem take_retriesPart (o : String × UInt32) (retries : UInt32) :
    retriesPart.take o (.number (.int retries.toNat)) = .ok (o.1, retries) := by
  have htake (v : Json) :
      retriesPart.take o v = (do .ok (o.1, UInt32.ofNat (← takeNat "u32" UInt32.size v))) := rfl
  rw [htake, takeNat_of_lt retries.toNat_lt_size]
  simp only [bind, Except.bind]
  rw [UInt32.ofNat_toNat]

/-- The parts of a remote origin as far as they are given. -/
def remoteOf (url : String) (retries : UInt32) (given : List String) : String × UInt32 :=
  (if "url" ∈ given then url else "", if "retries" ∈ given then retries else defaultRetries)

theorem find?_remoteParts {name : String} (h : name ∉ ["url", "retries"]) :
    remoteParts.find? (fun p => p.name == name) = none := by
  simp only [List.mem_cons, List.not_mem_nil, or_false, not_or] at h
  simp [remoteParts, urlPart, retriesPart, Ne.symm h.1, Ne.symm h.2]

theorem exists_remotePart {name : String} {v : Json} (h : (MenuOrigin.remote url retries).Holds name v)
    (hpart : name ∈ ["url", "retries"]) (given : List String) :
    ∃ p, remoteParts.find? (fun p => p.name == name) = some p ∧
      p.take (remoteOf url retries given) v = .ok (remoteOf url retries (name :: given)) := by
  cases h with
  | url =>
    have hstate : remoteOf url retries ("url" :: given) = (url, (remoteOf url retries given).2) := by
      simp [remoteOf]
    rw [hstate]
    exact ⟨urlPart, rfl, rfl⟩
  | retries =>
    have hstate : remoteOf url retries ("retries" :: given) = ((remoteOf url retries given).1, retries) := by
      simp [remoteOf]
    rw [hstate]
    exact ⟨retriesPart, rfl, take_retriesPart _ retries⟩
  | other unknown => exact absurd (List.mem_cons_of_mem _ hpart) unknown

theorem takeMembers_remote {ms : List (String × Json)} {given : List String}
    (h : ∀ m ∈ ms, (MenuOrigin.remote url retries).Holds m.1 m.2)
    (once : ms.Pairwise fun m n => m.1 = n.1 → m.1 ∉ ["url", "retries"])
    (hnew : ∀ m ∈ ms, m.1 ∈ given → m.1 ∉ ["url", "retries"]) :
    ∃ given', takeMembers remoteParts ms given (remoteOf url retries given) =
        .ok (given', remoteOf url retries given') ∧
      ∀ name ∈ ["url", "retries"], name ∈ given' ↔ name ∈ given ∨ name ∈ ms.map Prod.fst := by
  -- The parts taken so far are a function of the names given so far, and stay one with every member.
  induction ms generalizing given with
  | nil => exact ⟨given, rfl, fun name _ => by simp⟩
  | cons m ms ih =>
    obtain ⟨key, v⟩ := m
    rw [List.forall_mem_cons] at h hnew
    rw [List.pairwise_cons] at once
    simp only [List.map_cons, List.mem_cons (b := key)]
    by_cases hpart : key ∈ ["url", "retries"]
    · have hfresh : ∀ m ∈ ms, m.1 ∈ key :: given → m.1 ∉ ["url", "retries"] := by
        intro m hm hmem
        rcases List.mem_cons.mp hmem with heq | hmem
        · exact absurd hpart (once.1 m hm heq.symm)
        · exact hnew.2 m hm hmem
      obtain ⟨given', htake, hgiven⟩ := ih h.2 once.2 hfresh
      obtain ⟨p, hfind, hp⟩ := exists_remotePart h.1 hpart given
      refine ⟨given', ?_, fun name hname => ?_⟩
      · rw [takeMembers_known hfind (fun hmem => hnew.1 hmem hpart) hp]
        exact htake
      · rw [hgiven name hname, List.mem_cons, or_assoc, or_left_comm]
    · obtain ⟨given', htake, hgiven⟩ := ih h.2 once.2 hnew.2
      refine ⟨given', ?_, fun name hname => ?_⟩
      · rw [takeMembers_unknown (find?_remoteParts hpart)]
        exact htake
      · have hne : name ≠ key := fun heq => hpart (heq ▸ hname)
        rw [hgiven name hname, or_iff_right hne]

theorem take_nothing {name : String} {α : Type} (a : α) (ms : List (String × Json)) :
    (Body.members ms).take name a [] = .ok a := by
  have htake : takeMembers [] ms [] a = .ok ([], a) := by
    induction ms with
    | nil => rfl
    | cons m ms ih => rw [takeMembers_unknown rfl, ih]
  rw [Body.take, htake]
  rfl

theorem take_remoteParts {ms : List (String × Json)} (name : String)
    (h : ∀ m ∈ ms, (MenuOrigin.remote url retries).Holds m.1 m.2)
    (once : ms.Pairwise fun m n => m.1 = n.1 → m.1 ∉ ["url", "retries"]) (hurl : "url" ∈ ms.map Prod.fst)
    (hretries : "retries" ∉ ms.map Prod.fst → retries = 2) :
    (Body.members ms).take name ("", defaultRetries) remoteParts = .ok (url, retries) := by
  obtain ⟨given, htake, hgiven⟩ :=
    @takeMembers_remote url retries ms [] h once fun _ _ hmem => absurd hmem List.not_mem_nil
  have hnone : remoteOf url retries [] = ("", defaultRetries) := rfl
  have hmem : "url" ∈ given := (hgiven "url" (by simp)).mpr (.inr hurl)
  have hmissing : remoteParts.find? (fun p => p.need == .always && !given.contains p.name) = none := by
    simp [remoteParts, urlPart, retriesPart, hmem]
  have hall : remoteOf url retries given = (url, retries) := by
    rw [remoteOf, if_pos hmem]
    split
    · rfl
    · next hleft =>
      rw [hretries fun hmem => hleft ((hgiven "retries" (by simp)).mpr (.inr hmem))]
      rfl
  rw [Body.take, ← hnone, htake]
  simp only [hmissing, hall, bind, Except.bind]

def MenuOrigin.kind : MenuOrigin → OriginKind
  | .builtIn => .builtIn
  | .remote _ _ => .remote

theorem MenuOrigin.find?_kind (o : MenuOrigin) :
    originKinds.find? (fun v => v.1 == o.kindName) = some (o.kindName, o.kind) := by
  cases o with
  | builtIn | remote => rfl

theorem MenuOrigin.ofBody_members {ms : List (String × Json)} (h : ∀ m ∈ ms, o.Holds m.1 m.2)
    (once : ms.Pairwise fun m n => m.1 = n.1 → m.1 ∉ o.names)
    (all : ∀ name, o.Needs name → name = "kind" ∨ name ∈ ms.map Prod.fst) :
    ofBody o.kind (.members ms) = .ok o := by
  cases o with
  | builtIn =>
    rw [kind, ofBody, take_nothing]
    rfl
  | remote url retries =>
    have hparts : ms.Pairwise fun m n => m.1 = n.1 → m.1 ∉ ["url", "retries"] :=
      once.imp fun hne heq hmem => hne heq (List.mem_cons_of_mem _ hmem)
    have hurl := (all _ (.url url retries)).resolve_left (by decide)
    have hretries : "retries" ∉ ms.map Prod.fst → retries = 2 := by
      intro hleft
      by_contra hne
      exact hleft ((all _ (.retries hne)).resolve_left (by decide))
    have htake := take_remoteParts "struct variant MenuSourceConfig::Remote" h hparts hurl hretries
    unfold remoteParts urlPart retriesPart at htake
    rw [kind, ofBody, htake]
    rfl

/-- An object whose tag stands between the members `before` and `after`, which hold the values of an
origin. -/
structure MenuOrigin.IsMade (depth : Nat) (o : MenuOrigin)
    (before after : List ((String × Json) × (List Char × List Char))) (quoted tag cs : List Char) : Prop where
  members : MembersText true (before.map Prod.snd ++ (quoted, tag) :: after.map Prod.snd) cs
  quotes : Quotes quoted "kind".toList
  kind : IsString o.kindName tag
  keys : ∀ p ∈ before ++ after, Quotes p.2.1 p.1.1.toList
  others : ∀ p ∈ before ++ after, p.1.1 ≠ "kind"
  values : ∀ p ∈ before ++ after, Spells depth p.1.2 p.2.2
  holds : ∀ p ∈ before ++ after, o.Holds p.1.1 p.1.2
  once : (before ++ after).Pairwise fun p q => p.1.1 = q.1.1 → p.1.1 ∉ o.names
  all : ∀ name, o.Needs name → name = "kind" ∨ name ∈ (before ++ after).map fun p => p.1.1

theorem exists_map_eq {α β : Type} {g : β → α} {P : β → Prop} {xs : List α}
    (h : ∀ x ∈ xs, ∃ y, g y = x ∧ P y) : ∃ ys : List β, ys.map g = xs ∧ ∀ y ∈ ys, P y := by
  induction xs with
  | nil => exact ⟨[], rfl, fun _ hy => absurd hy List.not_mem_nil⟩
  | cons x xs ih =>
    rw [List.forall_mem_cons] at h
    obtain ⟨⟨y, rfl, hy⟩, hxs⟩ := h
    obtain ⟨ys, rfl, hys⟩ := ih hxs
    exact ⟨y :: ys, rfl, List.forall_mem_cons.mpr ⟨hy, hys⟩⟩

theorem MenuOrigin.IsText.exists_isMade {text : List Char} (h : o.IsText depth text) :
    ∃ before after quoted tag cs, text = '\x7b' :: cs ∧ o.IsMade depth before after quoted tag cs := by
  cases h with
  | @mk parts cs members keys values once all =>
    obtain ⟨⟨_, quoted, tag⟩, hmem, rfl⟩ := List.mem_map.mp (all _ (.kind o))
    obtain ⟨before, after, rfl⟩ := List.append_of_mem hmem
    have hsymm {p q : String × (List Char × List Char)} (h : p.1 = q.1 → p.1 ∉ o.names) :
        q.1 = p.1 → q.1 ∉ o.names := fun heq => heq ▸ h heq.symm
    rw [List.pairwise_middle hsymm, List.pairwise_cons] at once
    have hkept : before ++ after ⊆ before ++ ("kind", quoted, tag) :: after := by simp
    have hothers : ∀ p ∈ before ++ after, p.1 ≠ "kind" := fun p hp heq =>
      once.1 p hp heq.symm o.kind_mem_names
    have hvalues : ∀ p ∈ before ++ after, ∃ q : (String × Json) × (List Char × List Char),
        (q.1.1, q.2) = p ∧ Spells depth q.1.2 q.2.2 ∧ o.Holds q.1.1 q.1.2 := by
      intro p hp
      obtain ⟨v, hv⟩ := (values p (hkept hp)).exists_holds (hothers p hp)
      exact ⟨((p.1, v), p.2), rfl, hv⟩
    obtain ⟨valued, hsplit, hheld⟩ := exists_map_eq hvalues
    obtain ⟨before, after, rfl, rfl, rfl⟩ := List.map_eq_append_iff.mp hsplit
    rw [← List.map_append] at hkept hothers once
    refine ⟨before, after, quoted, tag, cs, rfl, ?_, keys _ hmem, (values _ hmem).isString_kind, ?_, ?_,
      fun q hq => (hheld q hq).1, fun q hq => (hheld q hq).2, List.pairwise_map.mp once.2,
      fun name hname => ?_⟩
    · rwa [List.map_append, List.map_cons, List.map_map, List.map_map] at members
    · exact fun q hq => keys _ (hkept (List.mem_map_of_mem hq))
    · exact fun q hq => hothers _ (List.mem_map_of_mem hq)
    · have hname := all name hname
      simp only [List.map_append, List.map_cons, List.map_map, List.mem_append, List.mem_cons] at hname ⊢
      tauto

theorem MenuOrigin.IsText.reads {text : List Char} (h : o.IsText depth text) (hs : text.length ≤ size) :
    Reads (MenuOrigin.reader size (depth + 1)) text o := by
  obtain ⟨before, after, quoted, tag, cs, rfl, hmade⟩ := h.exists_isMade
  have hbody : ofBody o.kind (.members ((before ++ after).map Prod.fst)) = .ok o := by
    refine ofBody_members (List.forall_mem_map.mpr hmade.holds) (List.pairwise_map.mpr hmade.once) ?_
    rw [List.map_map]
    exact hmade.all
  rw [List.length_cons] at hs
  have hvalues : ∀ p ∈ before ++ after, p.1.1 ≠ "kind" ∧ Reads (readValue size depth) p.2.2 p.1.2 := by
    intro p hp
    have hpart : p.2 ∈ before.map Prod.snd ++ (quoted, tag) :: after.map Prod.snd := by
      rw [List.mem_append] at hp ⊢
      exact hp.imp List.mem_map_of_mem fun hp => List.mem_cons_of_mem _ (List.mem_map_of_mem hp)
    have hlength := hmade.members.length_le_of_mem p.2 hpart
    exact ⟨hmade.others p hp, reads_value (hmade.values p hp) (Nat.le_of_lt (Nat.lt_of_le_of_lt hlength hs))⟩
  have hread := reads_tagged hmade.members hmade.quotes (hmade.kind.reads_tag o.find?_kind) hmade.keys hvalues
    (Nat.le_of_lt hs) "internally tagged enum MenuSourceConfig"
  intro gap rest hgap hrest
  simp only [reader, Wire.inner, hread gap rest hgap hrest, hbody, here, bind, Except.bind]

/-- What is written of an origin is a text of it. -/
theorem MenuOrigin.isText_spell (o : MenuOrigin) (st : Style) (level : Nat) :
    o.IsText depth (o.toJson.spell st level) := by
  cases o with
  | builtIn =>
    refine isObject_spell ?_ (by simp) ?_
    · rw [List.forall_mem_singleton]
      exact .kind (isString_quote "fixture")
    · rintro name ⟨⟩
      exact List.mem_cons_self
  | remote url retries =>
    refine isObject_spell ?_ (by simp) ?_
    · simp only [List.forall_mem_cons, spell_nat]
      exact ⟨.kind (isString_quote "remote"), .url (isString_quote url), .retries url retries,
        fun _ hm => absurd hm List.not_mem_nil⟩
    · intro name hname
      cases hname with
      | kind | url | retries => simp

end Origins

section Layers

variable {l : Layer}

/-- A text of a value that a layer has for the setting of the given name. The objects around it take up two
of the 127 levels that an origin may be nested in. -/
inductive Layer.Setting (l : Layer) : String → List Char → Prop
  | host {s : String} {text : List Char} (given : l.host = some s) (h : IsString s text) :
      Setting l "host" text
  | port {p : UInt16} (given : l.port = some p) : Setting l "port" (toString p.toNat).toList
  | menuOrigin {o : MenuOrigin} {text : List Char} (given : l.menuOrigin = some o)
      (h : o.IsText 125 text) : Setting l "menu_source" text
  | loadTimeout {t : UInt64} (given : l.loadTimeout = some t) :
      Setting l "load_timeout_ms" (toString t.toNat).toList
  | routeFilter {k : Route.FilterKind} {text : List Char} (given : l.routeFilter = some k)
      (h : IsString k.name text) : Setting l "route_filter" text
  | loadOnStartup {b : Bool} (given : l.loadOnStartup = some b) :
      Setting l "load_on_startup" (if b then "true" else "false").toList

def settingNames : List String :=
  ["host", "port", "menu_source", "load_timeout_ms", "route_filter", "load_on_startup"]

/-- A text of all the settings that a layer has, in any order, with any members among them that are no
settings. -/
def Layer.IsText (l : Layer) : List Char → Prop :=
  IsObject (fun name text => l.Setting name text ∨ name ∉ settingNames ∧ IsWellFormed text) settingNames
    fun name => ∃ text, l.Setting name text

/-- A layer cut down to the settings of the given names. -/
def Layer.only (l : Layer) (names : List String) : Layer where
  host := if "host" ∈ names then l.host else none
  port := if "port" ∈ names then l.port else none
  menuOrigin := if "menu_source" ∈ names then l.menuOrigin else none
  loadTimeout := if "load_timeout_ms" ∈ names then l.loadTimeout else none
  routeFilter := if "route_filter" ∈ names then l.routeFilter else none
  loadOnStartup := if "load_on_startup" ∈ names then l.loadOnStartup else none

theorem Layer.only_unknown {name : String} (h : name ∉ settingNames) (names : List String) :
    l.only (name :: names) = l.only names := by
  simp only [settingNames, List.mem_cons, List.not_mem_nil, or_false, not_or] at h
  obtain ⟨h₁, h₂, h₃, h₄, h₅, h₆⟩ := h
  simp only [Layer.only, List.mem_cons, Ne.symm h₁, Ne.symm h₂, Ne.symm h₃, Ne.symm h₄, Ne.symm h₅,
    Ne.symm h₆, false_or]

theorem ite_some_eq_self {α : Type} {o : Option α} {P : Prop} [Decidable P] (h : ∀ a, o = some a → P) :
    (if P then o else none) = o := by
  cases o with
  | none => exact ite_self none
  | some a => exact if_pos (h a rfl)

theorem Layer.only_all {names : List String} (h : ∀ name, (∃ text, l.Setting name text) → name ∈ names) :
    l.only names = l := by
  cases l with
  | mk host port menuOrigin loadTimeout routeFilter loadOnStartup =>
    simp only [Layer.only, Layer.mk.injEq]
    refine ⟨ite_some_eq_self fun s hs => h _ ⟨_, .host hs (isString_quote s)⟩,
      ite_some_eq_self fun p hp => h _ ⟨_, .port hp⟩,
      ite_some_eq_self fun o ho => h _ ⟨_, .menuOrigin ho (o.isText_spell .compact 0)⟩,
      ite_some_eq_self fun t ht => h _ ⟨_, .loadTimeout ht⟩,
      ite_some_eq_self fun k hk => h _ ⟨_, .routeFilter hk (isString_quote k.name)⟩,
      ite_some_eq_self fun b hb => h _ ⟨_, .loadOnStartup hb⟩⟩

theorem find?_variants (k : Route.FilterKind) :
    Route.FilterKind.variants.find? (fun v => v.1 == k.name) = some (k.name, k) := by
  cases k with
  | passThrough | permission => rfl

variable {size : Nat} {name : String} {text : List Char}

/-- A setting is read by the field of its name. -/
theorem Layer.Setting.exists_field (h : l.Setting name text) (hs : text.length ≤ size)
    (names : List String) : ∃ f, (Layer.shape size 126).field? name = some f ∧
      Reads (f.read (l.only names)) text (l.only (name :: names)) := by
  cases h with
  | host given h => exact Shape.exists_field rfl (h.reads _) (by simp [Layer.only, given])
  | @port p given =>
    exact Shape.exists_field rfl (reads_nat p.toNat_lt_size (by decide) _) (by simp [Layer.only, given])
  | menuOrigin given h => exact Shape.exists_field rfl (h.reads hs) (by simp [Layer.only, given])
  | @loadTimeout t given =>
    exact Shape.exists_field rfl (reads_nat t.toNat_lt_size (Nat.le_refl _) _) (by simp [Layer.only, given])
  | @routeFilter k text given h =>
    exact Shape.exists_field rfl (h.reads_variant (find?_variants k) _) (by simp [Layer.only, given])
  | @loadOnStartup b given => exact Shape.exists_field rfl (reads_bool b) (by simp [Layer.only, given])

theorem Layer.gathers {ms : List (String × List Char)}
    (h : ∀ m ∈ ms, l.Setting m.1 m.2 ∨ m.1 ∉ settingNames ∧ IsWellFormed m.2)
    (hs : ∀ m ∈ ms, m.2.length ≤ size) (names : List String) :
    (Layer.shape size 126).Gathers size (l.only names) ms (l.only ((ms.map Prod.fst).reverse ++ names)) := by
  -- What has been read is the layer cut down to the names that have been seen, known or not.
  induction ms generalizing names with
  | nil => exact .nil _
  | cons m ms ih =>
    obtain ⟨name, text⟩ := m
    rw [List.forall_mem_cons] at h hs
    have hothers := ih h.2 hs.2 (name :: names)
    rw [List.map_cons, List.reverse_cons, List.append_assoc, List.singleton_append]
    rcases h.1 with hsetting | ⟨hunknown, hvalue⟩
    · obtain ⟨f, hfield, hread⟩ := hsetting.exists_field hs.1 names
      exact .known hfield hread hothers
    · have hfield : (Layer.shape size 126).field? name = none := Shape.field?_eq_none_iff.mpr hunknown
      rw [Layer.only_unknown hunknown] at hothers
      exact .unknown hfield hvalue hs.1 hothers

theorem Layer.IsText.reads (h : l.IsText text) (hs : text.length ≤ size) :
    Reads (Layer.reader size depthLimit) text l := by
  cases h with
  | @mk parts cs members keys values once all =>
    rw [List.length_cons] at hs
    have hshort : ∀ m ∈ parts.map fun p => (p.1, p.2.2), m.2.length ≤ size := by
      rw [List.forall_mem_map]
      intro p hp
      have hlength := members.length_le_of_mem p.2 (List.mem_map_of_mem hp)
      exact Nat.le_of_lt (Nat.lt_of_le_of_lt hlength hs)
    have hgathers := Layer.gathers (List.forall_mem_map.mpr values) hshort []
    have hall : l.only (((parts.map fun p => (p.1, p.2.2)).map Prod.fst).reverse ++ []) = l := by
      refine Layer.only_all fun name hname => ?_
      rw [List.append_nil, List.mem_reverse, List.map_map]
      exact all name hname
    rw [hall] at hgathers
    have hneed : ∀ f ∈ (Layer.shape size 126).fields, f.need = .always → f.name ∈ parts.map Prod.fst := by
      simp [Layer.shape, Field.of]
    have hfew := members.length_lt.trans hs
    rw [List.length_map] at hfew
    exact hgathers.reads_record members keys once hneed hfew "struct AppConfig"

theorem Layer.IsText.decode (h : l.IsText text) {gap gap' : List Char} (hgap : IsBlank gap)
    (hgap' : IsBlank gap') : Wire.decode (String.ofList (gap ++ (text ++ gap'))) = .ok (l.onto {}) := by
  have hreads {size : Nat} (hs : text.length ≤ size) : Reads (Config.reader size depthLimit) text (l.onto {}) := by
    intro gap rest hgap hrest
    simp only [Config.reader, h.reads hs gap rest hgap hrest, bind, Except.bind]
  exact readWhole_of_reads hgap hgap' (hreads (by simp only [List.length_append]; omega))

/-- The layer that has every setting. -/
def toLayer (c : Config) : Layer where
  host := some c.host
  port := some c.port
  menuOrigin := some c.menuOrigin
  loadTimeout := some c.loadTimeout
  routeFilter := some c.routeFilter
  loadOnStartup := some c.loadOnStartup

theorem isText_spell (c : Config) (st : Style) (level : Nat) :
    c.toLayer.IsText (c.toJson.spell st level) := by
  refine isObject_spell ?_ (by simp) ?_
  · simp only [List.forall_mem_cons, spell_nat, spell_bool]
    exact ⟨.inl (.host rfl (isString_quote c.host)), .inl (.port rfl),
      .inl (.menuOrigin rfl (c.menuOrigin.isText_spell st _)), .inl (.loadTimeout rfl),
      .inl (.routeFilter rfl (isString_quote c.routeFilter.name)), .inl (.loadOnStartup rfl),
      fun _ hm => absurd hm List.not_mem_nil⟩
  · rintro name ⟨text, h⟩
    cases h with
    | host | port | menuOrigin | loadTimeout | routeFilter | loadOnStartup => simp

theorem decode_spell (c : Config) (st : Style) :
    Wire.decode (String.ofList (c.toJson.spell st 0)) = .ok c := by
  have hdecode := (c.isText_spell st 0).decode isBlank_nil isBlank_nil
  rwa [List.nil_append, List.append_nil] at hdecode

theorem ofFile_of_decode {text : String} {c : Config} (h : Wire.decode text = .ok c) :
    ofFile (some (Text.encodeUtf8 text)) = .ok c := by
  rw [ofFile, Text.decodeUtf8?_encodeUtf8]
  simp only [h]

end Layers

/-- Settings lose nothing in their texts, compact or pretty. A text of any settings, in any order and
with any members among them that are no settings, gives these settings, and the defaults for the others.
So does it for the origin of the menu, whose kind may be told at any place. -/
theorem settings_roundTrip :
    (∀ (c : Config), ∀ text ∈ [Wire.encode c, Wire.encodePretty c],
      Wire.decode text = .ok c ∧ ofFile (some (Text.encodeUtf8 text)) = .ok c) ∧
    (∀ (l : Layer) (gap text gap' : List Char), IsBlank gap → IsBlank gap' → l.IsText text →
      Wire.decode (String.ofList (gap ++ (text ++ gap'))) = .ok (l.onto {}) ∧
        ofFile (some (Text.encodeUtf8 (String.ofList (gap ++ (text ++ gap'))))) = .ok (l.onto {})) ∧
    ∀ (o : MenuOrigin) (gap text gap' : List Char), IsBlank gap → IsBlank gap' → o.IsText 126 text →
      Wire.decode (String.ofList (gap ++ (text ++ gap'))) = .ok o := by
  refine ⟨fun c => ?_, fun l gap text gap' hgap hgap' h => ?_, fun o gap text gap' hgap hgap' h => ?_⟩
  · have hcompact : Wire.encode c = String.ofList (c.toJson.spell .compact 0) :=
      congrArg String.ofList (print_eq 0 c.toJson)
    have hpretty : Wire.encodePretty c = String.ofList (c.toJson.spell .pretty 0) :=
      congrArg String.ofList (layOut_eq 0 c.toJson)
    rw [hcompact, hpretty, List.forall_mem_cons, List.forall_mem_singleton]
    exact ⟨⟨decode_spell c _, ofFile_of_decode (decode_spell c _)⟩,
      decode_spell c _, ofFile_of_decode (decode_spell c _)⟩
  · have hdecode := h.decode hgap hgap'
    exact ⟨hdecode, ofFile_of_decode hdecode⟩
  · exact readWhole_of_reads hgap hgap' (h.reads (by simp only [List.length_append]; omega))

-- The kind of the origin comes last, and the number that no setting takes may be too large to be read.
example : (Wire.decode
    "\x7b\"later\": [1e999], \"menu_source\": \x7b\"url\": \"u\", \"kind\": \"remote\"\x7d\x7d").toOption =
      some ({ menuOrigin := .remote "u" 2 } : Config) := by cbv

end ConsoleNav.Config
