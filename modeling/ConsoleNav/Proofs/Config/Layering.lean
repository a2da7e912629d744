import ConsoleNav.Config.File
import ConsoleNav.Proofs.Json.Giving
import ConsoleNav.Proofs.Text.Numerals
import ConsoleNav.Proofs.Text.Stripping

/-!
Layers of settings. Each setting on its own comes from the environment, else from the file, else from
the defaults. A file that cannot be used gives nothing, and neither does a variable whose text stands for
no value of its setting.
-/
namespace ConsoleNav.Config

open Json

section File

variable {size depth : Nat} {file : Option (List UInt8)}

/-- The settings that the members of a record give. -/
def Layer.ofMembers (size depth : Nat) (ms : Members) : Layer where
  host := ms.given? "host" readString
  port := (ms.given? "port" (readNat "u16" UInt16.size)).map UInt16.ofNat
  menuOrigin := ms.given? "menu_source" (MenuOrigin.reader size depth)
  loadTimeout := (ms.given? "load_timeout_ms" (readNat "u64" UInt64.size)).map UInt64.ofNat
  routeFilter := ms.given? "route_filter" (Wire.reader size depth)
  loadOnStartup := ms.given? "load_on_startup" readBool

/-- The layer of a file, if there is one: what the members of its record give. -/
inductive Layer.OfFile : Option (List UInt8) → Layer → Prop
  | absent : OfFile none {}
  | present {octets : List UInt8} {text : String} {ms : Members}
      (encoded : Text.decodeUtf8? octets = some text)
      (members : (Layer.shape text.toList.length (depthLimit - 1)).Gives text.toList.length
        text.toList ms) :
      OfFile (some octets) (.ofMembers text.toList.length (depthLimit - 1) ms)

/-- A file that is there and is no text or no settings. -/
inductive IsUnusable : Option (List UInt8) → Prop
  | notText {octets : List UInt8} (encoded : Text.decodeUtf8? octets = none) : IsUnusable (some octets)
  | malformed {octets : List UInt8} {text : String} {fault : Fault}
      (encoded : Text.decodeUtf8? octets = some text)
      (refused : (Wire.decode text : Except Fault Config) = .error fault) : IsUnusable (some octets)

theorem Layer.OfFile.eq {l l' : Layer} (h : Layer.OfFile file l) (h' : Layer.OfFile file l') : l = l' := by
  cases h with
  | absent =>
    cases h'
    rfl
  | present encoded members =>
    cases h' with
    | present encoded' members' =>
      cases encoded.symm.trans encoded'
      rw [members.eq members']

theorem Layer.shape_names : ((Layer.shape size depth).fields.map Field.name).Nodup := by
  change ["host", "port", "menu_source", "load_timeout_ms", "route_filter", "load_on_startup"].Nodup
  decide

theorem Layer.shape_steady : ∀ f ∈ (Layer.shape size depth).fields, f.Steady := by
  simp only [Layer.shape, List.forall_mem_cons, Field.steady_of, true_and]
  exact fun _ hf => absurd hf List.not_mem_nil

/-- A field of a layer leaves alone what is kept for the fields of other names. -/
theorem Layer.shape_leaves : ∀ f ∈ (Layer.shape size depth).fields,
    (f.name ≠ "host" → f.Leaves Layer.host) ∧ (f.name ≠ "port" → f.Leaves Layer.port) ∧
    (f.name ≠ "menu_source" → f.Leaves Layer.menuOrigin) ∧
    (f.name ≠ "load_timeout_ms" → f.Leaves Layer.loadTimeout) ∧
    (f.name ≠ "route_filter" → f.Leaves Layer.routeFilter) ∧
    (f.name ≠ "load_on_startup" → f.Leaves Layer.loadOnStartup) := by
  intro f hf
  simp only [Layer.shape, List.mem_cons, List.not_mem_nil, or_false] at hf
  rcases hf with rfl | rfl | rfl | rfl | rfl | rfl <;> refine ⟨?_, ?_, ?_, ?_, ?_, ?_⟩ <;> intro hne <;>
    first
    | exact absurd rfl hne
    | exact Field.leaves_of (by intro _ _; rfl) _ _ _

/-- A layer that members are taken into holds what they give. -/
theorem Layer.eq_ofMembers {ms : Members} {l : Layer} (h : (Layer.shape size depth).Takes ms {} l) :
    l = .ofMembers size depth ms := by
  have hleaves := @Layer.shape_leaves size depth
  have hhost : (Layer.shape size depth).Slot "host" readString id Layer.host :=
    ⟨rfl, ⟨_, _, rfl, fun _ _ => rfl⟩, fun f hf => (hleaves f hf).1⟩
  have hport : (Layer.shape size depth).Slot "port" (readNat "u16" UInt16.size) UInt16.ofNat Layer.port :=
    ⟨rfl, ⟨_, _, rfl, fun _ _ => rfl⟩, fun f hf => (hleaves f hf).2.1⟩
  have horigin : (Layer.shape size depth).Slot "menu_source" (MenuOrigin.reader size depth) id
      Layer.menuOrigin :=
    ⟨rfl, ⟨_, _, rfl, fun _ _ => rfl⟩, fun f hf => (hleaves f hf).2.2.1⟩
  have htimeout : (Layer.shape size depth).Slot "load_timeout_ms" (readNat "u64" UInt64.size) UInt64.ofNat
      Layer.loadTimeout :=
    ⟨rfl, ⟨_, _, rfl, fun _ _ => rfl⟩, fun f hf => (hleaves f hf).2.2.2.1⟩
  have hfilter : (Layer.shape size depth).Slot "route_filter" (Wire.reader size depth) id
      Layer.routeFilter :=
    ⟨rfl, ⟨_, _, rfl, fun _ _ => rfl⟩, fun f hf => (hleaves f hf).2.2.2.2.1⟩
  have hstartup : (Layer.shape size depth).Slot "load_on_startup" readBool id Layer.loadOnStartup :=
    ⟨rfl, ⟨_, _, rfl, fun _ _ => rfl⟩, fun f hf => (hleaves f hf).2.2.2.2.2⟩
  have hall := And.intro (hhost.get_eq h) <| And.intro (hport.get_eq h) <|
    And.intro (horigin.get_eq h) <| And.intro (htimeout.get_eq h) <|
    And.intro (hfilter.get_eq h) (hstartup.get_eq h)
  simp only [Option.map_id_fun, id] at hall
  cases l
  simpa only [Layer.ofMembers, Layer.mk.injEq] using hall

theorem Layer.exists_of_decode {text : String} {c : Config}
    (h : (Wire.decode text : Except Fault Config) = .ok c) :
    ∃ ms, (Layer.shape text.toList.length (depthLimit - 1)).Gives text.toList.length text.toList ms ∧
      c = (Layer.ofMembers text.toList.length (depthLimit - 1) ms).onto {} := by
  obtain ⟨⟨c', rest⟩, hread, hend⟩ := ok_of_bind h
  obtain ⟨⟨l, rest'⟩, hlayer, heq⟩ := ok_of_bind hread
  cases heq
  obtain ⟨ms, hgives, htakes⟩ := Shape.takes_of_readRecord Layer.shape_steady Layer.shape_names hlayer
  refine ⟨ms, hgives, ?_⟩
  rw [← Layer.eq_ofMembers htakes]
  dsimp only at hend
  split at hend
  · exact (Except.ok.inj hend).symm
  · cases hend

theorem exists_ofFile_of_ok {c : Config} (h : ofFile file = .ok c) :
    ∃ l, Layer.OfFile file l ∧ c = l.onto {} := by
  cases file with
  | none =>
    cases h
    exact ⟨{}, .absent, rfl⟩
  | some octets =>
    rw [ofFile] at h
    split at h
    · cases h
    · next text encoded =>
      split at h
      · next c' hdecode =>
        cases h
        obtain ⟨ms, hgives, rfl⟩ := Layer.exists_of_decode hdecode
        exact ⟨_, .present encoded hgives, rfl⟩
      · cases h

theorem ofFile_eq_error_iff : (∃ fault, ofFile file = .error fault) ↔ IsUnusable file := by
  constructor
  · rintro ⟨fault, h⟩
    cases file with
    | none => cases h
    | some octets =>
      rw [ofFile] at h
      split at h
      · next encoded => exact .notText encoded
      · next text encoded =>
        split at h
        · cases h
        · next refused => exact .malformed encoded refused
  · rintro (⟨encoded⟩ | @⟨_, _, fault, encoded, refused⟩)
    · exact ⟨.notText, by simp only [ofFile, encoded]⟩
    · exact ⟨.malformed fault, by simp only [ofFile, encoded, refused]⟩

end File

section Variables

variable {α : Type} {env : Environment} {name : String}

/-- The variable `name` is set to a text that stands for `a` once the blanks around it are gone. -/
def Environment.Sets (env : Environment) (name : String) (Stands : String → α → Prop) (a : α) : Prop :=
  ∃ text core, env.lookup name = some text ∧ Text.IsTrimmed text core ∧ Stands core a

def Environment.SetsNumber (env : Environment) (name : String) (toNat : α → Nat) : α → Prop :=
  env.Sets name fun text a => Text.IsNumeral text (toNat a)

theorem Environment.read_eq_some_iff {parse : String → Option α} {Stands : String → α → Prop}
    (h : ∀ text a, parse text = some a ↔ Stands text a) (a : α) :
    env.read name parse = some a ↔ env.Sets name Stands a := by
  simp only [Environment.read, Environment.Sets, Text.isTrimmed_iff]
  cases env.lookup name with
  | none => simp
  | some text => simp [h]

/-- A natural number within the range of a type stands for its value there. -/
theorem map_natural?_eq_some_iff {limit : Nat} {ofNat : Nat → α} {toNat : α → Nat}
    (hto : ∀ n < limit, toNat (ofNat n) = n) (hof : ∀ a, ofNat (toNat a) = a)
    (hlt : ∀ a, toNat a < limit) (text : String) (a : α) :
    (Text.natural? limit text).map ofNat = some a ↔ Text.IsNumeral text (toNat a) := by
  rw [Option.map_eq_some_iff]
  constructor
  · rintro ⟨n, hn, rfl⟩
    rw [Text.natural?_eq_some_iff] at hn
    rw [hto n hn.1]
    exact hn.2
  · intro hnumeral
    exact ⟨toNat a, Text.natural?_eq_some_iff.mpr ⟨hlt a, hnumeral⟩, hof a⟩

theorem parsePort_eq_some_iff (text : String) (p : UInt16) :
    parsePort text = some p ↔ Text.IsNumeral text p.toNat :=
  map_natural?_eq_some_iff (fun _ => UInt16.toNat_ofNat_of_lt') (fun _ => UInt16.ofNat_toNat)
    UInt16.toNat_lt text p

theorem parseTimeout_eq_some_iff (text : String) (t : UInt64) :
    parseTimeout text = some t ↔ Text.IsNumeral text t.toNat :=
  map_natural?_eq_some_iff (fun _ => UInt64.toNat_ofNat_of_lt') (fun _ => UInt64.ofNat_toNat)
    UInt64.toNat_lt text t

theorem parseRetries_eq_some_iff (text : String) (n : UInt32) :
    parseRetries text = some n ↔ Text.IsNumeral text n.toNat :=
  map_natural?_eq_some_iff (fun _ => UInt32.toNat_ofNat_of_lt') (fun _ => UInt32.ofNat_toNat)
    UInt32.toNat_lt text n

theorem ofName?_eq_some_iff (text : String) (k : Route.FilterKind) :
    Route.FilterKind.ofName? text = some k ↔ text = k.name := by
  constructor
  · intro h
    rw [Route.FilterKind.ofName?] at h
    split at h
    · cases h
      assumption
    · split at h
      · cases h
        assumption
      · cases h
  · rintro rfl
    exact k.ofName?_name

/-- The value of a setting: what the environment sets, else what the file gives, else `fallback`. -/
inductive Overlaid (Sets : α → Prop) (file? : Option α) (fallback : α) : α → Prop
  | environment {a : α} (set : Sets a) : Overlaid Sets file? fallback a
  | file {a : α} (unset : ∀ a, ¬ Sets a) (given : file? = some a) : Overlaid Sets file? fallback a
  | fallback (unset : ∀ a, ¬ Sets a) (missing : file? = none) : Overlaid Sets file? fallback fallback

theorem overlaid_iff {o file? : Option α} {Sets : α → Prop} (h : ∀ a, o = some a ↔ Sets a)
    (fallback a : α) : Overlaid Sets file? fallback a ↔ o.getD (file?.getD fallback) = a := by
  cases ho : o with
  | some b =>
    have hb : Sets b := (h b).mp ho
    constructor
    · rintro (hset | ⟨unset, -⟩ | ⟨unset, -⟩)
      · exact Option.some.inj (ho.symm.trans ((h a).mpr hset))
      · exact absurd hb (unset b)
      · exact absurd hb (unset b)
    · rintro rfl
      exact .environment hb
  | none =>
    have hunset : ∀ b, ¬ Sets b := by
      intro b hb
      cases ho.symm.trans ((h b).mpr hb)
    constructor
    · rintro (hset | ⟨-, rfl⟩ | ⟨-, rfl⟩)
      · exact absurd hset (hunset a)
      · rfl
      · rfl
    · rintro rfl
      cases file? with
      | none => exact .fallback hunset rfl
      | some b => exact .file hunset rfl

end Variables

/-- Settings of an environment laid over those of a file, each one on its own. -/
structure IsLayered (env : Environment) (l : Layer) (c : Config) : Prop where
  host : Overlaid (fun s => env.lookup "JOB_ADMIN_HOST" = some s) l.host "127.0.0.1" c.host
  port : Overlaid (env.SetsNumber "JOB_ADMIN_PORT" UInt16.toNat) l.port 3000 c.port
  loadTimeout : Overlaid (env.SetsNumber "JOB_ADMIN_LOAD_TIMEOUT_MS" UInt64.toNat)
    l.loadTimeout 5000 c.loadTimeout
  routeFilter : Overlaid
    (env.Sets "JOB_ADMIN_ROUTE_FILTER" fun text (k : Route.FilterKind) => text = k.name)
    l.routeFilter .passThrough c.routeFilter
  loadOnStartup : Overlaid
    (env.Sets "JOB_ADMIN_LOAD_ON_STARTUP" fun text b => text = if b then "true" else "false")
    l.loadOnStartup true c.loadOnStartup
  menuOrigin : Overlaid
    (fun o => ∃ url retries, env.lookup "JOB_ADMIN_MENU_URL" = some url ∧
      Overlaid (env.SetsNumber "JOB_ADMIN_FETCH_RETRIES" UInt32.toNat) none 2 retries ∧
        o = .remote url retries)
    l.menuOrigin .builtIn c.menuOrigin

theorem isLayered_onto (env : Environment) (l : Layer) :
    IsLayered env l ((Layer.ofEnvironment env).onto (l.onto {})) where
  host := (overlaid_iff (fun _ => Iff.rfl) _ _).mpr rfl
  port := (overlaid_iff (Environment.read_eq_some_iff parsePort_eq_some_iff) _ _).mpr rfl
  loadTimeout := (overlaid_iff (Environment.read_eq_some_iff parseTimeout_eq_some_iff) _ _).mpr rfl
  routeFilter := (overlaid_iff (Environment.read_eq_some_iff ofName?_eq_some_iff) _ _).mpr rfl
  loadOnStartup :=
    (overlaid_iff (Environment.read_eq_some_iff fun _ _ => Text.truth?_eq_some_iff) _ _).mpr rfl
  menuOrigin := by
    have hretries (n : UInt32) :
        Overlaid (env.SetsNumber "JOB_ADMIN_FETCH_RETRIES" UInt32.toNat) none 2 n ↔
          (env.read "JOB_ADMIN_FETCH_RETRIES" parseRetries).getD defaultRetries = n :=
      overlaid_iff (Environment.read_eq_some_iff parseRetries_eq_some_iff) _ _
    have horigin (o : MenuOrigin) : (Layer.ofEnvironment env).menuOrigin = some o ↔
        ∃ url retries, env.lookup "JOB_ADMIN_MENU_URL" = some url ∧
          Overlaid (env.SetsNumber "JOB_ADMIN_FETCH_RETRIES" UInt32.toNat) none 2 retries ∧
            o = .remote url retries := by
      simp only [hretries, Layer.ofEnvironment]
      cases env.lookup "JOB_ADMIN_MENU_URL" with
      | none => simp
      | some url => simp [eq_comm]
    exact (overlaid_iff horigin _ _).mpr rfl

section Ignored

variable {α : Type} {env : Environment} {name : String}

def Environment.without (env : Environment) (name : String) : Environment :=
  env.filter fun v => v.1 != name

/-- The texts that count for the variables. Any text is an address. -/
inductive Counts (text : String) : String → Prop
  | host : Counts text "JOB_ADMIN_HOST"
  | menuUrl : Counts text "JOB_ADMIN_MENU_URL"
  | port {core : String} {p : UInt16} (trimmed : Text.IsTrimmed text core)
      (h : Text.IsNumeral core p.toNat) : Counts text "JOB_ADMIN_PORT"
  | loadTimeout {core : String} {t : UInt64} (trimmed : Text.IsTrimmed text core)
      (h : Text.IsNumeral core t.toNat) : Counts text "JOB_ADMIN_LOAD_TIMEOUT_MS"
  | routeFilter {core : String} {k : Route.FilterKind} (trimmed : Text.IsTrimmed text core)
      (h : core = k.name) : Counts text "JOB_ADMIN_ROUTE_FILTER"
  | loadOnStartup {core : String} {b : Bool} (trimmed : Text.IsTrimmed text core)
      (h : core = if b then "true" else "false") : Counts text "JOB_ADMIN_LOAD_ON_STARTUP"
  | retries {core : String} {n : UInt32} (trimmed : Text.IsTrimmed text core)
      (h : Text.IsNumeral core n.toNat) : Counts text "JOB_ADMIN_FETCH_RETRIES"

theorem lookup_filter_key (p : String → Bool) (name : String) (xs : List (String × α)) :
    (xs.filter fun x => p x.1).lookup name = if p name then xs.lookup name else none := by
  induction xs with
  | nil => simp
  | cons x xs ih =>
    obtain ⟨key, a⟩ := x
    rw [List.filter_cons]
    by_cases hkey : name = key
    · subst hkey
      cases hp : p name <;> simp [hp, ih]
    · have hne : (name == key) = false := beq_false_of_ne hkey
      cases p key <;> simp [ih, hne, List.lookup_cons]

theorem Environment.lookup_without_self : (env.without name).lookup name = none := by
  rw [Environment.without, lookup_filter_key (· != name)]
  simp

theorem Environment.lookup_without_ne {other : String} (h : other ≠ name) :
    (env.without name).lookup other = env.lookup other := by
  rw [Environment.without, lookup_filter_key (· != name), if_pos (bne_iff_ne.mpr h)]

theorem Environment.lookup_without {other : String} (h : other = name → env.lookup other = none) :
    (env.without name).lookup other = env.lookup other := by
  by_cases heq : other = name
  · rw [h heq, heq, Environment.lookup_without_self]
  · exact Environment.lookup_without_ne heq

theorem Environment.read_without {other : String} {parse : String → Option α}
    (h : other = name → env.read other parse = none) :
    (env.without name).read other parse = env.read other parse := by
  by_cases heq : other = name
  · rw [h heq, heq, Environment.read, Environment.lookup_without_self]
  · rw [Environment.read, Environment.read, Environment.lookup_without_ne heq]

/-- A variable whose text does not count gives no value. -/
theorem Environment.read_eq_none {parse : String → Option α} {Stands : String → α → Prop}
    (hparse : ∀ text a, parse text = some a ↔ Stands text a)
    (hcounts : ∀ text core a, Text.IsTrimmed text core → Stands core a → Counts text name)
    (h : ∀ text, env.lookup name = some text → ¬ Counts text name) : env.read name parse = none := by
  rw [Option.eq_none_iff_forall_not_mem]
  intro a ha
  obtain ⟨text, core, htext, htrimmed, hstands⟩ := (Environment.read_eq_some_iff hparse a).mp ha
  exact h text htext (hcounts text core a htrimmed hstands)

theorem Environment.lookup_eq_none (hcounts : ∀ text, Counts text name)
    (h : ∀ text, env.lookup name = some text → ¬ Counts text name) : env.lookup name = none :=
  Option.eq_none_iff_forall_ne_some.mpr fun text htext => h text htext (hcounts text)

theorem ofEnvironment_without (h : ∀ text, env.lookup name = some text → ¬ Counts text name) :
    Layer.ofEnvironment (env.without name) = Layer.ofEnvironment env := by
  have hhost : (env.without name).lookup "JOB_ADMIN_HOST" = env.lookup "JOB_ADMIN_HOST" :=
    Environment.lookup_without fun heq => Environment.lookup_eq_none (fun _ => .host) (heq ▸ h)
  have hurl : (env.without name).lookup "JOB_ADMIN_MENU_URL" = env.lookup "JOB_ADMIN_MENU_URL" :=
    Environment.lookup_without fun heq => Environment.lookup_eq_none (fun _ => .menuUrl) (heq ▸ h)
  have hport : (env.without name).read "JOB_ADMIN_PORT" parsePort = env.read "JOB_ADMIN_PORT" parsePort :=
    Environment.read_without fun heq =>
      Environment.read_eq_none parsePort_eq_some_iff (fun _ _ _ => .port) (heq ▸ h)
  have htimeout : (env.without name).read "JOB_ADMIN_LOAD_TIMEOUT_MS" parseTimeout =
      env.read "JOB_ADMIN_LOAD_TIMEOUT_MS" parseTimeout :=
    Environment.read_without fun heq =>
      Environment.read_eq_none parseTimeout_eq_some_iff (fun _ _ _ => .loadTimeout) (heq ▸ h)
  have hfilter : (env.without name).read "JOB_ADMIN_ROUTE_FILTER" Route.FilterKind.ofName? =
      env.read "JOB_ADMIN_ROUTE_FILTER" Route.FilterKind.ofName? :=
    Environment.read_without fun heq =>
      Environment.read_eq_none ofName?_eq_some_iff (fun _ _ _ => .routeFilter) (heq ▸ h)
  have hstartup : (env.without name).read "JOB_ADMIN_LOAD_ON_STARTUP" Text.truth? =
      env.read "JOB_ADMIN_LOAD_ON_STARTUP" Text.truth? :=
    Environment.read_without fun heq =>
      Environment.read_eq_none (fun _ _ => Text.truth?_eq_some_iff) (fun _ _ _ => .loadOnStartup) (heq ▸ h)
  have hretries : (env.without name).read "JOB_ADMIN_FETCH_RETRIES" parseRetries =
      env.read "JOB_ADMIN_FETCH_RETRIES" parseRetries :=
    Environment.read_without fun heq =>
      Environment.read_eq_none parseRetries_eq_some_iff (fun _ _ _ => .retries) (heq ▸ h)
  simp only [Layer.ofEnvironment, hhost, hurl, hport, htimeout, hfilter, hstartup, hretries]

end Ignored

section Loading

variable {file : Option (List UInt8)} {env : Environment}

theorem load_eq_map (file : Option (List UInt8)) (env : Environment) :
    load file env = (ofFile file).map (Layer.ofEnvironment env).onto := by
  rw [load]
  cases ofFile file <;> rfl

theorem load_eq_error_iff : (∃ fault, load file env = .error fault) ↔ IsUnusable file := by
  rw [← ofFile_eq_error_iff, load_eq_map]
  cases ofFile file <;> simp [Except.map]

theorem loadOrDefault_of_ok {c : Config} (h : load file env = .ok c) : loadOrDefault file env = c := by
  rw [loadOrDefault, h]

theorem loadOrDefault_of_error {fault : FileFault} (h : load file env = .error fault) :
    loadOrDefault file env = (Layer.ofEnvironment env).onto {} := by
  rw [loadOrDefault, h]

theorem exists_isLayered_of_load {c : Config} (h : load file env = .ok c) :
    ∃ l, Layer.OfFile file l ∧ IsLayered env l c := by
  rw [load_eq_map] at h
  cases hfile : ofFile file with
  | error fault =>
    rw [hfile] at h
    cases h
  | ok c' =>
    rw [hfile] at h
    cases h
    obtain ⟨l, hl, rfl⟩ := exists_ofFile_of_ok hfile
    exact ⟨l, hl, isLayered_onto env l⟩

/-- Loading fails only where the file cannot be used. Otherwise the file gives one layer, and each
setting comes from the environment, from that layer or from the defaults, whatever the others are.
Variables whose text does not count change nothing, laying the environment over settings once more
changes nothing, and a file that cannot be used counts like none. -/
theorem load_layered (file : Option (List UInt8)) (env : Environment) :
    ((∃ fault, load file env = .error fault) ↔ IsUnusable file) ∧
    (∀ c, load file env = .ok c →
      (∃ l, Layer.OfFile file l) ∧ ∀ l, Layer.OfFile file l → IsLayered env l c) ∧
    (∀ name, (∀ text, env.lookup name = some text → ¬ Counts text name) →
      load file (env.without name) = load file env ∧
        loadOrDefault file (env.without name) = loadOrDefault file env) ∧
    (∀ c, (Layer.ofEnvironment env).onto ((Layer.ofEnvironment env).onto c) =
      (Layer.ofEnvironment env).onto c) ∧
    (IsUnusable file → loadOrDefault file env = (Layer.ofEnvironment env).onto {} ∧
      IsLayered env {} (loadOrDefault file env)) ∧
    (¬ IsUnusable file → load file env = .ok (loadOrDefault file env)) := by
  refine ⟨load_eq_error_iff, fun c hc => ?_, fun name h => ?_,
    (Layer.ofEnvironment env).onto_onto_self, fun h => ?_, fun h => ?_⟩
  · obtain ⟨l, hl, hlayered⟩ := exists_isLayered_of_load hc
    exact ⟨⟨l, hl⟩, fun l' hl' => hl.eq hl' ▸ hlayered⟩
  · have hload : load file (env.without name) = load file env := by
      rw [load_eq_map, load_eq_map, ofEnvironment_without h]
    refine ⟨hload, ?_⟩
    rw [loadOrDefault, loadOrDefault, hload, ofEnvironment_without h]
  · obtain ⟨fault, hfault⟩ := load_eq_error_iff.mpr h
    rw [loadOrDefault_of_error hfault]
    exact ⟨rfl, isLayered_onto env {}⟩
  · cases hload : load file env with
    | error fault => exact absurd (load_eq_error_iff.mp ⟨fault, hload⟩) h
    | ok c => rw [loadOrDefault_of_ok hload]

-- The port that the environment gives is out of range, so the one of the file stays.
example : (load (some "\x7b\"port\": 4000\x7d".toUTF8.toList)
    [("JOB_ADMIN_PORT", "70000"), ("JOB_ADMIN_HOST", " a ")]).toOption =
      some { host := " a ", port := 4000 } := by cbv

end Loading

end ConsoleNav.Config
