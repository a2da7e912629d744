import ConsoleNav.Proofs.Json.Yielding
import ConsoleNav.Proofs.Keys

/-!
What a text gives for a record: its members, or the items of its list under the names of their fields,
each with the text at which its value begins. A record that is read holds at each of its fields what the
text gives for that field alone, whatever it gives for the others and in whatever order.
-/
namespace ConsoleNav.Json

variable {α β γ : Type}

section Parts

theorem ok_of_here {x : Except Cause β} {b : β} (h : here x = .ok b) : x = .ok b := by
  cases x with
  | error c => cases h
  | ok b' => exact congrArg Except.ok (Except.ok.inj h)

theorem ok_of_located {step : Step} {r : Reader β} {cs : List Char} {p : β × List Char}
    (h : located step r cs = .ok p) : r cs = .ok p := by
  unfold located at h
  split at h
  · next heq => rw [heq, h]
  · cases h

theorem ok_of_readMember {key : String} {r : Reader β} {cs : List Char} {p : β × List Char}
    (h : readMember key r cs = .ok p) : ∃ text, colon cs = .ok text ∧ r text = .ok p := by
  obtain ⟨text, htext, hr⟩ := ok_of_bind h
  exact ⟨text, ok_of_here htext, ok_of_located hr⟩

end Parts

/-- Whether a field can be read, and how far, is a matter of the text alone. -/
def Field.Steady (f : Field α) : Prop :=
  ∀ a text b rest, f.read a text = .ok (b, rest) → ∀ a', ∃ b', f.read a' text = .ok (b', rest)

theorem Field.read_of {name : String} {need : Need} {r : Reader β} {store : β → α → α} {a b : α}
    {text rest : List Char} (h : (Field.of name need r store).read a text = .ok (b, rest)) :
    ∃ x, r text = .ok (x, rest) ∧ b = store x a := by
  obtain ⟨⟨x, rest'⟩, hx, heq⟩ := ok_of_bind h
  cases heq
  exact ⟨x, hx, rfl⟩

theorem Field.steady_of (name : String) (need : Need) (r : Reader β) (store : β → α → α) :
    (Field.of name need r store).Steady := by
  intro a text b rest h a'
  obtain ⟨x, hx, -⟩ := Field.read_of h
  refine ⟨store x a', ?_⟩
  simp only [Field.of, hx, bind, Except.bind]

def Shape.field? (shape : Shape α) (key : String) : Option (Field α) :=
  shape.fields.find? fun f => f.name == key

/-- Keys, or the names of fields, with the texts at which their values begin. -/
abbrev Members := List (String × List Char)

namespace Members

/-- The value that members give under a name, when it is read with `r`. -/
def given? (ms : Members) (name : String) (r : Reader β) : Option β :=
  (ms.lookup name).bind fun text => (r text).toOption.map Prod.fst

variable {ms : Members} {name key : String} {text : List Char} {r : Reader β}

theorem given?_cons_ne (h : name ≠ key) : given? ((key, text) :: ms) name r = ms.given? name r := by
  rw [given?, List.lookup_cons, beq_false_of_ne h]
  rfl

theorem given?_cons_self {x : β} {rest : List Char} (h : r text = .ok (x, rest)) :
    given? ((name, text) :: ms) name r = some x := by
  rw [given?, List.lookup_cons_self, Option.bind_some, h]
  rfl

theorem given?_eq_none (h : name ∉ ms.map Prod.fst) : ms.given? name r = none := by
  have hlookup : ms.lookup name = none := by
    rw [List.lookup_eq_none_iff]
    intro m hm
    rw [bne_iff_ne]
    rintro rfl
    exact h (List.mem_map_of_mem hm)
  rw [given?, hlookup]
  rfl

end Members

section Grammar

/-- The value of the member `key` stands between `text` and `rest`: a value of the field of that name,
or any value where there is no such field. -/
inductive Shape.Spans (shape : Shape α) (size : Nat) (key : String) (text rest : List Char) : Prop
  | unknown (field : shape.field? key = none) (value : skipValue size text = .ok rest) :
      Spans shape size key text rest
  | known {f : Field α} (field : shape.field? key = some f)
      (value : ∀ a, ∃ b, f.read a text = .ok (b, rest)) : Spans shape size key text rest

/-- The members of an object up to its end. -/
inductive Shape.HasMembers (shape : Shape α) (size : Nat) :
    Bool → List Char → Members → List Char → Prop
  | nil {first : Bool} {cs : List Char} (ended : nextKey first cs = .ok none) :
      HasMembers shape size first cs [] cs
  | cons {first : Bool} {cs quoted key after text rest last : List Char} {ms : Members}
      (opening : nextKey first cs = .ok (some quoted)) (name : unquote quoted = .ok (key, after))
      (parted : colon after = .ok text) (value : shape.Spans size (String.ofList key) text rest)
      (others : HasMembers shape size false rest ms last) :
      HasMembers shape size first cs ((String.ofList key, text) :: ms) last

/-- The items of a list up to its end, the first of them at `index`. Where they run out, the fields that
are left are given nothing. -/
inductive HasItems : List (Field α) → Nat → List Char → Members → List Char → Prop
  | nil {index : Nat} {cs : List Char} : HasItems [] index cs [] cs
  | cons {f : Field α} {fields : List (Field α)} {index : Nat} {cs text rest last : List Char}
      {ms : Members} (opening : nextItem (index == 0) cs = .ok (some text))
      (value : ∀ a, ∃ b, f.read a text = .ok (b, rest)) (others : HasItems fields (index + 1) rest ms last) :
      HasItems (f :: fields) index cs ((f.name, text) :: ms) last
  | missing {f : Field α} {fields : List (Field α)} {index : Nat} {cs last : List Char} {ms : Members}
      (ended : nextItem (index == 0) cs = .ok none) (others : HasItems fields index cs ms last) :
      HasItems (f :: fields) index cs ms last

/-- A text gives members for a record, as an object or as a list. -/
inductive Shape.Gives (shape : Shape α) (size : Nat) (cs : List Char) (ms : Members) : Prop
  | object {text rest last : List Char} (opening : skipGap cs = '\x7b' :: text)
      (members : shape.HasMembers size true text ms rest) (closing : closeObject rest = .ok last) :
      Gives shape size cs ms
  | list {text rest last : List Char} (opening : skipGap cs = '[' :: text)
      (items : HasItems shape.fields 0 text ms rest) (closing : closeList rest = .ok last) :
      Gives shape size cs ms

variable {shape : Shape α} {size : Nat}

theorem Shape.Spans.eq {key : String} {text rest rest' : List Char} (h : shape.Spans size key text rest)
    (h' : shape.Spans size key text rest') : rest = rest' := by
  cases h with
  | unknown field value =>
    cases h' with
    | unknown _ value' => exact Except.ok.inj (value.symm.trans value')
    | known field' _ => cases field.symm.trans field'
  | known field value =>
    cases h' with
    | unknown field' _ => cases field.symm.trans field'
    | known field' value' =>
      cases field.symm.trans field'
      obtain ⟨b, hb⟩ := value shape.blank
      obtain ⟨b', hb'⟩ := value' shape.blank
      cases hb.symm.trans hb'
      rfl

theorem Shape.HasMembers.eq {first : Bool} {cs last last' : List Char} {ms ms' : Members}
    (h : shape.HasMembers size first cs ms last) (h' : shape.HasMembers size first cs ms' last') :
    ms = ms' := by
  induction h generalizing ms' with
  | nil ended =>
    cases h' with
    | nil => rfl
    | cons opening => cases ended.symm.trans opening
  | cons opening name parted value _ ih =>
    cases h' with
    | nil ended => cases opening.symm.trans ended
    | cons opening' name' parted' value' others' =>
      cases opening.symm.trans opening'
      cases name.symm.trans name'
      cases parted.symm.trans parted'
      cases value.eq value'
      rw [ih others']

theorem HasItems.eq {fields : List (Field α)} {index : Nat} {cs last last' : List Char} {ms ms' : Members}
    (a : α) (h : HasItems fields index cs ms last) (h' : HasItems fields index cs ms' last') :
    ms = ms' := by
  induction h generalizing ms' with
  | nil =>
    cases h'
    rfl
  | cons opening value _ ih =>
    cases h' with
    | cons opening' value' others' =>
      cases opening.symm.trans opening'
      obtain ⟨b, hb⟩ := value a
      obtain ⟨b', hb'⟩ := value' a
      cases hb.symm.trans hb'
      rw [ih others']
    | missing ended => cases opening.symm.trans ended
  | missing ended _ ih =>
    cases h' with
    | cons opening => cases ended.symm.trans opening
    | missing _ others' => exact ih others'

theorem Shape.Gives.eq {cs : List Char} {ms ms' : Members} (h : shape.Gives size cs ms)
    (h' : shape.Gives size cs ms') : ms = ms' := by
  cases h with
  | object opening members =>
    cases h' with
    | object opening' members' =>
      cases opening.symm.trans opening'
      exact members.eq members'
    | list opening' => cases opening.symm.trans opening'
  | list opening items =>
    cases h' with
    | object opening' => cases opening.symm.trans opening'
    | list opening' items' =>
      cases opening.symm.trans opening'
      exact items.eq shape.blank items'

end Grammar

section Taking

/-- Members taken into a record one after the other, no field twice. -/
inductive Shape.Takes (shape : Shape α) : Members → α → α → Prop
  | nil (a : α) : Takes shape [] a a
  | unknown {key : String} {text : List Char} {ms : Members} {a b : α}
      (field : shape.field? key = none) (others : Takes shape ms a b) :
      Takes shape ((key, text) :: ms) a b
  | known {key : String} {text rest : List Char} {ms : Members} {f : Field α} {a b c : α}
      (field : shape.field? key = some f) (value : f.read a text = .ok (b, rest))
      (once : key ∉ ms.map Prod.fst) (others : Takes shape ms b c) : Takes shape ((key, text) :: ms) a c

variable {shape : Shape α} {size : Nat}

/-- One member is skipped, or it is the first one of its field. -/
theorem Shape.readMember_cases {key : String} {s s' : List String × α} {cs rest : List Char}
    (h : shape.readMember size key s cs = .ok (s', rest)) :
    ∃ text, colon cs = .ok text ∧
      (shape.field? key = none ∧ skipValue size text = .ok rest ∧ s' = s ∨
        ∃ f a, shape.field? key = some f ∧ key ∉ s.1 ∧ f.read s.2 text = .ok (a, rest) ∧
          s' = (key :: s.1, a)) := by
  unfold Shape.readMember at h
  split at h
  · next field =>
    obtain ⟨text, htext, hskip⟩ := ok_of_readMember h
    obtain ⟨rest', hrest, heq⟩ := ok_of_bind hskip
    cases heq
    exact ⟨text, htext, .inl ⟨field, ok_of_here hrest, rfl⟩⟩
  · next f field =>
    split at h
    · cases h
    · next hgiven =>
      obtain ⟨⟨a, rest'⟩, ha, heq⟩ := ok_of_bind h
      cases heq
      obtain ⟨text, htext, hread⟩ := ok_of_readMember ha
      rw [List.contains_iff_mem] at hgiven
      exact ⟨text, htext, .inr ⟨f, a, field, hgiven, hread, rfl⟩⟩

/-- A field that was given before the members is not given by one of them. -/
theorem Shape.takes_of_readMembers (hsteady : ∀ f ∈ shape.fields, f.Steady) {n : Nat} {first : Bool}
    {s s' : List String × α} {cs rest : List Char}
    (h : readMembers (shape.readMember size) n first s cs = .ok (s', rest)) :
    ∃ ms, shape.HasMembers size first cs ms rest ∧ shape.Takes ms s.2 s'.2 ∧
      ∀ key ∈ ms.map Prod.fst, key ∈ s.1 → shape.field? key = none := by
  induction n generalizing first s cs with
  | zero => cases h
  | succ n ih =>
    rw [readMembers] at h
    split at h
    · cases h
    · next hlast =>
      cases h
      exact ⟨[], .nil hlast, .nil _, fun _ hm => absurd hm List.not_mem_nil⟩
    · next quoted hquoted =>
      split at h
      · cases h
      · next key after hkey =>
        obtain ⟨⟨mid, cs'⟩, hmember, hothers⟩ := ok_of_bind h
        obtain ⟨ms, hms, htakes, hgiven⟩ := ih hothers
        obtain ⟨text, htext, ⟨field, hskip, rfl⟩ | ⟨f, a, field, hnew, hread, rfl⟩⟩ :=
          Shape.readMember_cases hmember
        · refine ⟨_, .cons hquoted hkey htext (.unknown field hskip) hms, .unknown field htakes, ?_⟩
          rw [List.map_cons, List.forall_mem_cons]
          exact ⟨fun _ => field, hgiven⟩
        · have hspans : ∀ a', ∃ b', f.read a' text = .ok (b', cs') :=
            hsteady f (List.mem_of_find?_eq_some field) _ _ _ _ hread
          have honce : String.ofList key ∉ ms.map Prod.fst := by
            intro hmem
            cases field.symm.trans (hgiven _ hmem List.mem_cons_self)
          refine ⟨_, .cons hquoted hkey htext (.known field hspans) hms,
            .known field hread honce htakes, ?_⟩
          rw [List.map_cons, List.forall_mem_cons]
          exact ⟨fun hmem => absurd hmem hnew,
            fun k hk hmem => hgiven k hk (List.mem_cons_of_mem _ hmem)⟩

theorem Shape.takes_of_readFields {expected : String} {fields : List (Field α)} {index : Nat} {a b : α}
    {cs rest : List Char} (hsteady : ∀ f ∈ fields, f.Steady)
    (hfield : ∀ f ∈ fields, shape.field? f.name = some f) (hnames : (fields.map Field.name).Nodup)
    (h : readFields expected fields index a cs = .ok (b, rest)) :
    ∃ ms, HasItems fields index cs ms rest ∧ shape.Takes ms a b ∧
      ∀ key ∈ ms.map Prod.fst, key ∈ fields.map Field.name := by
  induction fields generalizing index a cs with
  | nil =>
    cases h
    exact ⟨[], .nil, .nil _, fun _ hm => absurd hm List.not_mem_nil⟩
  | cons f fields ih =>
    rw [List.forall_mem_cons] at hsteady hfield
    rw [List.map_cons, List.nodup_cons] at hnames
    rw [readFields] at h
    obtain ⟨next, hnext, h⟩ := ok_of_bind h
    cases next with
    | none =>
      dsimp only at h
      split at h
      · obtain ⟨ms, hms, htakes, hkeys⟩ := ih hsteady.2 hfield.2 hnames.2 h
        exact ⟨ms, .missing (ok_of_here hnext) hms, htakes,
          fun key hkey => List.mem_cons_of_mem _ (hkeys key hkey)⟩
      · cases h
    | some text =>
      obtain ⟨⟨a', cs'⟩, hread, h⟩ := ok_of_bind h
      replace hread := ok_of_located hread
      obtain ⟨ms, hms, htakes, hkeys⟩ := ih hsteady.2 hfield.2 hnames.2 h
      have honce : f.name ∉ ms.map Prod.fst := fun hmem => hnames.1 (hkeys _ hmem)
      refine ⟨_, .cons (ok_of_here hnext) (hsteady.1 _ _ _ _ hread) hms,
        .known hfield.1 hread honce htakes, ?_⟩
      rw [List.map_cons, List.map_cons, List.forall_mem_cons]
      exact ⟨List.mem_cons_self, fun key hkey => List.mem_cons_of_mem _ (hkeys key hkey)⟩

theorem Shape.field?_name (hnames : (shape.fields.map Field.name).Nodup) :
    ∀ f ∈ shape.fields, shape.field? f.name = some f :=
  fun _ hf => find?_of_nodup hnames hf

theorem Shape.takes_of_readRecord (hsteady : ∀ f ∈ shape.fields, f.Steady)
    (hnames : (shape.fields.map Field.name).Nodup) {name : String} {a : α} {cs rest : List Char}
    (h : readRecord size name (some shape) cs = .ok (a, rest)) :
    ∃ ms, shape.Gives size cs ms ∧ shape.Takes ms shape.blank a := by
  unfold readRecord at h
  split at h
  · next text opening =>
    obtain ⟨⟨b, mid⟩, hb, h⟩ := ok_of_bind h
    obtain ⟨last, hlast, heq⟩ := ok_of_bind h
    cases heq
    obtain ⟨ms, hms, htakes, -⟩ :=
      Shape.takes_of_readFields hsteady (Shape.field?_name hnames) hnames hb
    exact ⟨ms, .list opening hms (ok_of_here hlast), htakes⟩
  · next text opening =>
    obtain ⟨⟨⟨given, b⟩, mid⟩, hb, h⟩ := ok_of_bind h
    obtain ⟨ms, hms, htakes, -⟩ := Shape.takes_of_readMembers hsteady hb
    dsimp only at h
    split at h
    · cases h
    · obtain ⟨last, hlast, heq⟩ := ok_of_bind h
      cases heq
      exact ⟨ms, .object opening hms (ok_of_here hlast), htakes⟩
  · cases h

end Taking

section Slots

/-- Reading the field leaves what is kept at `get` alone. -/
def Field.Leaves (f : Field α) (get : α → Option γ) : Prop :=
  ∀ a text b rest, f.read a text = .ok (b, rest) → get b = get a

theorem Field.leaves_of {get : α → Option γ} {store : β → α → α} (h : ∀ x a, get (store x a) = get a)
    (name : String) (need : Need) (r : Reader β) : (Field.of name need r store).Leaves get := by
  intro a text b rest hread
  obtain ⟨x, -, rfl⟩ := Field.read_of hread
  exact h x a

/-- The values of the field `name`, read with `r`, are kept at `get`, where the other fields keep
nothing. -/
structure Shape.Slot (shape : Shape α) (name : String) (r : Reader β) (val : β → γ)
    (get : α → Option γ) : Prop where
  blank : get shape.blank = none
  own : ∃ need store, shape.field? name = some (.of name need r store) ∧
    ∀ x a, get (store x a) = some (val x)
  others : ∀ f ∈ shape.fields, f.name ≠ name → f.Leaves get

variable {shape : Shape α} {name : String} {r : Reader β} {val : β → γ} {get : α → Option γ}
  {ms : Members} {a b : α}

theorem Shape.name_of_field? {key : String} {f : Field α} (h : shape.field? key = some f) :
    f.name = key := by
  simpa using List.find?_some h

theorem Shape.Slot.get_takes (h : shape.Slot name r val get) (htakes : shape.Takes ms a b) :
    get b = ((ms.given? name r).map val).or (get a) := by
  obtain ⟨need, store, hown, hstore⟩ := h.own
  induction htakes with
  | nil => rfl
  | @unknown key text ms a b field _ ih =>
    have hne : name ≠ key := by
      rintro rfl
      cases hown.symm.trans field
    rw [ih, Members.given?_cons_ne hne]
  | @known key text rest ms f a b c field value once _ ih =>
    by_cases hname : name = key
    · subst hname
      cases hown.symm.trans field
      obtain ⟨x, hx, rfl⟩ := Field.read_of value
      rw [ih, Members.given?_eq_none once, Members.given?_cons_self hx, hstore]
      rfl
    · have hne : f.name ≠ name := fun heq => hname (heq.symm.trans (Shape.name_of_field? field))
      have hleft : get b = get a :=
        h.others f (List.mem_of_find?_eq_some field) hne _ _ _ _ value
      rw [ih, Members.given?_cons_ne hname, hleft]

theorem Shape.Slot.get_eq (h : shape.Slot name r val get) (htakes : shape.Takes ms shape.blank b) :
    get b = (ms.given? name r).map val := by
  rw [h.get_takes htakes, h.blank, Option.or_none]

end Slots

section Needs

/-- A field whose value can be read from some text. -/
def Field.IsReadable (f : Field α) : Prop :=
  ∃ a text b rest, f.read a text = .ok (b, rest)

variable {shape : Shape α} {size : Nat}

theorem Shape.readable_given (key : String) {s : List String × α}
    (hs : ∀ name ∈ s.1, ∃ f, shape.field? name = some f ∧ f.IsReadable) :
    Yields (shape.readMember size key s) fun s =>
      ∀ name ∈ s.1, ∃ f, shape.field? name = some f ∧ f.IsReadable := by
  intro cs t rest h
  obtain ⟨text, -, ⟨-, -, rfl⟩ | ⟨f, a, field, -, hread, rfl⟩⟩ := Shape.readMember_cases h
  · exact hs
  · rw [List.forall_mem_cons]
    exact ⟨⟨f, field, _, _, _, _, hread⟩, hs⟩

theorem readable_of_readFields {expected : String} {fields : List (Field α)} {index : Nat} {a b : α}
    {cs rest : List Char} (h : readFields expected fields index a cs = .ok (b, rest)) :
    ∀ f ∈ fields, f.need = .always → f.IsReadable := by
  induction fields generalizing index a cs with
  | nil => exact fun _ hf => absurd hf List.not_mem_nil
  | cons f fields ih =>
    rw [List.forall_mem_cons]
    rw [readFields] at h
    obtain ⟨next, -, h⟩ := ok_of_bind h
    cases next with
    | none =>
      dsimp only at h
      split at h
      · next hnever =>
        refine ⟨fun halways => ?_, ih h⟩
        rw [hnever] at halways
        cases halways
      · cases h
    | some text =>
      obtain ⟨⟨a', cs'⟩, hread, h⟩ := ok_of_bind h
      exact ⟨fun _ => ⟨_, _, _, _, ok_of_located hread⟩, ih h⟩

/-- A record is read only where all that it has to give can be read. -/
theorem Shape.readable_of_readRecord (hnames : (shape.fields.map Field.name).Nodup) {name : String}
    {a : α} {cs rest : List Char} (h : readRecord size name (some shape) cs = .ok (a, rest)) :
    ∀ f ∈ shape.fields, f.need = .always → f.IsReadable := by
  unfold readRecord at h
  split at h
  · obtain ⟨⟨b, mid⟩, hb, -⟩ := ok_of_bind h
    exact readable_of_readFields hb
  · obtain ⟨⟨⟨given, b⟩, mid⟩, hb, h⟩ := ok_of_bind h
    have hgiven : ∀ name ∈ given, ∃ f, shape.field? name = some f ∧ f.IsReadable :=
      yields_members (fun key _ hs => Shape.readable_given key hs) _ _
        (fun _ hname => absurd hname List.not_mem_nil) _ _ _ hb
    dsimp only at h
    split at h
    · cases h
    · next hmissing =>
      intro f hf hneed
      rw [Shape.missing?, Option.map_eq_none_iff, List.find?_eq_none] at hmissing
      have hmem : f.name ∈ given := by simpa [hneed] using hmissing f hf
      obtain ⟨f', hf', hreadable⟩ := hgiven _ hmem
      cases (Shape.field?_name hnames f hf).symm.trans hf'
      exact hreadable
  · cases h

end Needs

end ConsoleNav.Json
