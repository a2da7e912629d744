import ConsoleNav.Proofs.Json.Records
import ConsoleNav.Proofs.Keyed

/-!
Readers get back what is written, in every style: strings, values that may be missing, lists, and
records given by the members of an object.
-/
namespace ConsoleNav.Json

/-- The reader takes every text of `v` off the front and gives `a`. -/
def Recovers {α : Type} (r : Reader α) (v : Json) (a : α) : Prop :=
  ∀ (st : Style) (level : Nat) (gap rest : List Char), IsBlank gap → Parted rest →
    r (gap ++ (v.spell st level ++ rest)) = .ok (a, rest)

/-- The first character of a text. -/
def opening : Json → Option Char
  | .null => some 'n'
  | .bool true => some 't'
  | .bool false => some 'f'
  | .number n => n.text.head?
  | .string _ => some '"'
  | .array _ => some '['
  | .object _ => some '\x7b'

theorem head?_spell (st : Style) (level : Nat) (v : Json) : (v.spell st level).head? = v.opening := by
  cases v with
  | bool b => cases b <;> rfl
  | _ => rfl

/-- A value whose text is neither a blank nor the end of a list at its first character. -/
def Opens (v : Json) : Prop :=
  ∃ c, v.opening = some c ∧ isGap c = false ∧ c ≠ ']'

theorem opens_string (s : String) : Opens (.string s) := ⟨'"', rfl, rfl, by decide⟩

theorem opens_array (vs : List Json) : Opens (.array vs) := ⟨'[', rfl, rfl, by decide⟩

theorem opens_object (ms : List (String × Json)) : Opens (.object ms) := ⟨'\x7b', rfl, rfl, by decide⟩

theorem Opens.spell {v : Json} (h : Opens v) (st : Style) (level : Nat) :
    ∃ c cs, v.spell st level = c :: cs ∧ v.opening = some c ∧ isGap c = false ∧ c ≠ ']' := by
  obtain ⟨c, hc, hgap, hend⟩ := h
  obtain ⟨cs, hcs⟩ := List.head?_eq_some_iff.mp ((head?_spell st level v).trans hc)
  exact ⟨c, cs, hcs, hc, hgap, hend⟩

theorem Opens.begins {v : Json} (h : Opens v) (st : Style) (level : Nat) : Begins (v.spell st level) := by
  obtain ⟨c, cs, hv, -, hgap, hend⟩ := h.spell st level
  exact ⟨c, cs, hv, hgap, hend⟩

section Scalars

theorem recovers_string (s : String) : Recovers readString (.string s) s :=
  fun _ _ => (isString_quote s).reads "a string"

theorem recovers_bool (b : Bool) : Recovers readBool (.bool b) b := by
  intro st level
  rw [spell_bool]
  exact reads_bool b

theorem Recovers.option {α : Type} {r : Reader α} {v : Json} {a : α} (h : Recovers r v a)
    (ho : Opens v) (hn : v.opening ≠ some 'n') : Recovers (readOption r) v (some a) := by
  intro st level gap rest hgap hrest
  have hr := h st level [] rest isBlank_nil hrest
  obtain ⟨c, cs, hv, hc, hblank, -⟩ := ho.spell st level
  rw [hc] at hn
  simp only [hv, List.nil_append, List.cons_append] at hr ⊢
  have hne : c ≠ 'n' := fun h => hn (h ▸ rfl)
  unfold readOption
  rw [skipGap_gap_cons hgap hblank]
  split
  · next h => exact absurd (List.cons.inj h).1 hne
  · rw [hr]
    rfl

end Scalars

section Lists

variable {α : Type} {item : Reader α} {f : α → Json}

theorem recovers_list {as : List α} (h : ∀ a ∈ as, Opens (f a) ∧ Recovers item (f a) a) {size : Nat}
    (hs : as.length < size) : Recovers (readList size (some item)) (.array (as.map f)) as := by
  intro st level gap rest hgap _
  have hitems := itemsText_spell st level true (as.map f)
  rw [List.map_map] at hitems
  have hparts : List.Forall₂ (fun text a => Begins text ∧ Reads item text a)
      (as.map ((fun v => v.spell st (level + 1)) ∘ f)) as := by
    rw [List.forall₂_map_left_iff, List.forall₂_same]
    exact fun a ha => ⟨(h a ha).1.begins st (level + 1), (h a ha).2 st (level + 1)⟩
  have hfirst : (0 == 0) = true := rfl
  obtain ⟨mid, hread, hclose⟩ := readItems_of_text hitems hparts (by rwa [List.length_map]) hfirst rest
  have hbracket (cs : List Char) : skipGap (gap ++ '[' :: cs) = '[' :: cs := skipGap_gap_cons hgap rfl cs
  rw [spell, List.cons_append]
  simp only [readList, hbracket, hread, hclose, here, bind, Except.bind]

end Lists

/-- Members that are put into an ordered list, written from a list in order, make up that list. -/
theorem collects_ordered {β σ : Type} {member : String → σ → Reader σ} {f : List (String × β) → σ}
    {t : β → List Char} {m : List (String × β)} (hordered : Keyed.IsOrdered m)
    (h : ∀ e ∈ m, ∀ m', ReadsMember (member e.1 (f m')) (t e.2) (f (Keyed.insert e.1 e.2 m'))) :
    Collects member (f []) (m.map fun e => (escape e.1.toList, t e.2)) (f m) := by
  have hcollects := @collects_parts β σ member (fun ms => f (Keyed.ofList ms.reverse))
    (m.map fun e => (e, (escape e.1.toList, t e.2)))
  simp only [List.map_map, Function.comp_def, List.forall_mem_map, List.map_id', List.reverse_cons,
    Keyed.ofList_concat] at hcollects
  have hlist := hcollects (fun e _ => quotes_escape e.1.toList) (fun e he ms => h e he _) []
  rwa [List.append_nil, List.reverse_reverse, Keyed.ofList_eq_self hordered, List.reverse_nil,
    Keyed.ofList_nil] at hlist

section Records

variable {α : Type}

/-- Members of which each one gives the value of a field, from a record to the one with these fields
set. -/
inductive Shape.Fills (shape : Shape α) : α → List (String × Json) → α → Prop
  | nil (a : α) : Fills shape a [] a
  | cons {a b c : α} {key : String} {v : Json} {f : Field α} {ms : List (String × Json)}
      (field : shape.fields.find? (fun f => f.name == key) = some f)
      (value : Recovers (f.read a) v b) (others : Fills shape b ms c) : Fills shape a ((key, v) :: ms) c

variable {shape : Shape α} {a b : α} {ms : List (String × Json)}

theorem Shape.Fills.single {β : Type} {key : String} {need : Need} {r : Reader β} {v : Json} {x : β}
    (store : β → α → α) (field : shape.fields.find? (fun f => f.name == key) = some (.of key need r store))
    (value : Recovers r v x) (a : α) : shape.Fills a [(key, v)] (store x a) := by
  refine .cons field ?_ (.nil _)
  intro st level gap rest hgap hrest
  simp only [Field.of, value st level gap rest hgap hrest, bind, Except.bind]

theorem Shape.Fills.append (h : shape.Fills a ms b) {c : α} {ms' : List (String × Json)}
    (h' : shape.Fills b ms' c) : shape.Fills a (ms ++ ms') c := by
  induction h with
  | nil => exact h'
  | cons field value _ ih => exact .cons field value (ih h')

theorem Shape.Fills.gathers (h : shape.Fills a ms b) (st : Style) (level size : Nat) :
    shape.Gathers size a (ms.map fun m => (m.1, m.2.spell st level)) b := by
  induction h with
  | nil a => exact .nil a
  | cons field value _ ih => exact .known field (value st level) ih

theorem Shape.Fills.recovers (h : shape.Fills shape.blank ms a) (hk : (ms.map Prod.fst).Nodup)
    (hneed : ∀ f ∈ shape.fields, f.need = .always → f.name ∈ ms.map Prod.fst) {size : Nat}
    (hs : ms.length < size) (name : String) :
    Recovers (readRecord size name (some shape)) (.object ms) a := by
  intro st level
  have hreads := @Shape.Gathers.reads_record _ shape a size
    (ms.map fun m => (m.1, (escape m.1.toList, m.2.spell st (level + 1)))) (spellMembers st level true ms)
  simp only [List.map_map, Function.comp_def, List.forall_mem_map, List.pairwise_map, List.length_map] at hreads
  have honce : ms.Pairwise fun m n => m.1 = n.1 → m.1 ∉ shape.fields.map Field.name :=
    (List.pairwise_map.mp hk).imp fun hne heq => absurd heq hne
  exact hreads (h.gathers st (level + 1) size) (membersText_spell st level true ms)
    (fun m _ => quotes_escape m.1.toList) honce hneed hs name

end Records

section Wholes

variable {α : Type} {r : Nat → Nat → Reader α} {v : Json} {a : α} {depth : Nat}

theorem readWhole_spell (hn : v.nesting ≤ depth)
    (h : ∀ size, Fits size depth v → Recovers (r size depthLimit) v a) (st : Style) :
    readWhole r (String.ofList (v.spell st 0)) = .ok a := by
  have hfits : Fits (v.spell st 0).length depth v := fits_of_spell st 0 depth v hn (Nat.le_refl _)
  exact readWhole_text (h _ hfits st 0)

theorem readWhole_compact (hn : v.nesting ≤ depth)
    (h : ∀ size, Fits size depth v → Recovers (r size depthLimit) v a) :
    readWhole r v.compact = .ok a := by
  rw [compact, print_eq 0]
  exact readWhole_spell hn h .compact

theorem readWhole_pretty (hn : v.nesting ≤ depth)
    (h : ∀ size, Fits size depth v → Recovers (r size depthLimit) v a) :
    readWhole r v.pretty = .ok a := by
  rw [pretty, layOut_eq 0]
  exact readWhole_spell hn h .pretty

/-- A text from which a value is read by every reader that goes as deep as the value is nested. -/
def Denotes [Wire α] (text : String) (a : α) : Prop :=
  ∀ depth, (Wire.toJson a).nesting ≤ depth →
    readWhole (fun size _ => Wire.reader size depth) text = .ok a

theorem denotes_encode [Wire α]
    (h : ∀ size depth, Fits size depth (Wire.toJson a) →
      Recovers (Wire.reader size depth) (Wire.toJson a) a) : Denotes (Wire.encode a) a :=
  fun depth hn => readWhole_compact hn fun size => h size depth

theorem Denotes.decode [Wire α] {text : String} (h : Denotes text a)
    (hn : (Wire.toJson a).nesting ≤ depthLimit) : Wire.decode text = .ok a :=
  h depthLimit hn

end Wholes

end ConsoleNav.Json
