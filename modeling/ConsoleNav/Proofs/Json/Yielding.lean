import ConsoleNav.Json.Record

/-!
What holds of every value that a reader gives, whatever the text: for lists and records it follows from
what holds of their parts.
-/
namespace ConsoleNav.Json

theorem ok_of_bind {ε α β : Type} {x : Except ε α} {f : α → Except ε β} {b : β}
    (h : (x >>= f) = .ok b) : ∃ a, x = .ok a ∧ f a = .ok b := by
  cases x with
  | error e => cases h
  | ok a => exact ⟨a, rfl, h⟩

def Yields {α : Type} (r : Reader α) (P : α → Prop) : Prop :=
  ∀ cs a rest, r cs = .ok (a, rest) → P a

section Parts

variable {α : Type} {r : Reader α} {P : α → Prop}

theorem Yields.located (h : Yields r P) (step : Step) : Yields (located step r) P := by
  intro cs a rest hr
  unfold Json.located at hr
  split at hr
  · next heq =>
    cases hr
    exact h _ _ _ heq
  · cases hr

theorem Yields.option (h : Yields r P) : Yields (readOption r) fun o => ∀ a ∈ o, P a := by
  intro cs o rest hr
  unfold readOption at hr
  split at hr
  · obtain ⟨_, -, heq⟩ := ok_of_bind hr
    cases heq
    exact fun a ha => absurd ha (Option.not_mem_none a)
  · obtain ⟨⟨a, rest'⟩, ha, heq⟩ := ok_of_bind hr
    cases heq
    intro b hb
    cases hb
    exact h _ _ _ ha

theorem Yields.items (h : Yields r P) (size index : Nat) :
    Yields (readItems r size index) fun as => ∀ a ∈ as, P a := by
  induction size generalizing index with
  | zero => exact fun _ _ _ hr => nomatch hr
  | succ size ih =>
    intro cs as rest hr
    rw [readItems] at hr
    obtain ⟨next, -, hr⟩ := ok_of_bind hr
    cases next with
    | none =>
      cases hr
      exact fun a ha => absurd ha List.not_mem_nil
    | some cs =>
      obtain ⟨⟨a, mid⟩, ha, hr⟩ := ok_of_bind hr
      obtain ⟨⟨as, last⟩, has, heq⟩ := ok_of_bind hr
      cases heq
      rw [List.forall_mem_cons]
      exact ⟨h.located _ _ _ _ ha, ih _ _ _ _ has⟩

theorem Yields.list (h : Yields r P) (size : Nat) :
    Yields (readList size (some r)) fun as => ∀ a ∈ as, P a := by
  intro cs as rest hr
  unfold readList at hr
  split at hr
  · obtain ⟨⟨as, mid⟩, has, hr⟩ := ok_of_bind hr
    obtain ⟨_, -, heq⟩ := ok_of_bind hr
    cases heq
    exact h.items _ _ _ _ _ has
  · cases hr

theorem not_ok_readList_none {size : Nat} {cs rest : List Char} {as : List α} :
    readList size none cs ≠ .ok (as, rest) := by
  intro hr
  unfold readList at hr
  split at hr <;> cases hr

theorem Yields.member (h : Yields r P) (key : String) : Yields (readMember key r) P := by
  intro cs a rest hr
  obtain ⟨_, -, hr⟩ := ok_of_bind hr
  exact h.located _ _ _ _ hr

theorem yields_members {σ : Type} {member : String → σ → Reader σ} {P : σ → Prop}
    (h : ∀ key s, P s → Yields (member key s) P) (size : Nat) (first : Bool) {s : σ} (hs : P s) :
    Yields (readMembers member size first s) P := by
  induction size generalizing first s with
  | zero => exact fun _ _ _ hr => nomatch hr
  | succ size ih =>
    intro cs t rest hr
    rw [readMembers] at hr
    split at hr
    · cases hr
    · cases hr
      exact hs
    · split at hr
      · cases hr
      · obtain ⟨⟨s', mid⟩, hs', hr⟩ := ok_of_bind hr
        exact ih false (h _ _ hs _ _ _ hs') _ _ _ hr

/-- Two readers of members that go through a text alike, in step with each other. -/
theorem readMembers_simulates {σ τ : Type} {member : String → σ → Reader σ}
    {member' : String → τ → Reader τ} {R : σ → τ → Prop}
    (h : ∀ key s s' cs t rest, R s s' → member key s cs = .ok (t, rest) →
      ∃ t', member' key s' cs = .ok (t', rest) ∧ R t t')
    {size : Nat} {first : Bool} {s t : σ} {s' : τ} {cs rest : List Char} (hs : R s s')
    (hr : readMembers member size first s cs = .ok (t, rest)) :
    ∃ t', readMembers member' size first s' cs = .ok (t', rest) ∧ R t t' := by
  induction size generalizing first s s' cs with
  | zero => cases hr
  | succ size ih =>
    rw [readMembers] at hr ⊢
    split at hr
    · cases hr
    · cases hr
      exact ⟨s', rfl, hs⟩
    · split at hr
      · cases hr
      · obtain ⟨⟨u, mid⟩, hu, hr⟩ := ok_of_bind hr
        obtain ⟨u', hu', hR⟩ := h _ _ _ _ _ _ hs hu
        obtain ⟨t', ht', hR'⟩ := ih hR hr
        refine ⟨t', ?_, hR'⟩
        simp only [hu', ht', bind, Except.bind]

end Parts

section Records

variable {α : Type} {shape : Shape α} {P : α → Prop}

theorem Field.yields_of {β : Type} {Q : β → Prop} {r : Reader β} (h : Yields r Q) {store : β → α → α}
    {a : α} (hstore : ∀ b, Q b → P (store b a)) (name : String) (need : Need) :
    Yields ((Field.of name need r store).read a) P := by
  intro cs b rest hr
  obtain ⟨⟨b, mid⟩, hb, heq⟩ := ok_of_bind hr
  cases heq
  exact hstore b (h _ _ _ hb)

/-- What holds before any field is given and stays true with every field. -/
structure Shape.Keeps (shape : Shape α) (P : α → Prop) : Prop where
  blank : P shape.blank
  field : ∀ f ∈ shape.fields, ∀ a, P a → Yields (f.read a) P

theorem Shape.Keeps.member (h : shape.Keeps P) (size : Nat) (key : String) (s : List String × α)
    (hs : P s.2) : Yields (shape.readMember size key s) fun s => P s.2 := by
  intro cs t rest hr
  unfold Shape.readMember at hr
  split at hr
  · have hskip : Yields (fun cs => do .ok (s, ← here (skipValue size cs)))
        (fun t : List String × α => P t.2) := by
      intro cs t rest hr
      obtain ⟨_, -, heq⟩ := ok_of_bind hr
      cases heq
      exact hs
    exact hskip.member key _ _ _ hr
  · next f hf =>
    split at hr
    · cases hr
    · obtain ⟨⟨a, mid⟩, ha, heq⟩ := ok_of_bind hr
      cases heq
      exact (h.field f (List.mem_of_find?_eq_some hf) _ hs).member key _ _ _ ha

theorem yields_fields {fields : List (Field α)} (h : ∀ f ∈ fields, ∀ a, P a → Yields (f.read a) P)
    (expected : String) (index : Nat) {a : α} (ha : P a) :
    Yields (readFields expected fields index a) P := by
  induction fields generalizing index a with
  | nil =>
    intro cs b rest hr
    cases hr
    exact ha
  | cons f fields ih =>
    rw [List.forall_mem_cons] at h
    intro cs b rest hr
    rw [readFields] at hr
    obtain ⟨next, -, hr⟩ := ok_of_bind hr
    cases next with
    | some cs =>
      obtain ⟨⟨a', mid⟩, ha', hr⟩ := ok_of_bind hr
      exact ih h.2 _ ((h.1 a ha).located _ _ _ _ ha') _ _ _ hr
    | none =>
      dsimp only at hr
      split at hr
      · exact ih h.2 _ ha _ _ _ hr
      · cases hr

theorem Shape.Keeps.record (h : shape.Keeps P) (size : Nat) (name : String) :
    Yields (readRecord size name (some shape)) P := by
  intro cs a rest hr
  unfold readRecord at hr
  split at hr
  · obtain ⟨⟨b, mid⟩, hb, hr⟩ := ok_of_bind hr
    obtain ⟨_, -, heq⟩ := ok_of_bind hr
    cases heq
    exact yields_fields h.field _ _ h.blank _ _ _ hb
  · obtain ⟨⟨⟨given, b⟩, mid⟩, hb, hr⟩ := ok_of_bind hr
    have hP : P b := yields_members (h.member size) _ _ h.blank _ _ _ hb
    dsimp only at hr
    split at hr
    · cases hr
    · obtain ⟨_, -, heq⟩ := ok_of_bind hr
      cases heq
      exact hP
  · cases hr

theorem not_ok_readRecord_none {size : Nat} {name : String} {cs rest : List Char} {a : α} :
    readRecord size name none cs ≠ .ok (a, rest) := by
  intro hr
  unfold readRecord at hr
  split at hr <;> cases hr

end Records

theorem Yields.whole {α : Type} {r : Nat → Nat → Reader α} {P : α → Prop}
    (h : ∀ size, Yields (r size depthLimit) P) {text : String} {a : α} (hr : readWhole r text = .ok a) :
    P a := by
  obtain ⟨⟨b, rest⟩, hb, hr⟩ := ok_of_bind hr
  dsimp only at hr
  split at hr
  · cases hr
    exact h _ _ _ _ hb
  · cases hr

end ConsoleNav.Json
