import ConsoleNav.Address.Client
import ConsoleNav.Proofs.Text.Stripping

/-!
The place that an address leads to: a scheme, who asks, a host and a port. What stands before the path of
an address of the web says which place it is, and is read without a look at the path; so slashes at the
end of the text, or a path put in their stead, leave the place as it is.
-/
namespace ConsoleNav.Address

/-- Addresses of one place, whatever is asked for there. -/
structure SamePlace (a b : Address) : Prop where
  scheme : a.scheme = b.scheme
  user : a.user = b.user
  host : a.host = b.host
  port : a.port = b.port

theorem SamePlace.symm {a b : Address} (h : SamePlace a b) : SamePlace b a :=
  ⟨h.scheme.symm, h.user.symm, h.host.symm, h.port.symm⟩

theorem SamePlace.trans {a b c : Address} (hab : SamePlace a b) (hbc : SamePlace b c) :
    SamePlace a c :=
  ⟨hab.scheme.trans hbc.scheme, hab.user.trans hbc.user, hab.host.trans hbc.host,
    hab.port.trans hbc.port⟩

theorem SamePlace.isWeb_eq {a b : Address} (h : SamePlace a b) : a.isWeb = b.isWeb := by
  rw [isWeb, h.scheme, isWeb]

theorem isWeb_withoutUser (a : Address) : a.withoutUser.isWeb = a.isWeb := by
  unfold withoutUser
  split <;> rfl

/-! ### Texts of one place -/

/-- What ends a place: a path, a query, a fragment, or the end of the text. -/
def EndsPlace (rest : List Char) : Prop :=
  ∀ c ∈ rest.head?, c = '/' ∨ c = '\\' ∨ c = '?' ∨ c = '#'

/-- Whether a text leads to a place, whatever it asks for there. -/
def LeadsTo (place : List Char) (text : String) : Prop :=
  ∃ rest, relevant text = place ++ rest ∧ EndsPlace rest

/-- A client that reads addresses of the web place first. Every text that leads to the place is the text of
an address there, since there is no path, no query and no fragment that cannot be read. -/
def Client.ReadsPlaces (client : Client) : Prop :=
  ∀ text a, client.read? text = some a → a.isWeb →
    ∃ place, LeadsTo place text ∧ place.getLast? ≠ some '/' ∧
      ∀ other, LeadsTo place other → ∃ b, client.read? other = some b ∧ b.SamePlace a

/-! ### Longer paths -/

theorem endsPlace_cons {c : Char} (h : c = '/' ∨ c = '\\' ∨ c = '?' ∨ c = '#') (rest : List Char) :
    EndsPlace (c :: rest) := by
  intro d hd
  cases hd
  exact h

theorem relevant_append {cs tail : List Char} (hhead : ∀ c ∈ tail.head?, 0x20 < c.toNat)
    (hlast : ∀ c ∈ (cs ++ tail).getLast?, 0x20 < c.toNat) (hkept : ∀ c ∈ tail, isIgnored c = false) :
    relevant (String.ofList (cs ++ tail)) =
      (cs.dropWhile fun c => c.toNat ≤ 0x20).filter (!isIgnored ·) ++ tail := by
  have hbegins : ∀ c ∈ tail.head?, decide (c.toNat ≤ 0x20) = false :=
    fun c hc => decide_eq_false (Nat.not_le.mpr (hhead c hc))
  have hends : ∀ c ∈ (cs ++ tail).getLast?, decide (c.toNat ≤ 0x20) = false :=
    fun c hc => decide_eq_false (Nat.not_le.mpr (hlast c hc))
  have htail : tail.filter (!isIgnored ·) = tail := by
    rw [List.filter_eq_self]
    intro c hc
    rw [hkept c hc, Bool.not_false]
  rw [relevant, String.toList_ofList, Text.stripBoth_of_getLast hends,
    Text.dropWhile_append_of_head hbegins, List.filter_append, htail]

/-- A place that slashes follow stands before all of them. -/
theorem exists_append_of_slashes {core slashes place rest : List Char}
    (h : core ++ slashes = place ++ rest) (hslashes : ∀ c ∈ slashes, c = '/')
    (hplace : place.getLast? ≠ some '/') : ∃ mid, core = place ++ mid ∧ rest = mid ++ slashes := by
  obtain ⟨mid, hcore, hrest⟩ | ⟨more, hplace', hmore⟩ := List.append_eq_append_iff.mp h.symm
  · exact ⟨mid, hcore, hrest⟩
  · cases hlast : more.getLast? with
    | none =>
      obtain rfl := List.getLast?_eq_none_iff.mp hlast
      exact ⟨[], by simpa using hplace'.symm, hmore.symm⟩
    | some c =>
      have hc : c = '/' := by
        apply hslashes
        rw [hmore]
        exact List.mem_append_left _ (List.mem_of_getLast? hlast)
      refine absurd ?_ hplace
      rw [hplace', List.getLast?_append, hlast, hc, Option.some_or]

/-- Slashes at the end of the text of an address do not count for where it leads to, and neither does a
path that is put in their place. -/
theorem Client.ReadsPlaces.exists_read?_append {client : Client} (hreads : client.ReadsPlaces)
    {base slashes path : List Char} {b : Address}
    (h : client.read? (String.ofList (base ++ slashes)) = some b) (hweb : b.isWeb)
    (hslashes : ∀ c ∈ slashes, c = '/') (hlast : ∀ c ∈ (base ++ slashes).getLast?, 0x20 < c.toNat)
    (hpath : path.head? = some '/') (hend : ∀ c ∈ path.getLast?, 0x20 < c.toNat)
    (hkept : ∀ c ∈ path, isIgnored c = false) :
    ∃ a, client.read? (String.ofList (base ++ path)) = some a ∧ SamePlace a b := by
  have hslash : ∀ c : Char, c = '/' → 0x20 < c.toNat ∧ isIgnored c = false := by
    rintro c rfl
    decide
  have hhead : ∀ c ∈ path.head?, c = '/' := by
    intro c hc
    rw [hpath] at hc
    cases hc
    rfl
  obtain ⟨place, ⟨rest, hrelevant, hrest⟩, hplace, hother⟩ := hreads _ b h hweb
  rw [relevant_append (fun c hc => (hslash c (hslashes c (List.mem_of_mem_head? hc))).1) hlast
    fun c hc => (hslash c (hslashes c hc)).2] at hrelevant
  obtain ⟨mid, hcore, rfl⟩ := exists_append_of_slashes hrelevant hslashes hplace
  apply hother
  refine ⟨mid ++ path, ?_, ?_⟩
  · have hlong : ∀ c ∈ (base ++ path).getLast?, 0x20 < c.toNat := by
      obtain ⟨tail, rfl⟩ := List.head?_eq_some_iff.mp hpath
      rwa [List.getLast?_append_of_ne_nil base (List.cons_ne_nil _ _)]
    rw [relevant_append (fun c hc => (hslash c (hhead c hc)).1) hlong hkept, hcore, List.append_assoc]
  · cases mid with
    | nil => exact fun c hc => .inl (hhead c hc)
    | cons c mid => exact endsPlace_cons (hrest c rfl) _

end ConsoleNav.Address
