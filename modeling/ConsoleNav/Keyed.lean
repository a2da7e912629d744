/-!
Lists of keys with their values, in the order of the keys. Keys are ordered by their code points, which
is also the order of the octets of their encoding.
-/
namespace ConsoleNav.Keyed

variable {α : Type}

/-- Put a value under a key into an ordered list, in the place of the value that was there. -/
def insert (key : String) (value : α) : List (String × α) → List (String × α)
  | [] => [(key, value)]
  | (k, v) :: rest =>
    if key = k then (key, value) :: rest
    else if key < k then (key, value) :: (k, v) :: rest
    else (k, v) :: insert key value rest

/-- The ordered list of the last value of each key. -/
def ofList (entries : List (String × α)) : List (String × α) :=
  entries.foldl (fun m e => insert e.1 e.2 m) []

theorem ofList_nil : ofList ([] : List (String × α)) = [] := rfl

theorem insert_insert_self (key : String) (a b : α) (m : List (String × α)) :
    insert key a (insert key b m) = insert key a m := by
  induction m with
  | nil => simp [insert]
  | cons e m ih =>
    obtain ⟨k, v⟩ := e
    by_cases h : key = k
    · simp [insert, h]
    · by_cases hlt : key < k
      · simp [insert, h, hlt]
      · simp [insert, h, hlt, ih]

end ConsoleNav.Keyed
