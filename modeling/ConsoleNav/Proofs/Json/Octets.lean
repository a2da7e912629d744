import ConsoleNav.Json.Octets
import ConsoleNav.Proofs.Text.Octets

/-!
Octets as bodies of messages have them. They are those of a text just if every octet belongs to a
character; a text is then read as it is, and there is a gap to mend otherwise.
-/
namespace ConsoleNav.Text

theorem eq_encodeUtf8_of_decodeUtf8? {bytes : List UInt8} {s : String}
    (h : decodeUtf8? bytes = some s) : bytes = encodeUtf8 s := by
  unfold decodeUtf8? String.fromUTF8? at h
  split at h
  · cases h
    rfl
  · cases h

theorem utf8EncodeChar_append_inj {c d : Char} {x y : List UInt8}
    (h : String.utf8EncodeChar c ++ x = String.utf8EncodeChar d ++ y) : c = d := by
  obtain hlt | rfl | hgt := lt_trichotomy c d
  · exact absurd (utf8EncodeChar_append_lt hlt x y) (h ▸ List.lt_irrefl _)
  · rfl
  · exact absurd (utf8EncodeChar_append_lt hgt y x) (h ▸ List.lt_irrefl _)

theorem exists_of_firstChar? {bytes : List UInt8} {c : Char} (h : firstChar? bytes = some c) :
    ∃ rest, bytes = String.utf8EncodeChar c ++ rest := by
  obtain ⟨n, -, hn⟩ := List.exists_of_findSome?_eq_some h
  obtain ⟨s, hs, hc⟩ := Option.bind_eq_some_iff.mp hn
  obtain ⟨cs, hcs⟩ := List.head?_eq_some_iff.mp hc
  refine ⟨cs.flatMap String.utf8EncodeChar ++ bytes.drop n, ?_⟩
  rw [← List.append_assoc, ← List.flatMap_cons, ← hcs, ← encodeUtf8_eq,
    ← eq_encodeUtf8_of_decodeUtf8? hs, List.take_append_drop]

theorem firstChar?_utf8EncodeChar (c : Char) (rest : List UInt8) :
    firstChar? (String.utf8EncodeChar c ++ rest) = some c := by
  have hfound : (firstChar? (String.utf8EncodeChar c ++ rest)).isSome := by
    rw [firstChar?, List.findSome?_isSome_iff]
    refine ⟨c.utf8Size, ?_, ?_⟩
    · have hpos := c.utf8Size_pos
      have hle := c.utf8Size_le_four
      simp only [List.mem_cons, List.not_mem_nil, or_false]
      omega
    · have htake : (String.utf8EncodeChar c ++ rest).take c.utf8Size =
          encodeUtf8 (String.singleton c) := by
        rw [List.take_append_of_le_length (by simp), List.take_of_length_le (by simp), encodeUtf8_eq]
        simp
      rw [htake, decodeUtf8?_encodeUtf8]
      simp
  obtain ⟨d, hd⟩ := Option.isSome_iff_exists.mp hfound
  obtain ⟨rest', hrest⟩ := exists_of_firstChar? hd
  rw [hd, utf8EncodeChar_append_inj hrest]

theorem looseChars_skip (owed rest : List UInt8) :
    looseChars owed.length (owed ++ rest) = looseChars 0 rest := by
  induction owed with
  | nil => rfl
  | cons b owed ih => exact ih

theorem looseChars_utf8EncodeChar (c : Char) (rest : List UInt8) :
    looseChars 0 (String.utf8EncodeChar c ++ rest) = some c :: looseChars 0 rest := by
  have hfirst := firstChar?_utf8EncodeChar c rest
  have hlength : (String.utf8EncodeChar c).length = c.utf8Size := String.length_utf8EncodeChar c
  cases hbytes : String.utf8EncodeChar c with
  | nil => exact absurd hbytes String.utf8EncodeChar_ne_nil
  | cons b owed =>
    rw [hbytes, List.cons_append] at hfirst
    rw [hbytes, List.length_cons] at hlength
    rw [List.cons_append, looseChars, hfirst]
    dsimp only
    rw [← hlength, Nat.add_sub_cancel, looseChars_skip]

theorem looseChars_encodeUtf8 (s : String) : looseChars 0 (encodeUtf8 s) = s.toList.map some := by
  rw [encodeUtf8_eq]
  induction s.toList with
  | nil => rfl
  | cons c cs ih => rw [List.flatMap_cons, looseChars_utf8EncodeChar, ih, List.map_cons]

theorem exists_encodeUtf8_of_looseChars {bytes : List UInt8} (h : none ∉ looseChars 0 bytes) :
    ∃ s, bytes = encodeUtf8 s := by
  induction hn : bytes.length using Nat.strong_induction_on generalizing bytes with
  | _ n ih =>
    cases bytes with
    | nil => exact ⟨"", rfl⟩
    | cons b bytes =>
      cases hfirst : firstChar? (b :: bytes) with
      | none =>
        rw [looseChars, hfirst] at h
        exact absurd List.mem_cons_self h
      | some c =>
        obtain ⟨rest, hrest⟩ := exists_of_firstChar? hfirst
        rw [hrest, looseChars_utf8EncodeChar] at h
        have hlt : rest.length < n := by
          have hpos := c.utf8Size_pos
          have hlength : (String.utf8EncodeChar c).length = c.utf8Size :=
            String.length_utf8EncodeChar c
          rw [← hn, hrest, List.length_append]
          omega
        obtain ⟨s, hs⟩ := ih rest.length hlt (fun hmem => h (List.mem_cons_of_mem _ hmem)) rfl
        refine ⟨String.ofList (c :: s.toList), ?_⟩
        rw [hrest, hs, encodeUtf8_eq, encodeUtf8_eq, String.toList_ofList, List.flatMap_cons]

/-- Octets that encode no text have a gap. -/
theorem decodeUtf8?_eq_none_iff {bytes : List UInt8} :
    decodeUtf8? bytes = none ↔ none ∈ looseChars 0 bytes := by
  constructor
  · intro h
    by_contra hall
    obtain ⟨s, hs⟩ := exists_encodeUtf8_of_looseChars hall
    rw [hs, decodeUtf8?_encodeUtf8] at h
    cases h
  · intro h
    cases hdecode : decodeUtf8? bytes with
    | none => rfl
    | some s =>
      rw [eq_encodeUtf8_of_decodeUtf8? hdecode, looseChars_encodeUtf8] at h
      simp at h

end ConsoleNav.Text

namespace ConsoleNav.Json

/-- Where no string is refused, nothing is marked. -/
theorem mend_map_some (mark : List Char) (cs : List Char) :
    mend mark .parts (cs.map some) = cs ∧ mend mark (.string false) (cs.map some) = cs ∧
      mend mark (.escape false) (cs.map some) = cs := by
  induction cs with
  | nil => exact ⟨rfl, rfl, rfl⟩
  | cons c cs ih =>
    obtain ⟨hparts, hstring, hescape⟩ := ih
    simp only [List.map_cons, mend, Option.getD_some, Option.isNone_some, Bool.or_false]
    refine ⟨?_, ?_, by rw [hstring]⟩
    · split
      · rw [hstring]
      · rw [hparts]
    · split
      · next hquote =>
        cases hquote
        rw [hparts]
        rfl
      · split
        · rw [hescape]
        · rw [hstring]

/-- The octets of a text are not mended. -/
theorem mend_encodeUtf8 (mark : List Char) (s : String) :
    mend mark .parts (Text.looseChars 0 (Text.encodeUtf8 s)) = s.toList := by
  rw [Text.looseChars_encodeUtf8, (mend_map_some mark s.toList).1]

end ConsoleNav.Json
