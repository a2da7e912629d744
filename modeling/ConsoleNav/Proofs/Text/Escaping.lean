import ConsoleNav.Text.Percent
import ConsoleNav.Text.Target
import Mathlib.Data.List.TakeWhile

/-!
Texts as segments of addresses. What is not unreserved is escaped octet by octet, and the text is got back
by taking the escapes for the octets they stand for.
-/
namespace ConsoleNav.Text

theorem hexValue?_escapeDigit : ∀ n < 16, hexValue? (escapeDigit n) = some n := by
  decide

theorem percentOctets_octetEscape (b : UInt8) (cs : List Char) :
    percentOctets (octetEscape b ++ cs) = b :: percentOctets cs := by
  have hsize : b.toNat < 256 := UInt8.toNat_lt b
  have hhigh := hexValue?_escapeDigit (b.toNat / 16) (by omega)
  have hlow := hexValue?_escapeDigit (b.toNat % 16) (by omega)
  show percentOctets ('%' :: escapeDigit (b.toNat / 16) :: escapeDigit (b.toNat % 16) :: cs) = _
  rw [percentOctets]
  simp only [hhigh, hlow]
  rw [Nat.div_add_mod' b.toNat 16, UInt8.ofNat_toNat]

theorem percentOctets_octetEscapes (bs : List UInt8) (cs : List Char) :
    percentOctets (bs.flatMap octetEscape ++ cs) = bs ++ percentOctets cs := by
  induction bs with
  | nil => rfl
  | cons b bs ih =>
    rw [List.flatMap_cons, List.append_assoc, percentOctets_octetEscape, ih]
    rfl

theorem percentOctets_cons {c : Char} (h : c ≠ '%') (cs : List Char) :
    percentOctets (c :: cs) = String.utf8EncodeChar c ++ percentOctets cs := by
  rw [percentOctets]
  intro a b rest hpercent
  exact absurd hpercent h

/-- Escapes are octets of the text, as long as no percent sign stands for itself. -/
theorem percentOctets_escapeWhere {p : Char → Bool} (h : p '%' = true) (cs : List Char) :
    percentOctets (escapeWhere p cs) = cs.flatMap String.utf8EncodeChar := by
  induction cs with
  | nil => rfl
  | cons c cs ih =>
    have hcons : escapeWhere p (c :: cs) =
        (if p c then (String.utf8EncodeChar c).flatMap octetEscape else [c]) ++ escapeWhere p cs :=
      List.flatMap_cons
    rw [hcons, List.flatMap_cons, ← ih]
    split
    · exact percentOctets_octetEscapes _ _
    · rename_i hplain
      refine percentOctets_cons ?_ _
      rintro rfl
      exact hplain h

theorem encodeUtf8_eq (s : String) : encodeUtf8 s = s.toList.flatMap String.utf8EncodeChar := by
  rw [encodeUtf8, String.toUTF8, ← s.utf8Encode_toList, List.utf8Encode, List.data_toByteArray]

/-- The characters that addresses have for no purpose of their own. -/
def isUnreserved (c : Char) : Bool :=
  c.isAlphanum || c == '-' || c == '.' || c == '_' || c == '~'

/-- A text as one segment of an address. -/
def escapeSegment (s : String) : String :=
  String.ofList (escapeWhere (!isUnreserved ·) s.toList)

theorem percentDecode?_escapeSegment (s : String) : percentDecode? (escapeSegment s) = some s := by
  rw [percentDecode?, escapeSegment, String.toList_ofList, percentOctets_escapeWhere rfl,
    ← encodeUtf8_eq]
  exact decodeUtf8?_encodeUtf8 s

theorem escapeSegment_inj {s t : String} (h : escapeSegment s = escapeSegment t) : s = t := by
  have hs := percentDecode?_escapeSegment s
  rw [h, percentDecode?_escapeSegment t] at hs
  exact (Option.some.inj hs).symm

theorem mem_escapeWhere {p : Char → Bool} {c : Char} {cs : List Char} (h : c ∈ escapeWhere p cs) :
    c = '%' ∨ (∃ n < 16, c = escapeDigit n) ∨ (p c = false ∧ c ∈ cs) := by
  obtain ⟨d, hd, hc⟩ := List.mem_flatMap.mp h
  split at hc
  · obtain ⟨b, -, hc⟩ := List.mem_flatMap.mp hc
    have hsize : b.toNat < 256 := UInt8.toNat_lt b
    simp only [octetEscape, List.mem_cons, List.not_mem_nil, or_false] at hc
    rcases hc with rfl | rfl | rfl
    · exact .inl rfl
    · exact .inr (.inl ⟨_, by omega, rfl⟩)
    · exact .inr (.inl ⟨_, by omega, rfl⟩)
  · next hplain =>
    obtain rfl := List.mem_singleton.mp hc
    exact .inr (.inr ⟨by simpa using hplain, hd⟩)

theorem isUnreserved_escapeDigit : ∀ n < 16, isUnreserved (escapeDigit n) = true := by
  decide

theorem unreserved_of_mem {s : String} {c : Char} (h : c ∈ (escapeSegment s).toList) :
    c = '%' ∨ isUnreserved c = true := by
  rw [escapeSegment, String.toList_ofList] at h
  obtain hpercent | ⟨n, hn, rfl⟩ | ⟨hplain, -⟩ := mem_escapeWhere h
  · exact .inl hpercent
  · exact .inr (isUnreserved_escapeDigit n hn)
  · exact .inr (by simpa using hplain)

theorem not_mem_escapeSegment {c : Char} (h : c ≠ '%' ∧ isUnreserved c = false) (s : String) :
    c ∉ (escapeSegment s).toList := by
  intro hmem
  rcases unreserved_of_mem hmem with hpercent | hunreserved
  · exact h.1 hpercent
  · rw [h.2] at hunreserved
    cases hunreserved

theorem takeWhile_path {cs : List Char} (hquery : '?' ∉ cs) (hfragment : '#' ∉ cs) :
    cs.takeWhile (fun c => c != '?' && c != '#') = cs := by
  rw [List.takeWhile_eq_self_iff]
  intro c hc
  rw [Bool.and_eq_true, bne_iff_ne, bne_iff_ne]
  exact ⟨ne_of_mem_of_not_mem hc hquery, ne_of_mem_of_not_mem hc hfragment⟩

/-- A target that is nothing but a path. -/
theorem pathOf_eq {cs : List Char} (hquery : '?' ∉ cs) (hfragment : '#' ∉ cs) :
    pathOf (String.ofList ('/' :: cs)) = String.ofList ('/' :: cs) := by
  have hhost : afterHost ('/' :: cs) = '/' :: cs := rfl
  have hslash : ('/' :: cs).takeWhile (fun c => c != '?' && c != '#') =
      '/' :: cs.takeWhile (fun c => c != '?' && c != '#') := rfl
  rw [pathOf, String.toList_ofList, hhost, hslash, takeWhile_path hquery hfragment]

end ConsoleNav.Text
