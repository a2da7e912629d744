import ConsoleNav.Proofs.Service.Addressing
import ConsoleNav.Proofs.Text.Escaping

/-!
Texts as values of forms, in the queries of addresses. A form is written with plus signs for spaces, and
with escapes for what does not stand for itself, and it is read back as it was.
-/
namespace ConsoleNav.Text

/-- The characters that stand for themselves in a form. -/
def isFormChar (c : Char) : Bool :=
  c.isAlphanum || c == '*' || c == '-' || c == '.' || c == '_'

/-- A text as a name or a value of a form. -/
def formEncode (s : String) : List Char :=
  (escapeWhere (fun c => !(isFormChar c || c == ' ')) s.toList).map fun c => if c = ' ' then '+' else c

theorem isFormChar_escapeDigit : ∀ n < 16, isFormChar (escapeDigit n) = true := by
  decide

/-- Before spaces are replaced. -/
theorem formChar_of_mem_escapeWhere {s : String} {c : Char}
    (h : c ∈ escapeWhere (fun c => !(isFormChar c || c == ' ')) s.toList) :
    c = '%' ∨ c = ' ' ∨ isFormChar c = true := by
  obtain hpercent | ⟨n, hn, rfl⟩ | ⟨hplain, -⟩ := mem_escapeWhere h
  · exact .inl hpercent
  · exact .inr (.inr (isFormChar_escapeDigit n hn))
  · rw [Bool.not_eq_false', Bool.or_eq_true, beq_iff_eq] at hplain
    exact .inr hplain.symm

theorem formChar_of_mem {s : String} {c : Char} (h : c ∈ formEncode s) :
    c = '%' ∨ c = '+' ∨ isFormChar c = true := by
  obtain ⟨d, hd, rfl⟩ := List.mem_map.mp h
  split
  · exact .inr (.inl rfl)
  · next hspace => exact (formChar_of_mem_escapeWhere hd).imp_right (.imp (absurd · hspace) id)

theorem not_mem_formEncode {c : Char} (h : c ≠ '%' ∧ c ≠ '+' ∧ isFormChar c = false) (s : String) :
    c ∉ formEncode s := by
  intro hmem
  rcases formChar_of_mem hmem with hpercent | hplus | hform
  · exact h.1 hpercent
  · exact h.2.1 hplus
  · rw [h.2.2] at hform
    cases hform

/-- Only spaces become plus signs, for a plus sign itself is escaped. -/
theorem spaces_formEncode (s : String) :
    (formEncode s).map (fun c => if c = '+' then ' ' else c) =
      escapeWhere (fun c => !(isFormChar c || c == ' ')) s.toList := by
  rw [formEncode, List.map_map]
  refine (List.map_congr_left fun c hc => ?_).trans (List.map_id _)
  have hplus : c ≠ '+' := by
    rintro rfl
    exact absurd (formChar_of_mem_escapeWhere hc) (by decide)
  by_cases hspace : c = ' '
  · rw [hspace]
    rfl
  · simp only [Function.comp_apply, if_neg hspace, if_neg hplus, id]

theorem formDecode_formEncode (s : String) : formDecode (formEncode s) = s := by
  rw [formDecode, spaces_formEncode, percentOctets_escapeWhere rfl, ← encodeUtf8_eq]
  exact decodeUtf8Lossy_encodeUtf8 s

theorem formMember_formEncode (name value : String) :
    formMember (formEncode name ++ '=' :: formEncode value) = (name, value) := by
  have hname : ∀ c ∈ formEncode name, (c != '=') = true := by
    intro c hc
    rw [bne_iff_ne]
    exact ne_of_mem_of_not_mem hc (not_mem_formEncode (by decide) name)
  rw [formMember, List.takeWhile_append_of_pos hname, List.dropWhile_append_of_pos hname]
  have htake : List.takeWhile (· != '=') ('=' :: formEncode value) = [] := rfl
  have hdrop : List.dropWhile (· != '=') ('=' :: formEncode value) = '=' :: formEncode value := rfl
  rw [htake, hdrop, List.append_nil, List.drop_one, List.tail_cons, formDecode_formEncode,
    formDecode_formEncode]

/-- A form with one member. -/
theorem formMembers_formEncode (name value : String) :
    formMembers (String.ofList (formEncode name ++ '=' :: formEncode value)) = [(name, value)] := by
  have hone : '&' ∉ formEncode name ++ '=' :: formEncode value := by
    rw [List.mem_append, List.mem_cons, not_or, not_or]
    exact ⟨not_mem_formEncode (by decide) name, by decide, not_mem_formEncode (by decide) value⟩
  have hparts : partsAt '&' (formEncode name ++ '=' :: formEncode value) =
      [formEncode name ++ '=' :: formEncode value] := by
    rw [partsAt, splitAt_of_not_mem hone, List.filter_eq_self]
    simp
  rw [formMembers, String.toList_ofList, hparts, List.map_singleton, formMember_formEncode]

section Targets

variable {cs query : List Char}

/-- A target with a path and a query. -/
theorem pathOf_query (hquery : '?' ∉ cs) (hfragment : '#' ∉ cs) :
    pathOf (String.ofList ('/' :: (cs ++ '?' :: query))) = String.ofList ('/' :: cs) := by
  have hhost : afterHost ('/' :: (cs ++ '?' :: query)) = '/' :: cs ++ '?' :: query := rfl
  have hpath : ∀ c ∈ '/' :: cs, (c != '?' && c != '#') = true := by
    rw [List.forall_mem_cons, ← List.takeWhile_eq_self_iff]
    exact ⟨rfl, takeWhile_path hquery hfragment⟩
  rw [pathOf, String.toList_ofList, hhost, List.takeWhile_append_of_pos hpath,
    List.takeWhile_cons_of_neg (by decide), List.append_nil]

theorem queryOf_query (hquery : '?' ∉ cs) (hfragment : '#' ∉ cs) (hend : '#' ∉ query) :
    queryOf (String.ofList ('/' :: (cs ++ '?' :: query))) = String.ofList query := by
  have hhost : afterHost ('/' :: (cs ++ '?' :: query)) = '/' :: cs ++ '?' :: query := rfl
  have hall : ∀ c ∈ '/' :: cs ++ '?' :: query, (c != '#') = true := by
    intro c hc
    have hmem : '#' ∉ '/' :: cs ++ '?' :: query := by simp [hfragment, hend]
    exact bne_iff_ne.mpr (ne_of_mem_of_not_mem hc hmem)
  have hpath : ∀ c ∈ '/' :: cs, (c != '?') = true := by
    intro c hc
    have hmem : '?' ∉ '/' :: cs := by simp [hquery]
    exact bne_iff_ne.mpr (ne_of_mem_of_not_mem hc hmem)
  rw [queryOf, String.toList_ofList, hhost, List.takeWhile_eq_self_iff.mpr hall,
    List.dropWhile_append_of_pos hpath, List.dropWhile_cons_of_neg (by decide), List.drop_one,
    List.tail_cons]

end Targets

end ConsoleNav.Text
