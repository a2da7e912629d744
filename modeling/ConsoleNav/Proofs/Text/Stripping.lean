import ConsoleNav.Text.Blank
import Mathlib.Data.List.DropRight

/-!
What is taken off the ends of texts: all characters of a kind that stand there, and no others. A run of
such characters ends where it did before if the text goes on with another one. A text without the blanks
at its ends is the only one that differs from it by blanks at the ends and has none there.
-/
namespace ConsoleNav.Text

variable (p : Char → Bool)

theorem stripBoth_append {before core after : List Char} (hbefore : ∀ c ∈ before, p c = true)
    (hafter : ∀ c ∈ after, p c = true) : stripBoth p (before ++ core ++ after) = stripBoth p core := by
  have hend : ∀ cs : List Char, (cs ++ after).rdropWhile p = cs.rdropWhile p := by
    intro cs
    rw [List.rdropWhile, List.reverse_append, List.dropWhile_append_of_pos]
    · rfl
    · simpa using hafter
  change (List.dropWhile p _).rdropWhile p = (core.dropWhile p).rdropWhile p
  rw [List.append_assoc, List.dropWhile_append_of_pos hbefore, List.dropWhile_append]
  split
  · rename_i hempty
    rw [List.isEmpty_iff.mp hempty, List.dropWhile_eq_nil_iff.mpr hafter]
  · exact hend _

theorem exists_stripBoth (cs : List Char) :
    ∃ before after, cs = before ++ stripBoth p cs ++ after ∧ (∀ c ∈ before, p c = true) ∧
      ∀ c ∈ after, p c = true := by
  refine ⟨cs.takeWhile p, (cs.dropWhile p).rtakeWhile p, ?_, fun c => List.mem_takeWhile_imp,
    fun c => List.mem_rtakeWhile_imp⟩
  change cs = cs.takeWhile p ++ (cs.dropWhile p).rdropWhile p ++ (cs.dropWhile p).rtakeWhile p
  rw [List.append_assoc, List.rdropWhile_append_rtakeWhile, List.takeWhile_append_dropWhile]

theorem exists_stripEnd (cs : List Char) :
    ∃ after, cs = stripEnd p cs ++ after ∧ ∀ c ∈ after, p c = true := by
  refine ⟨cs.rtakeWhile p, ?_, fun c => List.mem_rtakeWhile_imp⟩
  exact List.rdropWhile_append_rtakeWhile.symm

theorem stripBoth_stripBoth (cs : List Char) : stripBoth p (stripBoth p cs) = stripBoth p cs := by
  obtain ⟨before, after, hcs, hbefore, hafter⟩ := exists_stripBoth p cs
  conv_rhs => rw [hcs]
  exact (stripBoth_append p hbefore hafter).symm

variable {p} {cs tail : List Char}

theorem stripBoth_of_getLast (h : ∀ c ∈ cs.getLast?, p c = false) :
    stripBoth p cs = cs.dropWhile p := by
  change (cs.dropWhile p).rdropWhile p = cs.dropWhile p
  rw [List.rdropWhile_eq_self_iff]
  intro hne
  rw [(List.dropWhile_suffix p).getLast hne]
  simp [h _ (List.getLast_mem_getLast? _)]

/-- No character of the kind is left at the beginning. -/
theorem head?_stripBoth : ∀ c ∈ (stripBoth p cs).head?, p c = false := by
  intro c hc
  obtain ⟨rest, hrest⟩ : stripBoth p cs <+: cs.dropWhile p := List.rdropWhile_prefix p (cs.dropWhile p)
  have hhead : (cs.dropWhile p).head? = some c := by
    rw [← hrest, List.head?_append, Option.mem_def.mp hc, Option.some_or]
  simpa [hhead] using cs.head?_dropWhile_not p

theorem getLast?_stripBoth : ∀ c ∈ (stripBoth p cs).getLast?, p c = false := by
  intro c hc
  rw [stripBoth, List.getLast?_reverse] at hc
  simpa [Option.mem_def.mp hc] using (cs.dropWhile p).reverse.head?_dropWhile_not p

theorem stripBoth_eq_self (hhead : ∀ c ∈ cs.head?, p c = false)
    (hlast : ∀ c ∈ cs.getLast?, p c = false) : stripBoth p cs = cs := by
  rw [stripBoth_of_getLast hlast, List.dropWhile_eq_self_iff]
  intro hpos
  simpa using hhead _ (List.getElem_zero hpos ▸ List.head_mem_head? _)

/-! ### Longer texts -/

/-- What does not begin with a character of the kind ends a run of such characters. -/
theorem takeWhile_append_of_head (h : ∀ c ∈ tail.head?, p c = false) :
    (cs ++ tail).takeWhile p = cs.takeWhile p := by
  have htail : tail.takeWhile p = [] := by
    cases tail with
    | nil => rfl
    | cons c tail => rw [List.takeWhile_cons, h c rfl, if_neg Bool.false_ne_true]
  rw [List.takeWhile_append]
  split
  · next hall => rw [htail, List.append_nil, (List.takeWhile_sublist p).eq_of_length hall]
  · rfl

theorem dropWhile_append_of_head (h : ∀ c ∈ tail.head?, p c = false) :
    (cs ++ tail).dropWhile p = cs.dropWhile p ++ tail := by
  apply List.append_cancel_left
  calc cs.takeWhile p ++ (cs ++ tail).dropWhile p
    _ = (cs ++ tail).takeWhile p ++ (cs ++ tail).dropWhile p := by rw [takeWhile_append_of_head h]
    _ = cs ++ tail := List.takeWhile_append_dropWhile
    _ = cs.takeWhile p ++ (cs.dropWhile p ++ tail) := by
      rw [← List.append_assoc, List.takeWhile_append_dropWhile]

/-! ### Trimmed texts -/

/-- The characters with the White_Space property. -/
def blanks : List Char :=
  ['\t', '\n', '\x0b', '\x0c', '\r', ' ', '\u0085', '\u00a0', '\u1680', '\u2000', '\u2001', '\u2002',
    '\u2003', '\u2004', '\u2005', '\u2006', '\u2007', '\u2008', '\u2009', '\u200a', '\u2028', '\u2029',
    '\u202f', '\u205f', '\u3000']

theorem isBlank_iff_mem {c : Char} : isBlank c = true ↔ c ∈ blanks := by
  have hmem : c ∈ blanks ↔ c.toNat ∈ blanks.map Char.toNat :=
    (List.mem_map_of_injective fun _ _ => Char.toNat_inj.mp).symm
  have hcodes : blanks.map Char.toNat = [9, 10, 11, 12, 13, 32, 133, 160, 5760, 8192, 8193, 8194, 8195,
    8196, 8197, 8198, 8199, 8200, 8201, 8202, 8232, 8233, 8239, 8287, 12288] := by decide
  rw [hmem, hcodes]
  simp only [isBlank, List.mem_cons, List.not_mem_nil, or_false, Bool.or_eq_true, Bool.and_eq_true,
    decide_eq_true_eq, beq_iff_eq]
  omega

theorem isBlank_eq_false_iff {c : Char} : isBlank c = false ↔ c ∉ blanks := by
  rw [← isBlank_iff_mem, Bool.not_eq_true]

/-- What is left of a text without the blanks at its ends: nothing but blanks is gone, and no blank stands
at either end of the rest. -/
structure IsTrimmed (text core : String) : Prop where
  removed : ∃ before after, text.toList = before ++ core.toList ++ after ∧ (∀ c ∈ before, c ∈ blanks) ∧
    ∀ c ∈ after, c ∈ blanks
  head : ∀ c ∈ core.toList.head?, c ∉ blanks
  last : ∀ c ∈ core.toList.getLast?, c ∉ blanks

theorem isTrimmed_trim (text : String) : IsTrimmed text (trim text) := by
  obtain ⟨before, after, htext, hbefore, hafter⟩ := exists_stripBoth isBlank text.toList
  have hcore : (trim text).toList = stripBoth isBlank text.toList := String.toList_ofList
  constructor
  · rw [hcore]
    exact ⟨before, after, htext, fun c hc => isBlank_iff_mem.mp (hbefore c hc),
      fun c hc => isBlank_iff_mem.mp (hafter c hc)⟩
  · rw [hcore]
    exact fun c hc => isBlank_eq_false_iff.mp (head?_stripBoth c hc)
  · rw [hcore]
    exact fun c hc => isBlank_eq_false_iff.mp (getLast?_stripBoth c hc)

theorem isTrimmed_iff {text core : String} : IsTrimmed text core ↔ core = trim text := by
  constructor
  · rintro ⟨⟨before, after, htext, hbefore, hafter⟩, hhead, hlast⟩
    have hcore : stripBoth isBlank core.toList = core.toList :=
      stripBoth_eq_self (fun c hc => isBlank_eq_false_iff.mpr (hhead c hc))
        fun c hc => isBlank_eq_false_iff.mpr (hlast c hc)
    rw [trim, htext, stripBoth_append isBlank (fun c hc => isBlank_iff_mem.mpr (hbefore c hc))
      fun c hc => isBlank_iff_mem.mpr (hafter c hc), hcore, String.ofList_toList]
  · rintro rfl
    exact isTrimmed_trim text

end ConsoleNav.Text
