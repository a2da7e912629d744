import ConsoleNav.Json.Fault
import ConsoleNav.Text.Percent

/-!
Strings in JSON texts. `quote` writes a string; `unquote` reads one after its opening quote and gives
the rest of the text. What `quote` writes, `unquote` reads (`unquote_escape`).
-/
namespace ConsoleNav.Json

def escapeChar (c : Char) : List Char :=
  if c = '"' then ['\\', '"']
  else if c = '\\' then ['\\', '\\']
  else if c = '\x08' then ['\\', 'b']
  else if c = '\x0c' then ['\\', 'f']
  else if c = '\n' then ['\\', 'n']
  else if c = '\x0d' then ['\\', 'r']
  else if c = '\t' then ['\\', 't']
  else if c.toNat < 0x20 then
    ['\\', 'u', '0', '0', Nat.digitChar (c.toNat / 16), Nat.digitChar (c.toNat % 16)]
  else [c]

def escape (cs : List Char) : List Char :=
  cs.flatMap escapeChar

def quote (s : String) : List Char :=
  '"' :: escape s.toList ++ ['"']

/-- The character that a one-letter escape stands for. -/
def plainEscape? (c : Char) : Option Char :=
  if c = '"' ∨ c = '\\' ∨ c = '/' then some c
  else if c = 'b' then some '\x08'
  else if c = 'f' then some '\x0c'
  else if c = 'n' then some '\n'
  else if c = 'r' then some '\x0d'
  else if c = 't' then some '\t'
  else none

/-- Whether fewer than four octets are left. -/
def fewOctets : List Char → Bool
  | [] => true
  | [a] => a.utf8Size < 4
  | [a, b] => a.utf8Size + b.utf8Size < 4
  | [a, b, c] => a.utf8Size + b.utf8Size + c.utf8Size < 4
  | _ => false

/-- The code unit written with four hexadecimal digits, and the rest. -/
def hexUnit (cs : List Char) : Except Cause (Nat × List Char) :=
  match cs with
  | a :: b :: c :: d :: rest =>
    match Text.hexValue? a, Text.hexValue? b, Text.hexValue? c, Text.hexValue? d with
    | some a, some b, some c, some d => .ok (((a * 16 + b) * 16 + c) * 16 + d, rest)
    | _, _, _, _ => .error .badEscape
  | _ => .error (if fewOctets cs then .endInString else .badEscape)

/-- The character of an escape after its letter `u`, and the rest. Outside the basic plane it takes two
code units. -/
def unicodeEscape (cs : List Char) : Except Cause (Char × List Char) := do
  let (high, rest) ← hexUnit cs
  if 0xDC00 ≤ high ∧ high ≤ 0xDFFF then .error .loneSurrogate
  else if 0xD800 ≤ high ∧ high ≤ 0xDBFF then
    match rest with
    | [] => .error .endInString
    | '\\' :: 'u' :: rest =>
      let (low, rest) ← hexUnit rest
      if 0xDC00 ≤ low ∧ low ≤ 0xDFFF then
        .ok (Char.ofNat (0x10000 + (high - 0xD800) * 0x400 + (low - 0xDC00)), rest)
      else .error .loneSurrogate
    | ['\\'] => .error .endInString
    | _ => .error .unfinishedSurrogate
  else .ok (Char.ofNat high, rest)

theorem length_of_hexUnit {cs rest : List Char} {n : Nat} (h : hexUnit cs = .ok (n, rest)) :
    rest.length + 4 = cs.length := by
  unfold hexUnit at h
  split at h
  · split at h <;> simp at h
    simp [h]
  · simp at h

theorem length_of_unicodeEscape {cs rest : List Char} {c : Char}
    (h : unicodeEscape cs = .ok (c, rest)) : rest.length < cs.length := by
  unfold unicodeEscape at h
  cases hu : hexUnit cs with
  | error e => simp [hu, bind, Except.bind] at h
  | ok p =>
    obtain ⟨high, mid⟩ := p
    have hl := length_of_hexUnit hu
    simp only [hu, bind, Except.bind] at h
    split at h
    · simp at h
    · split at h
      · split at h
        · simp at h
        · rename_i rest'
          cases hv : hexUnit rest' with
          | error e => simp [hv] at h
          | ok q =>
            obtain ⟨low, last⟩ := q
            have hl' := length_of_hexUnit hv
            simp only [hv] at h
            split at h <;> simp at h
            obtain ⟨-, rfl⟩ := h
            simp at hl ⊢
            omega
        · simp at h
        · simp at h
      · simp at h
        obtain ⟨-, rfl⟩ := h
        omega

/-- The characters up to the closing quote, and the rest after it. -/
def unquote (cs : List Char) : Except Cause (List Char × List Char) :=
  match cs with
  | [] => .error .endInString
  | '"' :: rest => .ok ([], rest)
  | '\\' :: 'u' :: rest =>
    match _h : unicodeEscape rest with
    | .error e => .error e
    | .ok (c, rest) => do
      let (s, last) ← unquote rest
      .ok (c :: s, last)
  | ['\\'] => .error .endInString
  | '\\' :: e :: rest =>
    match plainEscape? e with
    | none => .error .badEscape
    | some c => do
      let (s, last) ← unquote rest
      .ok (c :: s, last)
  | c :: rest =>
    if c.toNat < 0x20 then .error .controlCharacter
    else do
      let (s, last) ← unquote rest
      .ok (c :: s, last)
termination_by cs.length
decreasing_by
  · have hlt := length_of_unicodeEscape _h
    simp only [List.length_cons]
    omega
  · simp only [List.length_cons]
    omega
  · simp only [List.length_cons]
    omega

/-- The rest of the text after the closing quote of a string that is skipped. Escapes of code units
need not make up characters. -/
def skipString (cs : List Char) : Except Cause (List Char) :=
  match cs with
  | [] => .error .endInString
  | '"' :: rest => .ok rest
  | '\\' :: 'u' :: rest =>
    match _h : hexUnit rest with
    | .error e => .error e
    | .ok (_, rest) => skipString rest
  | ['\\'] => .error .endInString
  | '\\' :: e :: rest =>
    match plainEscape? e with
    | none => .error .badEscape
    | some _ => skipString rest
  | c :: rest => if c.toNat < 0x20 then .error .controlCharacter else skipString rest
termination_by cs.length
decreasing_by
  · have hlt := length_of_hexUnit _h
    simp only [List.length_cons]
    omega
  · simp only [List.length_cons]
    omega
  · simp only [List.length_cons]
    omega

end ConsoleNav.Json
