import DateGetters.Locale

/-!
# What literals are made of

Between its quotes a literal is a row of parts: a character that stands as it is,
a backslash with a letter behind it, or a backslash with `u` and four
hexadecimal digits behind it.  A text adds one part for each of its characters,
and two for a character beyond the basic plane.

What holds of every part holds of whole literals.  All of their characters are
printable ones of ASCII, so a literal stays on one line whatever text it was
made from.
-/

namespace DateGetters.Proofs.LiteralParts

open DateGetters.Text

/-! ## Parts -/

/-- The characters behind a backslash that stand for one character by themselves. -/
def escapeLetters : List Char :=
  ['"', '\\', 'n', 'r', 't', 'b', 'f']

/-- Whether a character is a hexadecimal digit. -/
def IsHexadecimal (character : Char) : Prop :=
  (hexValue? character).isSome = true

instance : DecidablePred IsHexadecimal :=
  fun character => inferInstanceAs (Decidable ((hexValue? character).isSome = true))

/-- Whether a character is one of ASCII that is not a control character. -/
def IsPrintable (character : Char) : Prop :=
  0x20 ≤ character.toNat ∧ character.toNat ≤ 0x7E

instance : DecidablePred IsPrintable :=
  fun character => inferInstanceAs (Decidable (0x20 ≤ character.toNat ∧ character.toNat ≤ 0x7E))

/-- A part of a literal: a character as it is, or one escape. -/
inductive LiteralPart : List Char → Prop where
  | plain {character : Char}
      (printable : IsPrintable character)
      (notQuote : character ≠ '"')
      (notBackslash : character ≠ '\\') :
      LiteralPart [character]
  | letter {letter : Char}
      (known : letter ∈ escapeLetters) :
      LiteralPart ['\\', letter]
  | unit {digits : List Char}
      (four : digits.length = 4)
      (hexadecimal : ∀ digit ∈ digits, IsHexadecimal digit) :
      LiteralPart ('\\' :: 'u' :: digits)

theorem isHexadecimal_of_mem_hexDigits
    {width value : Nat} {digit : Char}
    (member : digit ∈ hexDigits width value) :
    IsHexadecimal digit := by
  induction width generalizing value with
  | zero =>
      exact absurd member List.not_mem_nil
  | succ width ih =>
      rw [hexDigits, List.mem_append, List.mem_singleton] at member
      rcases member with earlier | rfl
      · exact ih earlier
      · rw [IsHexadecimal, hexValue?_hexDigit (Nat.mod_lt value (by decide))]
        rfl

theorem literalPart_unitEscape (unit : Nat) : LiteralPart (unitEscape unit) := by
  apply LiteralPart.unit
  · exact length_hexDigits 4 unit
  · intro digit member
    exact isHexadecimal_of_mem_hexDigits member

theorem mem_escapeLetters_of_controlLetter?
    {character letter : Char}
    (control : controlLetter? character = some letter) :
    letter ∈ escapeLetters := by
  unfold controlLetter? at control
  split at control <;> cases control <;> decide

/-- A character is written as one part, or as two if it lies beyond the basic plane. -/
theorem exists_parts_literalChar (character : Char) :
    ∃ parts : List (List Char),
      literalChar character = parts.flatten ∧ ∀ part ∈ parts, LiteralPart part := by
  unfold literalChar
  split
  · next special =>
    refine ⟨[['\\', character]], rfl, ?_⟩
    rw [List.forall_mem_singleton]
    apply LiteralPart.letter
    rcases special with rfl | rfl <;> decide
  · next ordinary =>
    rcases not_or.mp ordinary with ⟨notQuote, notBackslash⟩
    split
    · next letter control =>
      refine ⟨[['\\', letter]], rfl, ?_⟩
      rw [List.forall_mem_singleton]
      exact .letter (mem_escapeLetters_of_controlLetter? control)
    · split
      · next printable =>
        refine ⟨[[character]], rfl, ?_⟩
        rw [List.forall_mem_singleton]
        exact .plain printable notQuote notBackslash
      · refine ⟨(utf16Units character).map unitEscape, List.flatMap_def, ?_⟩
        rw [List.forall_mem_map]
        intro unit _
        exact literalPart_unitEscape unit

theorem exists_parts_literalCode (code : Nat) :
    ∃ parts : List (List Char),
      literalCode code = parts.flatten ∧ ∀ part ∈ parts, LiteralPart part := by
  unfold literalCode
  split
  · exact exists_parts_literalChar (Char.ofNat code)
  · refine ⟨[unitEscape code], by simp, ?_⟩
    rw [List.forall_mem_singleton]
    exact literalPart_unitEscape code

/-- What stands between the quotes of a literal is made of parts. -/
theorem exists_parts_literalChars (characters : List Char) :
    ∃ parts : List (List Char), characters.flatMap literalChar = parts.flatten ∧
      ∀ part ∈ parts, LiteralPart part := by
  induction characters with
  | nil =>
      exact ⟨[], rfl, by simp⟩
  | cons character others ih =>
      rcases exists_parts_literalChar character with ⟨first, written, firstParts⟩
      rcases ih with ⟨rest, writtenOthers, restParts⟩
      refine ⟨first ++ rest, ?_, ?_⟩
      · rw [List.flatMap_cons, written, writtenOthers, List.flatten_append]
      · exact List.forall_mem_append.mpr ⟨firstParts, restParts⟩

/-! ## Printable characters -/

theorem isPrintable_of_isHexadecimal
    {character : Char}
    (hexadecimal : IsHexadecimal character) :
    IsPrintable character := by
  simp only [IsHexadecimal, hexValue?, Bool.and_eq_true, decide_eq_true_eq] at hexadecimal
  rw [IsPrintable]
  -- The digits and the two ranges of letters lie between the space and the tilde.
  split at hexadecimal
  · omega
  · split at hexadecimal
    · omega
    · split at hexadecimal
      · omega
      · cases hexadecimal

theorem isPrintable_of_mem_escapeLetters
    {letter : Char}
    (known : letter ∈ escapeLetters) :
    IsPrintable letter := by
  have all : escapeLetters.all (fun letter => decide (IsPrintable letter)) = true := by
    decide
  exact of_decide_eq_true (List.all_eq_true.mp all letter known)

theorem LiteralPart.printable
    {part : List Char}
    (written : LiteralPart part) :
    ∀ character ∈ part, IsPrintable character := by
  have backslash : IsPrintable '\\' := by
    decide
  cases written with
  | plain printable _ _ =>
      exact List.forall_mem_singleton.mpr printable
  | letter known =>
      simp only [List.forall_mem_cons, List.not_mem_nil, false_imp_iff, implies_true, and_true]
      exact ⟨backslash, isPrintable_of_mem_escapeLetters known⟩
  | unit _ hexadecimal =>
      have marker : IsPrintable 'u' := by
        decide
      simp only [List.forall_mem_cons]
      refine ⟨backslash, marker, ?_⟩
      intro digit member
      exact isPrintable_of_isHexadecimal (hexadecimal digit member)

/-- Code points are written in plain ASCII, whatever text they are of. -/
theorem isPrintable_of_mem_literalOfCodes
    {codes : List Nat} {character : Char}
    (member : character ∈ (literalOfCodes codes).toList) :
    IsPrintable character := by
  have quote : IsPrintable '"' := by
    decide
  simp only [literalOfCodes, String.toList_ofList, List.cons_append, List.mem_cons,
    List.mem_append, List.mem_flatMap, List.not_mem_nil, or_false] at member
  rcases member with rfl | ⟨code, -, inCode⟩ | rfl
  · exact quote
  · rcases exists_parts_literalCode code with ⟨parts, written, made⟩
    rw [written, List.mem_flatten] at inCode
    rcases inCode with ⟨part, inParts, inPart⟩
    exact (made part inParts).printable character inPart
  · exact quote

theorem isPrintable_of_mem_literal
    {text : String} {character : Char}
    (member : character ∈ (literal text).toList) :
    IsPrintable character := by
  rw [← literalOfCodes_codes] at member
  exact isPrintable_of_mem_literalOfCodes member

theorem isPrintable_of_mem_localeLiteral
    {locale : Value} {character : Char}
    (member : character ∈ (localeLiteral locale).toList) :
    IsPrintable character := by
  have nullPrintable : ∀ character ∈ nullLiteral.toList, IsPrintable character := by
    simp [nullLiteral, IsPrintable]
  unfold localeLiteral at member
  split at member
  · exact nullPrintable character member
  · split at member
    · exact nullPrintable character member
    · exact isPrintable_of_mem_literal member
  · exact isPrintable_of_mem_literalOfCodes member
  · exact isPrintable_of_mem_literal member

/-- No locale, whatever it holds, breaks the line that its literal stands on. -/
theorem newline_not_mem_localeLiteral (locale : Value) :
    '\n' ∉ (localeLiteral locale).toList := by
  intro member
  exact absurd (isPrintable_of_mem_localeLiteral member) (by decide)

end DateGetters.Proofs.LiteralParts
