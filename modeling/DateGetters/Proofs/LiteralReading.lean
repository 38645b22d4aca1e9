import DateGetters.Locale
import DateGetters.Text.Codes

/-!
# Reading locale literals back

A literal is read code point by code point, and every `\u` escape is one code
point.  What is read is therefore the list of UTF-16 units of the text that was
written: the text itself as long as all its characters lie in the basic plane,
and two halves of a surrogate pair for each character beyond it.
-/

namespace DateGetters.Proofs.LiteralReading

open DateGetters.Text

/-! ## Units and their escapes -/

theorem utf16Units_basic
    {character : Char}
    (basic : character.toNat < 0x10000) :
    utf16Units character = [character.toNat] := by
  simp [utf16Units, basic]

/-- Every unit has sixteen bits. -/
theorem unit_lt
    {character : Char} {unit : Nat}
    (member : unit ∈ utf16Units character) :
    unit < 0x10000 := by
  have bound : character.toNat < 0x110000 := by
    have valid := isCharacter_toNat character
    simp only [isCharacter, Bool.or_eq_true, Bool.and_eq_true,
      decide_eq_true_eq] at valid
    omega
  by_cases basic : character.toNat < 0x10000
  · rw [utf16Units_basic basic] at member
    rw [List.mem_singleton.mp member]
    exact basic
  · simp only [utf16Units, basic, if_false, List.mem_cons,
      List.not_mem_nil, or_false] at member
    rcases member with high | low <;> omega

/-- Four digits denote the number that they were written for. -/
theorem hexValue4?_hexDigits
    {unit : Nat}
    (small : unit < 0x10000) :
    hexValue4? (hexDigit (unit / 0x1000)) (hexDigit (unit / 0x100 % 16))
        (hexDigit (unit / 0x10 % 16)) (hexDigit (unit % 16)) =
      some unit := by
  have first : hexValue? (hexDigit (unit / 0x1000)) = some (unit / 0x1000) :=
    hexValue?_hexDigit (by omega)
  have second := hexValue?_hexDigit (Nat.mod_lt (unit / 0x100) (by decide : 16 > 0))
  have third := hexValue?_hexDigit (Nat.mod_lt (unit / 0x10) (by decide : 16 > 0))
  have fourth := hexValue?_hexDigit (Nat.mod_lt unit (by decide : 16 > 0))
  simp only [hexValue4?, first, second, third, fourth, Option.bind_eq_bind,
    Option.bind_some, Option.pure_def, Option.some.injEq]
  omega

theorem unitEscape_eq
    {unit : Nat}
    (small : unit < 0x10000) :
    unitEscape unit =
      ['\\', 'u', hexDigit (unit / 0x1000), hexDigit (unit / 0x100 % 16),
        hexDigit (unit / 0x10 % 16), hexDigit (unit % 16)] := by
  have leading : unit / 16 / 16 / 16 % 16 = unit / 0x1000 := by omega
  have second : unit / 16 / 16 % 16 = unit / 0x100 % 16 := by omega
  simp [unitEscape, hexDigits, leading, second]

/-! ## One character -/

/-- An escape of a unit is read as that unit. -/
theorem readLiteral?_unitEscape
    {unit : Nat}
    (small : unit < 0x10000)
    (rest : List Char) :
    readLiteral? (unitEscape unit ++ rest) =
      (readLiteral? rest).map (unit :: ·) := by
  rw [unitEscape_eq small]
  simp only [List.cons_append, List.nil_append, readLiteral?,
    hexValue4?_hexDigits small]
  cases readLiteral? rest <;> rfl

theorem readLiteral?_unitEscapes
    {units : List Nat}
    (small : ∀ unit ∈ units, unit < 0x10000)
    (rest : List Char) :
    readLiteral? (units.flatMap unitEscape ++ rest) =
      (readLiteral? rest).map (units ++ ·) := by
  induction units with
  | nil =>
      simp
  | cons unit others ih =>
      have smallOthers : ∀ unit ∈ others, unit < 0x10000 :=
        fun unit member => small unit (List.mem_cons_of_mem _ member)
      rw [List.flatMap_cons, List.append_assoc,
        readLiteral?_unitEscape (small unit List.mem_cons_self),
        ih smallOthers, Option.map_map]
      rfl

/-- A backslash and a letter are read as what the letter stands for. -/
theorem readLiteral?_letter
    {letter character : Char}
    (escaped : escapedBy? letter = some character)
    (rest : List Char) :
    readLiteral? ('\\' :: letter :: rest) =
      (readLiteral? rest).map (character.toNat :: ·) := by
  have notUnit : letter ≠ 'u' := by
    rintro rfl
    simp [escapedBy?] at escaped
  cases read : readLiteral? rest <;>
    simp [readLiteral?, notUnit, escaped, read]

theorem escapedBy?_controlLetter?
    {character letter : Char}
    (control : controlLetter? character = some letter) :
    escapedBy? letter = some character ∧ character.toNat < 0x10000 := by
  unfold controlLetter? at control
  split at control <;> cases control <;> decide

/-- A character that is not escaped is read as itself. -/
theorem readLiteral?_plain
    {character : Char}
    (notQuote : character ≠ '"')
    (notBackslash : character ≠ '\\')
    (rest : List Char) :
    readLiteral? (character :: rest) =
      (readLiteral? rest).map (character.toNat :: ·) := by
  cases read : readLiteral? rest <;>
    simp [readLiteral?, notQuote, notBackslash, read]

/-- What one character is written as is read as its units. -/
theorem readLiteral?_literalChar
    (character : Char) (rest : List Char) :
    readLiteral? (literalChar character ++ rest) =
      (readLiteral? rest).map (utf16Units character ++ ·) := by
  unfold literalChar
  split
  · next special =>
    have escaped : escapedBy? character = some character := by
      rcases special with rfl | rfl <;> rfl
    have basic : character.toNat < 0x10000 := by
      rcases special with rfl | rfl <;> decide
    rw [utf16Units_basic basic]
    exact readLiteral?_letter escaped rest
  · next ordinary =>
    rcases not_or.mp ordinary with ⟨notQuote, notBackslash⟩
    split
    · next letter control =>
      rcases escapedBy?_controlLetter? control with ⟨escaped, basic⟩
      rw [utf16Units_basic basic]
      exact readLiteral?_letter escaped rest
    · split
      · next shown =>
        rw [utf16Units_basic (by omega)]
        exact readLiteral?_plain notQuote notBackslash rest
      · exact readLiteral?_unitEscapes (fun unit member => unit_lt member) rest

/-! ## Whole literals -/

theorem readLiteral?_literalChars
    (characters : List Char) :
    readLiteral? (characters.flatMap literalChar ++ ['"']) =
      some (characters.flatMap utf16Units) := by
  induction characters with
  | nil =>
      rfl
  | cons character others ih =>
      rw [List.flatMap_cons, List.append_assoc,
        readLiteral?_literalChar, ih]
      rfl

/-- A literal is read as the UTF-16 units of the text that it was made from. -/
theorem literalCodes?_literal (text : String) :
    literalCodes? (literal text).toList =
      some (text.toList.flatMap utf16Units) := by
  have characters : (literal text).toList =
      '"' :: (text.toList.flatMap literalChar ++ ['"']) := by
    simp [literal, literalOf]
  rw [characters]
  exact readLiteral?_literalChars text.toList

/-- The units of a text are its code points only in the basic plane. -/
theorem flatMap_utf16Units_eq_iff
    (characters : List Char) :
    characters.flatMap utf16Units = characters.map Char.toNat ↔
      ∀ character ∈ characters, character.toNat < 0x10000 := by
  induction characters with
  | nil =>
      simp
  | cons character others ih =>
      rw [List.flatMap_cons, List.map_cons, List.forall_mem_cons]
      by_cases basic : character.toNat < 0x10000
      · rw [utf16Units_basic basic, List.singleton_append,
          List.cons.injEq, ih]
        simp [basic]
      · constructor
        · intro same
          -- The first half of a pair is no more than `0xDBFF`.
          simp only [utf16Units, basic, if_false, List.cons_append,
            List.cons.injEq] at same
          have firstHalf := same.1
          have bound := isCharacter_toNat character
          simp only [isCharacter, Bool.or_eq_true, Bool.and_eq_true,
            decide_eq_true_eq] at bound
          omega
        · rintro ⟨small, -⟩
          exact absurd small basic

/-! ## Literals of locales -/

theorem localeLiteral_text
    {locale : String}
    (configured : locale ≠ noLocale) :
    localeLiteral (.text locale) = literal locale := by
  simp [localeLiteral, configured]

/--
The literal of a configured locale is read as the locale's UTF-16 units, and
so it is read as the locale itself exactly if no character of the locale lies
beyond the basic plane.
-/
theorem read_localeLiteral
    (locale : String)
    (configured : locale ≠ noLocale) :
    literalCodes? (localeLiteral (.text locale)).toList =
        some (locale.toList.flatMap utf16Units) ∧
      (literalCodes? (localeLiteral (.text locale)).toList =
          some (codes locale) ↔
        ∀ character ∈ locale.toList, character.toNat < 0x10000) := by
  have read : literalCodes? (localeLiteral (.text locale)).toList =
      some (locale.toList.flatMap utf16Units) := by
    rw [localeLiteral_text configured]
    exact literalCodes?_literal locale
  refine ⟨read, ?_⟩
  rw [read, Option.some.injEq, codes]
  exact flatMap_utf16Units_eq_iff locale.toList

/-- A quote, a line feed and a letter beyond ASCII are read back as they were. -/
theorem read_localeLiteral_escaped :
    "\"é\n\x7f" ≠ noLocale ∧
      literalCodes? (localeLiteral (.text "\"é\n\x7f")).toList =
        some (codes "\"é\n\x7f") :=
  ⟨by decide,
    (read_localeLiteral "\"é\n\x7f" (by decide)).2.mpr (by simp)⟩

/-- A character beyond the basic plane is read back as the halves of a pair. -/
theorem read_localeLiteral_beyond :
    literalCodes? (localeLiteral (.text "😀")).toList =
        some [0xD83D, 0xDE00] ∧
      literalCodes? (localeLiteral (.text "😀")).toList ≠
        some (codes "😀") := by
  decide

end DateGetters.Proofs.LiteralReading
