import DateGetters.Proofs.LiteralParts
import DateGetters.Proofs.LiteralReading

/-!
# Literals end where they are meant to

A scan of a literal from its second character, in which every backslash consumes
the character behind it, meets escapes and then the closing quote.  It meets no
quote in front of that one, whatever the literal was made from and whatever
follows it, so no locale ends the literal early or puts anything behind it.

Since a literal is read as the UTF-16 units of its text, and these determine the
text, different locales have different literals.
-/

namespace DateGetters.Proofs.LiteralConfinement

open DateGetters.Proofs.LiteralParts
open DateGetters.Proofs.LiteralReading
open DateGetters.Text

/-! ## Scanning -/

/-- What a scan stops at, with the characters behind it. -/
inductive Landmark where
  /-- A double quote that no backslash has consumed. -/
  | quote (behind : List Char)
  /-- A backslash that no backslash has consumed. -/
  | escape (behind : List Char)

/-- What a scan meets in which every backslash consumes the character behind it. -/
def landmarks : List Char → List Landmark
  | [] => []
  | ['\\'] => [.escape []]
  | '\\' :: consumed :: rest => .escape (consumed :: rest) :: landmarks rest
  | '"' :: rest => .quote rest :: landmarks rest
  | _ :: rest => landmarks rest

/-- A backslash with an escape of one letter behind it, or with that of a unit. -/
inductive IsEscape : Landmark → Prop where
  | letter {letter : Char} {rest : List Char}
      (known : letter ∈ escapeLetters) :
      IsEscape (.escape (letter :: rest))
  | unit {digits rest : List Char}
      (four : digits.length = 4)
      (hexadecimal : ∀ digit ∈ digits, IsHexadecimal digit) :
      IsEscape (.escape ('u' :: digits ++ rest))

theorem landmarks_plain
    {character : Char}
    (notQuote : character ≠ '"')
    (notBackslash : character ≠ '\\')
    (rest : List Char) :
    landmarks (character :: rest) = landmarks rest := by
  simp [landmarks, notBackslash]

theorem landmarks_digits
    {digits : List Char}
    (hexadecimal : ∀ digit ∈ digits, IsHexadecimal digit)
    (rest : List Char) :
    landmarks (digits ++ rest) = landmarks rest := by
  induction digits with
  | nil =>
      rfl
  | cons digit others ih =>
      rw [List.forall_mem_cons] at hexadecimal
      have notQuote : digit ≠ '"' := by
        rintro rfl
        exact absurd hexadecimal.1 (by decide)
      have notBackslash : digit ≠ '\\' := by
        rintro rfl
        exact absurd hexadecimal.1 (by decide)
      rw [List.cons_append, landmarks_plain notQuote notBackslash, ih hexadecimal.2]

/-- A scan goes through a part of a literal and meets an escape at most. -/
theorem exists_landmarks_part
    {part : List Char}
    (written : LiteralPart part)
    (rest : List Char) :
    ∃ escapes, landmarks (part ++ rest) = escapes ++ landmarks rest ∧
      ∀ landmark ∈ escapes, IsEscape landmark := by
  cases written with
  | plain _ notQuote notBackslash =>
      refine ⟨[], ?_, by simp⟩
      exact landmarks_plain notQuote notBackslash rest
  | @letter letter known =>
      refine ⟨[.escape (letter :: rest)], rfl, ?_⟩
      exact List.forall_mem_singleton.mpr (.letter known)
  | @unit digits four hexadecimal =>
      refine ⟨[.escape ('u' :: digits ++ rest)], ?_, ?_⟩
      · rw [List.singleton_append, ← landmarks_digits hexadecimal rest]
        rfl
      · exact List.forall_mem_singleton.mpr (.unit four hexadecimal)

theorem exists_landmarks_parts
    {parts : List (List Char)}
    (written : ∀ part ∈ parts, LiteralPart part)
    (rest : List Char) :
    ∃ escapes, landmarks (parts.flatten ++ rest) = escapes ++ landmarks rest ∧
      ∀ landmark ∈ escapes, IsEscape landmark := by
  induction parts with
  | nil =>
      exact ⟨[], rfl, by simp⟩
  | cons part others ih =>
      rw [List.forall_mem_cons] at written
      rcases ih written.2 with ⟨later, scannedOthers, laterEscapes⟩
      rcases exists_landmarks_part written.1 (others.flatten ++ rest) with
        ⟨first, scanned, firstEscapes⟩
      refine ⟨first ++ later, ?_, ?_⟩
      · rw [List.flatten_cons, List.append_assoc, scanned, scannedOthers, List.append_assoc]
      · exact List.forall_mem_append.mpr ⟨firstEscapes, laterEscapes⟩

/-! ## Different texts -/

theorem utf16Units_append_inj
    {first second : Char} {rest more : List Nat}
    (same : utf16Units first ++ rest = utf16Units second ++ more) :
    first = second ∧ rest = more := by
  have firstBound := isCharacter_toNat first
  have secondBound := isCharacter_toNat second
  simp only [isCharacter, Bool.or_eq_true, Bool.and_eq_true, decide_eq_true_eq]
    at firstBound secondBound
  by_cases firstBasic : first.toNat < 0x10000
  · by_cases secondBasic : second.toNat < 0x10000
    · rw [utf16Units_basic firstBasic, utf16Units_basic secondBasic] at same
      simp only [List.singleton_append, List.cons.injEq] at same
      exact ⟨Char.toNat_inj.mp same.1, same.2⟩
    · -- No character is written as the first half of a pair.
      simp only [utf16Units, firstBasic, secondBasic, if_true, if_false, List.cons_append,
        List.cons.injEq] at same
      omega
  · by_cases secondBasic : second.toNat < 0x10000
    · simp only [utf16Units, firstBasic, secondBasic, if_true, if_false, List.cons_append,
        List.cons.injEq] at same
      omega
    · simp only [utf16Units, firstBasic, secondBasic, if_false, List.cons_append,
        List.nil_append, List.cons.injEq] at same
      refine ⟨Char.toNat_inj.mp ?_, same.2.2⟩
      omega

theorem utf16Units_ne_nil (character : Char) : utf16Units character ≠ [] := by
  by_cases basic : character.toNat < 0x10000 <;> simp [utf16Units, basic]

/-- The units of a text determine the text. -/
theorem flatMap_utf16Units_injective :
    Function.Injective fun characters : List Char => characters.flatMap utf16Units := by
  intro characters others same
  induction characters generalizing others with
  | nil =>
      cases others with
      | nil =>
          rfl
      | cons second more =>
          simp [utf16Units_ne_nil] at same
  | cons first rest ih =>
      cases others with
      | nil =>
          simp [utf16Units_ne_nil] at same
      | cons second more =>
          simp only [List.flatMap_cons] at same
          rcases utf16Units_append_inj same with ⟨rfl, sameRest⟩
          rw [ih sameRest]

/-- Different texts have different literals. -/
theorem literal_injective : Function.Injective literal := by
  intro first second same
  have read := literalCodes?_literal first
  rw [same, literalCodes?_literal, Option.some.injEq] at read
  exact String.toList_injective (flatMap_utf16Units_injective read.symm)

/-! ## Literals of locales -/

/-- A token in plain ASCII between two quotes, of which only the second closes it. -/
structure Confined (token : String) : Prop where
  printable : ∀ character ∈ token.toList, IsPrintable character
  opening : token.toList.head? = some '"'
  closing : token.toList.getLast? = some '"'
  /-- Whatever follows the token, the closing quote is the first that a scan meets, and all that it
  meets in front of it are escapes. -/
  scanned :
    ∀ following, ∃ escapes,
      landmarks (token.toList.tail ++ following) =
          escapes ++ .quote following :: landmarks following ∧
        ∀ landmark ∈ escapes, IsEscape landmark

theorem confined_literal (text : String) : Confined (literal text) where
  printable character member := isPrintable_of_mem_literal member
  opening := by
    rw [literal, String.toList_ofList]
    rfl
  closing := by
    rw [literal, String.toList_ofList, literalOf]
    exact List.getLast?_concat
  scanned following := by
    rcases exists_parts_literalChars text.toList with ⟨parts, written, made⟩
    rcases exists_landmarks_parts made ('"' :: following) with ⟨escapes, scanned, allEscapes⟩
    refine ⟨escapes, ?_, allEscapes⟩
    rw [literal, String.toList_ofList, literalOf, List.cons_append, List.tail_cons,
      List.append_assoc, List.singleton_append, written, scanned]
    rfl

/--
The literal of a configured locale is confined to its quotes, it is the literal
of no other locale, and it is not what stands for no locale.
-/
theorem confined_localeLiteral
    (locale : String)
    (configured : locale ≠ noLocale) :
    Confined (localeLiteral (.text locale)) ∧
      (∀ other, other ≠ noLocale →
        localeLiteral (.text other) = localeLiteral (.text locale) → other = locale) ∧
      localeLiteral (.text locale) ≠ "None" ∧
      localeLiteral .null = "None" ∧
      localeLiteral (.text noLocale) = "None" := by
  rw [localeLiteral_text configured]
  have confined := confined_literal locale
  refine ⟨confined, ?_, ?_, rfl, rfl⟩
  · intro other otherConfigured same
    rw [localeLiteral_text otherConfigured] at same
    exact literal_injective same
  · intro same
    have opening := confined.opening
    rw [same] at opening
    exact absurd opening (by decide)

/-- A locale that tries to close its literal and go on behind it. -/
def breakingOut : String :=
  "\\\"):\n    pass #😀\\u0022"

/-- The literal of such a locale closes where the line is meant to go on. -/
theorem confined_localeLiteral_breakingOut :
    breakingOut ≠ noLocale ∧
      Confined (localeLiteral (.text breakingOut)) ∧
      localeLiteral (.text breakingOut) ≠ "None" := by
  have configured : breakingOut ≠ noLocale := by
    decide
  rcases confined_localeLiteral breakingOut configured with ⟨confined, -, notNull, -⟩
  exact ⟨configured, confined, notNull⟩

end DateGetters.Proofs.LiteralConfinement
