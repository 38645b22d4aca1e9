import DateGetters.Proofs.GenerationOutcome

/-!
# Identifiers that are derived from names

A name is cut into runs of word characters by everything else, and its
identifier holds these runs in their order, each with its first character in
upper case.  So whatever separates two parts of a name keeps their identifiers
apart, and an identifier, which is a single run, is its own identifier.

The characters of an identifier can stand anywhere in the name of a getter but at its
beginning.  A format with a proper front gives every column a name that can be
defined, whatever the column is called.
-/

namespace DateGetters.Proofs.DerivedIdentifiers

open DateGetters.Proofs.Placeholders
open DateGetters.Proofs.TextPieces

/-! ## Letters and digits by their code points -/

theorem isLower_iff (character : Char) :
    character.isLower = true ↔ 97 ≤ character.toNat ∧ character.toNat ≤ 122 := by
  change (decide (97 ≤ character.toNat) && decide (character.toNat ≤ 122)) = true ↔ _
  rw [Bool.and_eq_true, decide_eq_true_iff, decide_eq_true_iff]

theorem isWordChar_iff (character : Char) :
    isWordChar character = true ↔
      (65 ≤ character.toNat ∧ character.toNat ≤ 90 ∨
        97 ≤ character.toNat ∧ character.toNat ≤ 122) ∨
        48 ≤ character.toNat ∧ character.toNat ≤ 57 := by
  have upper : character.isUpper = true ↔ 65 ≤ character.toNat ∧ character.toNat ≤ 90 :=
    decide_eq_true_iff
  change ((character.isUpper || character.isLower) || character.isDigit) = true ↔ _
  rw [Bool.or_eq_true, Bool.or_eq_true, upper, isLower_iff, Char.isDigit_iff_toNat]
  rfl

theorem toUpper_of_not_isLower
    {character : Char}
    (notLower : character.isLower = false) :
    character.toUpper = character := by
  apply dif_neg
  rw [← Bool.not_eq_true, isLower_iff] at notLower
  exact notLower

theorem toNat_toUpper_of_isLower
    {character : Char}
    (lower : character.isLower = true) :
    character.toUpper.toNat = character.toNat - 32 := by
  rw [isLower_iff] at lower
  have shifted : character.toUpper.val = character.val + ('A'.val - 'a'.val) := by
    have upper : character.toUpper = ⟨character.val + ('A'.val - 'a'.val), _⟩ := dif_pos lower
    rw [upper]
  have backwards : ('A'.val - 'a'.val).toNat = 2 ^ 32 - 32 := rfl
  rw [← Char.toNat_val, shifted, UInt32.toNat_add, backwards, Char.toNat_val]
  omega

theorem isLower_toUpper (character : Char) : character.toUpper.isLower = false := by
  cases lower : character.isLower with
  | false =>
      rw [toUpper_of_not_isLower lower, lower]
  | true =>
      have shifted := toNat_toUpper_of_isLower lower
      rw [isLower_iff] at lower
      rw [← Bool.not_eq_true, isLower_iff]
      omega

theorem isWordChar_toUpper (character : Char) :
    isWordChar character.toUpper = isWordChar character := by
  cases lower : character.isLower with
  | false =>
      rw [toUpper_of_not_isLower lower]
  | true =>
      have shifted := toNat_toUpper_of_isLower lower
      rw [isLower_iff] at lower
      rw [Bool.eq_iff_iff, isWordChar_iff, isWordChar_iff]
      omega

/-! ## Runs of word characters -/

theorem isWordChar_of_isBlank
    {character : Char}
    (blank : Text.isBlank character = true) :
    isWordChar character = false := by
  rw [← Bool.not_eq_true, isWordChar_iff]
  simp only [Text.isBlank, Bool.or_eq_true, Bool.and_eq_true, decide_eq_true_eq, beq_iff_eq]
    at blank
  omega

section Runs

variable {fresh : Bool} {characters : List Char}

theorem isWordChar_of_mem_capitalizeRuns
    {character : Char}
    (member : character ∈ capitalizeRuns fresh characters) :
    isWordChar character = true := by
  induction characters generalizing fresh with
  | nil =>
      exact absurd member List.not_mem_nil
  | cons first others ih =>
      by_cases word : isWordChar first = true
      · rw [capitalizeRuns, if_pos word] at member
        rcases List.mem_cons.mp member with rfl | later
        · cases fresh with
          | true =>
              exact (isWordChar_toUpper first).trans word
          | false =>
              exact word
        · exact ih later
      · rw [capitalizeRuns, if_neg word] at member
        exact ih member

theorem capitalizeRuns_append_separator
    (fresh : Bool) (front : List Char)
    {separator : Char} (notWord : isWordChar separator = false)
    (back : List Char) :
    capitalizeRuns fresh (front ++ separator :: back) =
      capitalizeRuns fresh front ++ capitalizeRuns true back := by
  induction front generalizing fresh with
  | nil =>
      simp [capitalizeRuns, notWord]
  | cons first others ih =>
      by_cases word : isWordChar first = true
      · simp only [List.cons_append, capitalizeRuns, word, if_true, ih]
      · simp only [List.cons_append, capitalizeRuns, word, Bool.false_eq_true, if_false, ih]

theorem capitalizeRuns_separators_append
    {separators : List Char}
    (notWords : ∀ character ∈ separators, isWordChar character = false)
    (back : List Char) :
    capitalizeRuns true (separators ++ back) = capitalizeRuns true back := by
  induction separators with
  | nil =>
      rfl
  | cons first others ih =>
      rw [List.forall_mem_cons] at notWords
      rw [List.cons_append, capitalizeRuns, if_neg (by simp [notWords.1]), ih notWords.2]

/-- Separators keep the runs on their two sides apart. -/
theorem capitalizeRuns_append_separators
    (fresh : Bool) (front : List Char)
    {separators : List Char} (some : separators ≠ [])
    (notWords : ∀ character ∈ separators, isWordChar character = false)
    (back : List Char) :
    capitalizeRuns fresh (front ++ separators ++ back) =
      capitalizeRuns fresh front ++ capitalizeRuns true back := by
  cases separators with
  | nil =>
      exact absurd rfl some
  | cons first others =>
      rw [List.forall_mem_cons] at notWords
      rw [List.append_assoc, List.cons_append, capitalizeRuns_append_separator _ _ notWords.1,
        capitalizeRuns_separators_append notWords.2]

theorem capitalizeRuns_of_words
    (words : ∀ character ∈ characters, isWordChar character = true) :
    capitalizeRuns false characters = characters := by
  induction characters with
  | nil =>
      rfl
  | cons first others ih =>
      rw [List.forall_mem_cons] at words
      rw [capitalizeRuns, if_pos words.1, ih words.2]
      rfl

theorem isLower_of_mem_head?_capitalizeRuns
    {character : Char}
    (first : character ∈ (capitalizeRuns true characters).head?) :
    character.isLower = false := by
  induction characters with
  | nil =>
      cases first
  | cons next others ih =>
      by_cases word : isWordChar next = true
      · rw [capitalizeRuns, if_pos word, List.head?_cons, Option.mem_some_iff] at first
        rw [← first]
        exact isLower_toUpper next
      · rw [capitalizeRuns, if_neg word] at first
        exact ih first

theorem capitalizeRuns_capitalizeRuns (characters : List Char) :
    capitalizeRuns true (capitalizeRuns true characters) = capitalizeRuns true characters := by
  have words : ∀ character ∈ capitalizeRuns true characters, isWordChar character = true :=
    fun _ => isWordChar_of_mem_capitalizeRuns
  have noSmallFirst : ∀ character ∈ (capitalizeRuns true characters).head?,
      character.isLower = false :=
    fun _ => isLower_of_mem_head?_capitalizeRuns
  cases derived : capitalizeRuns true characters with
  | nil =>
      rfl
  | cons first others =>
      rw [derived] at words noSmallFirst
      rw [List.forall_mem_cons] at words
      have unchanged : first.toUpper = first :=
        toUpper_of_not_isLower (noSmallFirst first rfl)
      rw [capitalizeRuns, if_pos words.1, if_pos rfl, unchanged, capitalizeRuns_of_words words.2]

end Runs

/-! ## Runs as pieces of a name -/

/-- Characters with the first one in upper case. -/
def capitalized : List Char → List Char
  | [] => []
  | first :: others => first.toUpper :: others

/-- What stands between separators, the empty pieces between two of them included. -/
def piecesOf (characters : List Char) : List (List Char) :=
  characters.splitOnP fun character => !isWordChar character

/-- The runs of word characters, none of them empty. -/
def runs (characters : List Char) : List (List Char) :=
  (piecesOf characters).filter fun piece => !piece.isEmpty

theorem piecesOf_cons (first : Char) (others : List Char) :
    piecesOf (first :: others) =
      if isWordChar first then (piecesOf others).modifyHead (first :: ·)
      else [] :: piecesOf others := by
  rw [piecesOf, List.splitOnP_cons_eq_if_modifyHead]
  cases isWordChar first <;> rfl

theorem capitalizeRuns_of_pieces
    {characters : List Char} {first : List Char} {others : List (List Char)}
    (cut : piecesOf characters = first :: others)
    (fresh : Bool) :
    capitalizeRuns fresh characters =
      (if fresh then capitalized first else first) ++ others.flatMap capitalized := by
  -- `fresh` says whether the first piece begins a run; a separator stands before all others.
  induction characters generalizing fresh first others with
  | nil =>
      rw [piecesOf, List.splitOnP_nil, List.cons.injEq] at cut
      rcases cut with ⟨rfl, rfl⟩
      cases fresh <;> rfl
  | cons character rest ih =>
      rcases List.exists_cons_of_ne_nil (List.splitOnP_ne_nil _ rest) with ⟨next, more, cutRest⟩
      rw [piecesOf_cons, piecesOf, cutRest] at cut
      by_cases word : isWordChar character = true
      · rw [if_pos word, List.modifyHead_cons, List.cons.injEq] at cut
        rcases cut with ⟨rfl, rfl⟩
        rw [capitalizeRuns, if_pos word, ih cutRest false]
        cases fresh <;> rfl
      · rw [if_neg word, List.cons.injEq] at cut
        rcases cut with ⟨rfl, rfl⟩
        rw [capitalizeRuns, if_neg word, ih cutRest true]
        cases fresh <;> rfl

theorem flatMap_capitalized_filter (pieces : List (List Char)) :
    (pieces.filter fun piece => !piece.isEmpty).flatMap capitalized =
      pieces.flatMap capitalized := by
  induction pieces with
  | nil =>
      rfl
  | cons piece others ih =>
      cases piece with
      | nil =>
          simpa [capitalized] using ih
      | cons first rest =>
          simpa [capitalized] using ih

theorem capitalizeRuns_eq_runs (characters : List Char) :
    capitalizeRuns true characters = (runs characters).flatMap capitalized := by
  rcases List.exists_cons_of_ne_nil (List.splitOnP_ne_nil _ characters) with ⟨first, others, cut⟩
  rw [capitalizeRuns_of_pieces cut true, runs, flatMap_capitalized_filter, piecesOf, cut]
  rfl

/-- Blanks at the ends of a name belong to no run. -/
theorem capitalizeRuns_trimChars (characters : List Char) :
    capitalizeRuns true (Text.trimChars characters) = capitalizeRuns true characters := by
  rcases exists_padding characters with ⟨front, back, blankFront, blankBack, whole⟩
  have notWordsFront : ∀ character ∈ front, isWordChar character = false :=
    fun character member => isWordChar_of_isBlank (blankFront character member)
  have notWordsBack : ∀ character ∈ back, isWordChar character = false :=
    fun character member => isWordChar_of_isBlank (blankBack character member)
  generalize Text.trimChars characters = trimmed at whole ⊢
  rw [whole, List.append_assoc, capitalizeRuns_separators_append notWordsFront]
  by_cases none : back = []
  · rw [none, List.append_nil]
  · have apart := capitalizeRuns_append_separators true trimmed none notWordsBack []
    rw [List.append_nil] at apart
    rw [apart]
    exact (List.append_nil _).symm

/-! ## Places where a run begins -/

/-- Whether no word character stands in front of a place. -/
def beginsRun (characters : List Char) (place : Nat) : Bool :=
  place == 0 || !(characters[place - 1]?.any isWordChar)

theorem beginsRun_length (before rest : List Char) :
    beginsRun (before ++ rest) before.length = !(before.getLast?.any isWordChar) := by
  rcases List.eq_nil_or_concat' before with rfl | ⟨others, last, rfl⟩
  · rfl
  · simp [beginsRun]

/-- The word characters among some, with their places. -/
def placedWords (characters : List Char) (start : Nat) : List (Char × Nat) :=
  (characters.zipIdx start).filter fun entry => isWordChar entry.1

theorem placedWords_cons (first : Char) (others : List Char) (start : Nat) :
    placedWords (first :: others) start =
      if isWordChar first then (first, start) :: placedWords others (start + 1)
      else placedWords others (start + 1) := by
  rw [placedWords, List.zipIdx_cons, List.filter_cons]
  rfl

/-- A word character at a place, in upper case if it begins a run. -/
def recased (characters : List Char) (entry : Char × Nat) : Char :=
  if beginsRun characters entry.2 then entry.1.toUpper else entry.1

theorem capitalizeRuns_rest_eq_recased (before rest : List Char) :
    capitalizeRuns (!(before.getLast?.any isWordChar)) rest =
      (placedWords rest before.length).map (recased (before ++ rest)) := by
  -- What was passed decides whether a run begins, so it grows while the rest is taken apart.
  induction rest generalizing before with
  | nil =>
      rfl
  | cons first others ih =>
      have next := ih (before ++ [first])
      rw [List.getLast?_append_of_ne_nil _ (List.cons_ne_nil first []), List.getLast?_singleton,
        Option.any_some, List.append_assoc, List.singleton_append, List.length_append,
        List.length_singleton] at next
      have begins := beginsRun_length before (first :: others)
      by_cases word : isWordChar first = true
      · rw [word, Bool.not_true] at next
        rw [capitalizeRuns, if_pos word, next, placedWords_cons, if_pos word, List.map_cons,
          recased, begins]
      · have notWord : isWordChar first = false := by
          simpa using word
        rw [notWord, Bool.not_false] at next
        rw [capitalizeRuns, if_neg word, next, placedWords_cons, if_neg word]

/-! ## Identifiers -/

theorem toList_identifier (name : String) :
    (identifier name).toList = capitalizeRuns true name.toList := by
  rw [identifier, String.toList_ofList]

/-- How an identifier is derived from a name. -/
structure Derived (name : String) : Prop where
  /-- It is made of the runs of the name without the blanks at its ends, each capitalized. -/
  ofRuns : (identifier name).toList = (runs (Text.trim name).toList).flatMap capitalized
  /-- It is the word characters of the name in order, in upper case where a run begins. -/
  ofPlaces : (identifier name).toList =
    (placedWords name.toList 0).map (recased name.toList)
  words : ∀ character ∈ (identifier name).toList, character.isAlphanum = true
  first : ∀ character ∈ (identifier name).toList.head?, character.isLower = false
  idempotent : identifier (identifier name) = identifier name

theorem derived_identifier (name : String) : Derived name where
  ofRuns := by
    rw [toList_identifier, Text.toList_trim, ← capitalizeRuns_eq_runs, capitalizeRuns_trimChars]
  ofPlaces := by
    rw [toList_identifier]
    exact capitalizeRuns_rest_eq_recased [] name.toList
  words := by
    intro character member
    rw [toList_identifier] at member
    exact isWordChar_of_mem_capitalizeRuns member
  first := by
    intro character member
    rw [toList_identifier] at member
    exact isLower_of_mem_head?_capitalizeRuns member
  idempotent := by
    rw [← String.toList_inj, toList_identifier, toList_identifier, capitalizeRuns_capitalizeRuns]

/-- What separates two parts of a name keeps their identifiers apart. -/
theorem identifier_append
    (front : String) {separator : String} (back : String)
    (nonempty : separator ≠ "")
    (notWords : ∀ character ∈ separator.toList, character.isAlphanum = false) :
    identifier (front ++ separator ++ back) = identifier front ++ identifier back := by
  have some : separator.toList ≠ [] := by
    simpa using nonempty
  rw [← String.toList_inj, toList_identifier, String.toList_append, String.toList_append,
    String.toList_append, toList_identifier, toList_identifier]
  exact capitalizeRuns_append_separators true _ some notWords _

/-! ## Names of getters -/

def beginsName (character : Char) : Bool :=
  character.isAlpha || character == '_'

def standsInName (character : Char) : Bool :=
  character.isAlphanum || character == '_'

def IsName (text : String) : Prop :=
  ∃ first others, text.toList = first :: others ∧ beginsName first = true ∧
    ∀ character ∈ others, standsInName character = true

theorem IsName.append
    {front back : String}
    (name : IsName front)
    (stands : ∀ character ∈ back.toList, standsInName character = true) :
    IsName (front ++ back) := by
  rcases name with ⟨first, others, characters, begins, standOthers⟩
  refine ⟨first, others ++ back.toList, ?_, begins, ?_⟩
  · rw [String.toList_append, characters, List.cons_append]
  · exact List.forall_mem_append.mpr ⟨standOthers, stands⟩

theorem standsInName_of_mem_identifier
    {name : String} {character : Char}
    (member : character ∈ (identifier name).toList) :
    standsInName character = true := by
  rw [standsInName, (derived_identifier name).words character member, Bool.true_or]

theorem IsName.percent_not_mem
    {text : String}
    (name : IsName text) :
    '%' ∉ text.toList := by
  rcases name with ⟨first, others, characters, begins, stand⟩
  rw [characters, List.mem_cons, not_or]
  constructor
  · rintro rfl
    exact absurd begins (by decide)
  · intro member
    exact absurd (stand '%' member) (by decide)

/-- No placeholder begins in characters without the sign that it begins with. -/
theorem occurrences_append
    {front : List Char}
    (free : '%' ∉ front)
    (rest : List Char) :
    NameFormat.occurrences (front ++ rest) = NameFormat.occurrences rest := by
  induction front with
  | nil =>
      rfl
  | cons first others ih =>
      rw [List.mem_cons, not_or] at free
      rw [List.cons_append, NameFormat.occurrences, ih free.2]
      intro back percent
      exact (free.1 percent.symm).elim

theorem occurrences_of_free
    {front back : String}
    (frontFree : '%' ∉ front.toList)
    (backFree : '%' ∉ back.toList) :
    NameFormat.occurrences (front ++ "%s" ++ back).toList = 1 := by
  have none := occurrences_append backFree []
  rw [List.append_nil] at none
  rw [String.toList_append, String.toList_append, List.append_assoc, occurrences_append frontFree]
  exact congrArg (· + 1) none

/-- A format gives a column's getter a name that can be defined. -/
def GivesName (format : String) (column : Column) : Prop :=
  ∃ method, NameFormat.methodName (.text format) column.identifier = .ok method ∧ IsName method

/-- How columns without identifiers of their own get the names of their getters by a format. -/
structure Naming (format : String) : Prop where
  derived : ∀ name, Derived name
  separated : ∀ front separator back : String,
    separator ≠ "" → (∀ character ∈ separator.toList, character.isAlphanum = false) →
      identifier (front ++ separator ++ back) = identifier front ++ identifier back
  valid : NameFormat.validate (.text format) = .ok ()
  assembled : ∀ (name : String) (declaredType given : Value), given.isTruthy = false →
    ∃ column, Column.make (.text name) declaredType given = .ok column ∧ GivesName format column
  mapped : ∀ {τ : Type} (compile : τ → Compiled) (column : TypedColumn τ),
    GivesName format (column.keyed compile).toColumn

theorem occurrences_of_names
    {front back : String}
    (frontName : IsName front)
    (backStands : ∀ character ∈ back.toList, standsInName character = true) :
    NameFormat.occurrences (front ++ "%s" ++ back).toList = 1 := by
  apply occurrences_of_free frontName.percent_not_mem
  intro member
  exact absurd (backStands '%' member) (by decide)

theorem givesName_of_identifier
    {front back : String}
    (frontName : IsName front)
    (backStands : ∀ character ∈ back.toList, standsInName character = true)
    (name : String) (columnName declaredType : Value) :
    GivesName (front ++ "%s" ++ back) ⟨columnName, declaredType, .text (identifier name)⟩ := by
  refine ⟨_, NameFormat.methodName_text _ _, ?_⟩
  rw [fill_of_frame (occurrences_of_names frontName backStands)]
  exact (frontName.append fun _ => standsInName_of_mem_identifier).append backStands

/--
An identifier is derived from a name by capitalizing its runs of word
characters.  Where a format has nothing but characters of names around its
placeholder, and can begin a name, every column without an identifier of its
own gets a getter with a proper name, whatever the column is called.
-/
theorem naming_of_frame
    {front back : String}
    (frontName : IsName front)
    (backStands : ∀ character ∈ back.toList, standsInName character = true) :
    Naming (front ++ "%s" ++ back) where
  derived := derived_identifier
  separated := fun first _ second => identifier_append first second
  valid := by
    rw [GenerationOutcome.validate_text, if_pos (occurrences_of_names frontName backStands)]
  assembled := by
    intro name declaredType given silent
    refine ⟨⟨.text name, declaredType, .text (identifier name)⟩, ?_,
      givesName_of_identifier frontName backStands name _ _⟩
    simp [Column.make, silent, Except.map]
  mapped := by
    intro τ compile column
    exact givesName_of_identifier frontName backStands column.knownAs _ _

/-- A format in use, with a name whose letters are not all word characters. -/
theorem naming_of_frame_umlauts :
    IsName "get" ∧
      (∀ character ∈ "UsingLocale".toList, standsInName character = true) ∧
      Naming ("get" ++ "%s" ++ "UsingLocale") ∧
      identifier ("größe" ++ " – " ++ "2nd_try") = "GrE" ++ "2ndTry" := by
  have frontName : IsName "get" :=
    ⟨'g', ['e', 't'], rfl, by decide, List.all_eq_true.mp (by decide)⟩
  have backStands : ∀ character ∈ "UsingLocale".toList, standsInName character = true :=
    List.all_eq_true.mp (by decide +kernel)
  have dash : ∀ character ∈ " – ".toList, character.isAlphanum = false := by
    simp
  have naming := naming_of_frame frontName backStands
  have parts := naming.separated "größe" " – " "2nd_try" (by decide) dash
  exact ⟨frontName, backStands, naming, parts.trans (by decide +kernel)⟩

end DateGetters.Proofs.DerivedIdentifiers
