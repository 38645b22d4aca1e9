import DateGetters.Proofs.ConfigurationRuns
import DateGetters.Proofs.OptionReading

/-!
# Options in normal form

Options that are read from a mapping are in normal form: texts, a list of
columns in a text or none, and a flag.  A mapping can be read if and only if the
three options that become texts can be written as texts.  What it is read as is
determined by the entries of the four options that are not null; their order and
all other entries have no influence.

A mapping of the four fields of options in normal form is read as these options
again.  So it makes no difference for generation whether it is given a mapping,
the options that it is read as, or the mapping of their fields.
-/

namespace DateGetters.Proofs.OptionNormalForm

open DateGetters.Options
open DateGetters.Proofs.ConfigurationRuns
open DateGetters.Proofs.EntryLookup
open DateGetters.Proofs.GenerationOutcome
open DateGetters.Proofs.OptionReading
open DateGetters.Proofs.Outcomes

/-- The names of the options that are read as texts. -/
def textKeys : List String := [columnsKey, nameFormatKey, defaultLocaleKey]

/-- The names of the four options. -/
def optionKeys : List String := useLocaleKey :: textKeys

/-- Entries whose texts can be written: they hold no integer that is too long for that. -/
def Writable (entries : Entries) : Prop :=
  ∀ key ∈ textKeys, ∀ value, (.text key, value) ∈ entries → value.isWritable = true

/-- Entries that are the same for the four options, but for those of null. -/
def SameOptions (entries others : Entries) : Prop :=
  ∀ key ∈ optionKeys, ∀ value, value ≠ .null →
    ((.text key, value) ∈ entries ↔ (.text key, value) ∈ others)

/-- What is said of the options that a mapping is read as. -/
structure NormalForm (entries : Entries) (options : Options) : Prop where
  normal : Normal options
  /-- Nothing but the four options that are not null matters. -/
  independent :
    ∀ others, Distinct others → SameOptions entries others →
      ofValue (.map others) = .ok options
  readAgain : ofValue (.map options.toEntries) = .ok options
  sameRun :
    ∀ (σ : Type) [Schema σ] (table : σ),
      generateWith table (.map entries) = generate table options ∧
        generateWith table (.map options.toEntries) = generate table options

theorem ofValue_map (entries : Entries) : ofValue (.map entries) = ofEntries entries := by
  cases entries with
  | nil =>
      rfl
  | cons entry others =>
      have someEntry : (Value.map (entry :: others)).isTruthy = true := rfl
      rw [ofValue, if_pos someEntry]

/-! ## What is given for an option -/

theorem nonNull_of_ne
    {value : Value} (notNull : value ≠ .null) :
    nonNull value = some value := by
  cases value with
  | null =>
      exact absurd rfl notNull
  | _ =>
      rfl

theorem nonNull_eq_some_iff (value other : Value) :
    nonNull value = some other ↔ other ≠ .null ∧ value = other := by
  by_cases null : value = .null
  · simp only [null, nonNull, reduceCtorEq, false_iff, not_and]
    rintro other rfl
    exact other rfl
  · rw [nonNull_of_ne null, Option.some.injEq]
    constructor
    · rintro rfl
      exact ⟨null, rfl⟩
    · exact And.right

theorem given?_eq_some_iff
    {entries : Entries} (distinct : Distinct entries) (key : String) (value : Value) :
    given? entries key = some value ↔ value ≠ .null ∧ (.text key, value) ∈ entries := by
  rw [given?_eq, Option.bind_eq_some_iff]
  simp only [nonNull_eq_some_iff, find?_eq_some_iff distinct]
  constructor
  · rintro ⟨_, member, notNull, rfl⟩
    exact ⟨notNull, member⟩
  · rintro ⟨notNull, member⟩
    exact ⟨value, member, notNull, rfl⟩

theorem given?_of_same
    {entries others : Entries} (distinct : Distinct entries) (distinctOthers : Distinct others)
    (same : SameOptions entries others)
    {key : String} (member : key ∈ optionKeys) :
    given? entries key = given? others key := by
  ext value
  rw [given?_eq_some_iff distinct, given?_eq_some_iff distinctOthers]
  exact and_congr_right fun notNull => same key member value notNull

theorem ofEntries_of_same
    {entries others : Entries} (distinct : Distinct entries) (distinctOthers : Distinct others)
    (same : SameOptions entries others) :
    ofEntries entries = ofEntries others := by
  have sameAt (key : String) (member : key ∈ optionKeys) :
      given? entries key = given? others key :=
    given?_of_same distinct distinctOthers same member
  rw [ofEntries, ofEntries, sameAt columnsKey (by decide), sameAt nameFormatKey (by decide),
    sameAt defaultLocaleKey (by decide), sameAt useLocaleKey (by decide)]

/-! ## Which mappings can be read -/

theorem exists_toText?_iff (value : Value) :
    (∃ content, value.toText? = .ok content) ↔ value.isWritable = true := by
  rw [Value.toText?]
  by_cases writable : value.isWritable = true
  · rw [if_pos writable]
    exact ⟨fun _ => writable, fun _ => ⟨_, rfl⟩⟩
  · rw [if_neg writable]
    constructor
    · rintro ⟨content, failed⟩
      cases failed
    · intro isWritable
      exact absurd isWritable writable

theorem exists_toTexts?_iff (values : List Value) :
    (∃ texts, toTexts? values = .ok texts) ↔ Value.areWritable values = true := by
  induction values with
  | nil =>
      exact ⟨fun _ => rfl, fun _ => ⟨[], rfl⟩⟩
  | cons value others ih =>
      rw [Value.areWritable, Bool.and_eq_true, ← exists_toText?_iff, ← ih]
      simp only [toTexts?, bind_eq_ok_iff]
      constructor
      · rintro ⟨_, first, written, rest, writtenOthers, _⟩
        exact ⟨⟨first, written⟩, ⟨rest, writtenOthers⟩⟩
      · rintro ⟨⟨first, written⟩, ⟨rest, writtenOthers⟩⟩
        exact ⟨first :: rest, first, written, rest, writtenOthers, rfl⟩

theorem exists_columnsText?_iff (value : Value) :
    (∃ content, columnsText? value = .ok content) ↔ value.isWritable = true := by
  have joined (values : List Value) :
      (∃ content, (toTexts? values).map (", ".intercalate ·) = .ok content) ↔
        Value.areWritable values = true := by
    rw [← exists_toTexts?_iff, exists_map_eq_ok_iff]
  cases value with
  | list items =>
      rw [columnsText?, joined, Value.isWritable]
  | pair first second =>
      rw [columnsText?, joined, Value.isWritable, Value.areWritable, Value.areWritable,
        Value.areWritable, Bool.and_true]
  | _ =>
      exact exists_toText?_iff _

theorem exists_columnsValue?_iff (value : Value) :
    (∃ columns, columnsValue? value = .ok columns) ↔ value.isWritable = true := by
  rw [columnsValue?, exists_map_eq_ok_iff, exists_columnsText?_iff]

theorem exists_readOr_iff
    {entries : Entries} (distinct : Distinct entries) (key : String) (builtin : Value)
    {read : Value → Outcome Value}
    (readable : ∀ value, (∃ content, read value = .ok content) ↔ value.isWritable = true) :
    (∃ value, readOr builtin read (given? entries key) = .ok value) ↔
      ∀ value, (.text key, value) ∈ entries → value.isWritable = true := by
  have nullWritable : Value.null.isWritable = true := by
    simp [Value.isWritable]
  have asGiven : (∀ value, (.text key, value) ∈ entries → value.isWritable = true) ↔
      ∀ value, given? entries key = some value → value.isWritable = true := by
    simp only [given?_eq_some_iff distinct]
    constructor
    · rintro writable value ⟨-, member⟩
      exact writable value member
    · intro writable value member
      by_cases null : value = .null
      · rw [null, nullWritable]
      · exact writable value ⟨null, member⟩
  rw [asGiven]
  cases given? entries key with
  | none =>
      constructor
      · intro _ value absent
        cases absent
      · intro _
        exact ⟨builtin, rfl⟩
  | some value =>
      simp only [readOr, Option.some.injEq, forall_eq', readable]

/-- Reading fails only if something that is to become a text cannot be written. -/
theorem exists_ofEntries_iff
    {entries : Entries} (distinct : Distinct entries) :
    (∃ options, ofEntries entries = .ok options) ↔ Writable entries := by
  have eachText : Writable entries ↔
      (∃ columns, readOr builtin.columns columnsValue? (given? entries columnsKey) =
          .ok columns) ∧
        (∃ format, readOr builtin.nameFormat Value.textValue? (given? entries nameFormatKey) =
          .ok format) ∧
        ∃ locale,
          readOr builtin.defaultLocale Value.textValue? (given? entries defaultLocaleKey) =
            .ok locale := by
    rw [exists_readOr_iff distinct _ _ exists_columnsValue?_iff,
      exists_readOr_iff distinct _ _ exists_textValue?_iff,
      exists_readOr_iff distinct _ _ exists_textValue?_iff]
    simp only [Writable, textKeys, List.forall_mem_cons, List.not_mem_nil, false_implies,
      implies_true, and_true]
  rw [eachText]
  simp only [ofEntries, bind_eq_ok_iff]
  constructor
  · rintro ⟨_, columns, readColumns, format, readFormat, locale, readLocale, _⟩
    exact ⟨⟨columns, readColumns⟩, ⟨format, readFormat⟩, ⟨locale, readLocale⟩⟩
  · rintro ⟨⟨columns, readColumns⟩, ⟨format, readFormat⟩, ⟨locale, readLocale⟩⟩
    exact ⟨_, columns, readColumns, format, readFormat, locale, readLocale, rfl⟩

/-! ## Reading once and again -/

theorem given?_toEntries (options : Options) :
    given? options.toEntries nameFormatKey = nonNull options.nameFormat ∧
      given? options.toEntries columnsKey = nonNull options.columns ∧
      given? options.toEntries useLocaleKey = nonNull options.useLocale ∧
      given? options.toEntries defaultLocaleKey = nonNull options.defaultLocale := by
  simp [given?_eq, toEntries, Entries.find?, nameFormatKey, columnsKey, useLocaleKey,
    defaultLocaleKey]

theorem readOr_of_shows
    (builtin : Value) {value : Value} {content : String} (shows : Shows value content) :
    readOr builtin Value.textValue? (nonNull value) = .ok value := by
  cases shows with
  | text _ =>
      exact Value.textValue?_text _
  | broken _ =>
      rfl

theorem readOr_listed (names : Option String) :
    readOr builtin.columns columnsValue? (nonNull (listed names)) = .ok (listed names) := by
  cases names with
  | none =>
      rfl
  | some names =>
      have asText : columnsText? (.text names) = .ok names :=
        Value.toText?_text names
      rw [listed, nonNull_of_ne (by simp), readOr, columnsValue?, asText]
      rfl

/-- The fields of options in normal form are read as these options. -/
theorem ofEntries_toEntries
    {options : Options} (normal : Normal options) :
    ofEntries options.toEntries = .ok options := by
  rcases given?_toEntries options with ⟨nameFormat, columns, useLocale, defaultLocale⟩
  rw [ofEntries, nameFormat, columns, useLocale, defaultLocale]
  cases normal with
  | texts formatShows localeShows names flag =>
      simp only [readOr_listed, readOr_of_shows _ formatShows, readOr_of_shows _ localeShows,
        ok_bind]
      rfl

/-- Options that were read are in normal form. -/
theorem normalForm_of_ofEntries
    {entries : Entries} (distinct : Distinct entries)
    {options : Options} (read : ofEntries entries = .ok options) :
    NormalForm entries options := by
  have normal := normal_of_ofEntries read
  have readFields : ofValue (.map options.toEntries) = .ok options := by
    rw [ofValue_map, ofEntries_toEntries normal]
  rw [← ofValue_map] at read
  constructor
  case normal =>
    exact normal
  case independent =>
    intro others distinctOthers same
    rw [ofValue_map, ← ofEntries_of_same distinct distinctOthers same, ← ofValue_map, read]
  case readAgain =>
    exact readFields
  case sameRun =>
    intro σ _ table
    exact ⟨generateWith_of_ofValue table read, generateWith_of_ofValue table readFields⟩

/--
A mapping is read as options in normal form if and only if its texts can be
written, and what it is read as does not change when it is read again.
-/
theorem ofValue_normalForm
    (entries : Entries) (distinct : Distinct entries) :
    ((∃ options, ofValue (.map entries) = .ok options) ↔ Writable entries) ∧
      ∀ options, ofValue (.map entries) = .ok options → NormalForm entries options := by
  rw [ofValue_map]
  constructor
  · exact exists_ofEntries_iff distinct
  · intro options read
    exact normalForm_of_ofEntries distinct read

/-- Options of many kinds, one of them null, between entries that are no options. -/
def looseEntries : Entries :=
  [(.integer 7, .text "seven"), (.text "columns", .list [.text "made_on", .integer 3, .null]),
    (.text "default_locale", .null), (.text "colour", .list []),
    (.text "use_intl", .list []), (.text "function_name_format", .decimal 0.5)]

/-- The same options in another order, without the null and without the entries that are none. -/
def strictEntries : Entries :=
  [(.text "function_name_format", .decimal 0.5), (.text "use_intl", .list []),
    (.text "columns", .list [.text "made_on", .integer 3, .null])]

theorem distinct_looseEntries : Distinct looseEntries := by
  simp [Distinct, looseEntries, Value.same, Value.sameScalar, Value.wholeNumber?]

theorem distinct_strictEntries : Distinct strictEntries := by
  simp [Distinct, strictEntries]

theorem writable_looseEntries : Writable looseEntries := by
  have everyEntry : ∀ entry ∈ looseEntries, entry.2.isWritable = true := by
    decide +kernel
  intro key _ value member
  exact everyEntry _ member

theorem sameOptions_looseEntries : SameOptions looseEntries strictEntries := by
  intro key member value notNull
  simp only [optionKeys, textKeys, useLocaleKey, columnsKey, nameFormatKey, defaultLocaleKey,
    List.mem_cons, List.not_mem_nil, or_false] at member
  rcases member with rfl | rfl | rfl | rfl <;> simp [looseEntries, strictEntries, notNull]

/-- Neither a null, nor other entries, nor their order make a difference. -/
theorem ofValue_normalForm_loose :
    Distinct looseEntries ∧ Writable looseEntries ∧ Distinct strictEntries ∧
      SameOptions looseEntries strictEntries ∧
      ∃ options, ofValue (.map looseEntries) = .ok options ∧
        ofValue (.map strictEntries) = .ok options ∧
        ofValue (.map options.toEntries) = .ok options := by
  rcases ofValue_normalForm looseEntries distinct_looseEntries with ⟨readable, normalForm⟩
  rcases readable.mpr writable_looseEntries with ⟨options, read⟩
  have form := normalForm options read
  refine ⟨distinct_looseEntries, writable_looseEntries, distinct_strictEntries,
    sameOptions_looseEntries, options, read, ?_, form.readAgain⟩
  exact form.independent strictEntries distinct_strictEntries sameOptions_looseEntries

end DateGetters.Proofs.OptionNormalForm
