import DateGetters.Proofs.GenerationOutcome

/-!
# What options are read as

Whatever mapping options are read from, the name format and the default locale
are texts, the columns are a text or absent, and the switch between the
templates is a flag.  A format or a locale may have half of a surrogate pair.
-/

namespace DateGetters.Proofs.OptionReading

open DateGetters.Proofs.GenerationOutcome
open DateGetters.Proofs.Outcomes

/-- Options as reading gives them. -/
inductive Normal : Options → Prop where
  | texts {nameFormat defaultLocale : Value} {format locale : String}
      (formatShows : Shows nameFormat format) (localeShows : Shows defaultLocale locale)
      (columns : Option String) (flag : Bool) :
      Normal ⟨nameFormat, listed columns, .bool flag, defaultLocale⟩

theorem shows_of_readOr
    {builtin : String} {given : Option Value} {value : Value}
    (read : Options.readOr (.text builtin) Value.textValue? given = .ok value) :
    ∃ content, Shows value content := by
  cases given with
  | none =>
      rw [← Except.ok.inj read]
      exact ⟨builtin, .text builtin⟩
  | some unread =>
      exact shows_of_textValue? read

theorem listed_of_readOr
    {given : Option Value} {value : Value}
    (read : Options.readOr .null Options.columnsValue? given = .ok value) :
    ∃ columns, value = listed columns := by
  cases given with
  | none =>
      exact ⟨none, (Except.ok.inj read).symm⟩
  | some unread =>
      rcases (map_eq_ok_iff _ _ _).mp read with ⟨names, -, rfl⟩
      exact ⟨some names, rfl⟩

theorem normal_of_ofEntries
    {entries : Entries} {options : Options}
    (read : Options.ofEntries entries = .ok options) :
    Normal options := by
  simp only [Options.ofEntries, bind_eq_ok_iff] at read
  rcases read with ⟨columns, readColumns, format, readFormat, locale, readLocale, done⟩
  rcases shows_of_readOr readFormat with ⟨shownFormat, formatShows⟩
  rcases shows_of_readOr readLocale with ⟨shownLocale, localeShows⟩
  rcases listed_of_readOr readColumns with ⟨names, rfl⟩
  rw [← Except.ok.inj done]
  exact .texts formatShows localeShows names _

/-- Options that are read from a value are in texts. -/
theorem normal_of_ofValue
    {parameters : Value} {options : Options}
    (read : Options.ofValue parameters = .ok options) :
    Normal options := by
  unfold Options.ofValue at read
  by_cases given : parameters.isTruthy = true
  · rw [if_pos given] at read
    cases parameters with
    | map entries =>
        exact normal_of_ofEntries read
    | _ =>
        cases read
  · rw [if_neg given] at read
    rw [← Except.ok.inj read]
    exact .texts (.text _) (.text _) none false

/-- Of parameters with nothing but columns these are read, and all other options are built in. -/
theorem ofValue_of_columns
    {columns : Value} (given : columns ≠ .null)
    {names : String} (read : Options.columnsText? columns = .ok names) :
    Options.ofValue (.map [(.text Options.columnsKey, columns)]) =
      .ok { Options.builtin with columns := .text names } := by
  have found : Options.given? [(.text Options.columnsKey, columns)] Options.columnsKey =
      some columns := by
    cases columns with
    | null =>
        exact absurd rfl given
    | _ =>
        simp [Options.given?, Entries.find?]
  have nothingElse (key : String) (other : Options.columnsKey ≠ key) :
      Options.given? [(.text Options.columnsKey, columns)] key = none := by
    simp [Options.given?, Entries.find?, other]
  have readColumns : Options.readOr Options.builtin.columns Options.columnsValue? (some columns) =
      .ok (.text names) := by
    rw [Options.readOr, Options.columnsValue?, read]
    rfl
  have someEntry : (Value.map [(.text Options.columnsKey, columns)]).isTruthy = true := by
    rfl
  rw [Options.ofValue, if_pos someEntry]
  simp only [Options.ofEntries, found, readColumns, nothingElse Options.nameFormatKey (by decide),
    nothingElse Options.defaultLocaleKey (by decide),
    nothingElse Options.useLocaleKey (by decide), ok_bind]
  rfl

/-- Generation with parameters is generation with the options that they are read as. -/
theorem generateWith_of_ofValue
    {σ : Type} [Schema σ] (table : σ)
    {parameters : Value} {options : Options}
    (read : Options.ofValue parameters = .ok options) :
    generateWith table parameters = generate table options := by
  rw [generateWith, liftM_of_ok read, pure_bind]

/-- Parameters that cannot be read fail before anything is asked of the table. -/
theorem generateWith_of_unreadable
    {σ : Type} [Schema σ] (table : σ)
    {parameters : Value} {fault : Fault}
    (unreadable : Options.ofValue parameters = .error fault) :
    generateWith table parameters = ⟨[], .error fault⟩ := by
  rw [generateWith, unreadable]
  rfl

end DateGetters.Proofs.OptionReading
