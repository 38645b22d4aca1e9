import DateGetters.Proofs.ColumnSelection
import DateGetters.Proofs.GetterRendering
import DateGetters.Proofs.Placeholders

/-!
# What generation ends with

For a table of textual columns with different names, and options whose texts are
texts, the outcome of generation is determined by three questions in this order:
whether the name format is valid, whether the columns are listed, and which of
the listed names is the first to be refused.
-/

namespace DateGetters.Proofs.GenerationOutcome

open DateGetters.Proofs.SchemaLookup
open DateGetters.Proofs.ColumnSelection
open DateGetters.Proofs.GetterRendering
open DateGetters.Proofs.Outcomes
open DateGetters.Proofs.Placeholders

variable {σ : Type} [Schema σ]

/-! ## Options and getters in texts -/

/-- A list of columns as an option value. -/
def listed : Option String → Value
  | none => .null
  | some names => .text names

/-- Options whose format and locale are texts, with columns that are a text or absent. -/
def textOptions (format : String) (columns : Option String) (useLocale : Value)
    (locale : String) : Options :=
  ⟨.text format, listed columns, useLocale, .text locale⟩

/-- The getter of a textual column. -/
def textualGetter (format : String) (column : Column) : Getter :=
  ⟨NameFormat.fill format column.identifier.toText, column.name.toText⟩

/-- The block of the getters of textual columns. -/
def blockOf (format : String) (useLocale : Value) (locale : String)
    (columns : List Column) : String :=
  block (.ofOption useLocale) (localeLiteral (.text locale))
    (columns.map (textualGetter format))

/-- The placeholders of a format are those that show. -/
theorem validate_of_shows
    {nameFormat : Value} {format : String}
    (shows : Shows nameFormat format) :
    NameFormat.validate nameFormat =
      if NameFormat.occurrences format.toList = 1 then .ok ()
      else .error (.invalidFormat nameFormat
        (.integer (NameFormat.occurrences format.toList))) := by
  cases shows with
  | text _ =>
      rw [NameFormat.validate, NameFormat.count_text]
      rfl
  | broken _ =>
      rw [String.toList_ofList]
      rfl

theorem validate_text (format : String) :
    NameFormat.validate (.text format) =
      if NameFormat.occurrences format.toList = 1 then .ok ()
      else .error (.invalidFormat (.text format)
        (.integer (NameFormat.occurrences format.toList))) :=
  validate_of_shows (.text format)

theorem methodName_of_shows
    {nameFormat : Value} {format : String}
    (shows : Shows nameFormat format) (identifier : String) :
    NameFormat.methodName nameFormat (.text identifier) =
      .ok (NameFormat.fill format identifier) := by
  cases shows <;> rfl

theorem ofColumn_of_textual
    {options : Options} {format : String}
    (shows : Shows options.nameFormat format)
    {column : Column}
    (textual : IsTextual column) :
    Getter.ofColumn options column = .ok (textualGetter format column) := by
  rcases textual with ⟨name, declaredType, identifier, rfl⟩
  rw [Getter.ofColumn, methodName_of_shows shows]
  rfl

theorem mapM_ofColumn_of_textual
    {options : Options} {format : String}
    (shows : Shows options.nameFormat format)
    {columns : List Column}
    (textual : ∀ column ∈ columns, IsTextual column) :
    columns.mapM (Getter.ofColumn options) =
      .ok (columns.map (textualGetter format)) := by
  rw [mapM_eq_ok_iff, List.forall₂_map_right_iff, List.forall₂_same]
  intro column member
  exact ofColumn_of_textual shows (textual column member)

/-! ## The specification -/

/--
What the outcome of generation is required to be, for a format, an optional list
of columns, a choice of template and a locale.
-/
structure Specified (table : σ) (format : String) (columns : Option String)
    (useLocale : Value) (locale : String) (outcome : Outcome String) : Prop where
  /-- A format has as many placeholders as there are ways to cut it at one. -/
  counted : (frames format).encard = NameFormat.occurrences format.toList
  /-- A getter has the identifier of its column in its name, in the only frame of the format. -/
  named :
    ∀ front back, frames format = {(front, back)} →
      ∀ column, (textualGetter format column).methodName =
        front ++ column.identifier.toText ++ back
  /-- A format without exactly one placeholder fails first of all. -/
  invalidFormat :
    NameFormat.occurrences format.toList ≠ 1 →
      outcome = .error (.invalidFormat (.text format)
        (.integer (NameFormat.occurrences format.toList)))
  /-- Without a list the temporal columns get their getters, in the order of the table. -/
  automatic :
    NameFormat.occurrences format.toList = 1 →
    columns = none ∨ columns = some "" →
      outcome = .ok (blockOf format useLocale locale
        ((Schema.columns table).filter isTemporal))
  /-- If a listed name is refused, the first refused one is the failure. -/
  refused :
    NameFormat.occurrences format.toList = 1 →
    ∀ names, columns = some names → names ≠ "" →
    (∃ name ∈ requestedNames names, ∃ fault, Refused table name fault) →
      ∃ before name after fault,
        requestedNames names = before ++ name :: after ∧
          (∀ earlier ∈ before, ∃ column, Granted table earlier column) ∧
          Refused table name fault ∧
          outcome = .error fault
  /-- If no listed name is refused, their columns get their getters, in the order of the list. -/
  granted :
    NameFormat.occurrences format.toList = 1 →
    ∀ names, columns = some names → names ≠ "" →
    (∀ name ∈ requestedNames names, ∀ fault, ¬ Refused table name fault) →
      ∃ selected,
        List.Forall₂ (Granted table) (requestedNames names) selected ∧
          outcome = .ok (blockOf format useLocale locale selected)
  /-- A list of nothing but blanks and commas never stands for all temporal columns. -/
  blank :
    NameFormat.occurrences format.toList = 1 →
    ∀ names, columns = some names → names ≠ "" →
    (∀ character ∈ names.toList, character = ',' ∨ Text.isBlank character = true) →
    (∀ column ∈ Schema.columns table, column.name ≠ .text "") →
      outcome = .error (.columnNotFound (.text "") (Schema.name table))

/-! ## The selection decides -/

section Deciding

variable {table : σ} {format : String} {columns : Option String}
  {useLocale : Value} {locale : String}

theorem outcome_of_invalid
    (invalid : NameFormat.occurrences format.toList ≠ 1) :
    (generate table (textOptions format columns useLocale locale)).outcome =
      .error (.invalidFormat (.text format)
        (.integer (NameFormat.occurrences format.toList))) := by
  rw [outcome_generate, Getter.selected, textOptions, validate_text, if_neg invalid]
  rfl

theorem outcome_of_failed_selection
    (valid : NameFormat.occurrences format.toList = 1)
    {fault : Fault}
    (failed : (Selection.columns table (listed columns)).outcome = .error fault) :
    (generate table (textOptions format columns useLocale locale)).outcome =
      .error fault := by
  rw [outcome_generate, Getter.selected, textOptions, validate_text, if_pos valid,
    failed]
  rfl

theorem outcome_of_selection
    (valid : NameFormat.occurrences format.toList = 1)
    {selected : List Column}
    (done : (Selection.columns table (listed columns)).outcome = .ok selected)
    (textual : ∀ column ∈ selected, IsTextual column) :
    (generate table (textOptions format columns useLocale locale)).outcome =
      .ok (blockOf format useLocale locale selected) := by
  have getters : selected.mapM
        (Getter.ofColumn (textOptions format columns useLocale locale)) =
      .ok (selected.map (textualGetter format)) :=
    mapM_ofColumn_of_textual (.text format) textual
  rw [outcome_generate, Getter.selected]
  simp only [textOptions] at getters ⊢
  rw [validate_text, if_pos valid, done]
  simp only [bind, Except.bind, getters]
  rfl

end Deciding

/-! ## The main statement -/

section Specification

variable [LawfulSchema σ] {table : σ}

theorem not_refused_of_granted
    (textual : Textual table)
    {name : String} {column : Column} {fault : Fault}
    (granted : Granted table name column) :
    ¬ Refused table name fault := by
  intro refused
  have resolved := resolve_of_granted textual granted
  rw [resolve_of_refused textual refused] at resolved
  cases resolved

theorem selection_of_refused
    (textual : Textual table)
    {names : String} (nonempty : names ≠ "")
    {before after : List String} {name : String} {fault : Fault}
    (split : requestedNames names = before ++ name :: after)
    (earlier : ∀ other ∈ before, ∃ column, Granted table other column)
    (refused : Refused table name fault) :
    (Selection.columns table (.text names)).outcome = .error fault := by
  rw [columns_of_names table nonempty, split]
  apply resolveAll_of_first
  · intro other member
    rcases earlier other member with ⟨column, granted⟩
    exact ⟨column, resolve_of_granted textual granted⟩
  · exact resolve_of_refused textual refused

theorem selection_of_granted
    (textual : Textual table)
    {names : String} (nonempty : names ≠ "")
    {selected : List Column}
    (granted : List.Forall₂ (Granted table) (requestedNames names) selected) :
    (Selection.columns table (.text names)).outcome = .ok selected := by
  rw [columns_of_names table nonempty]
  exact (resolveAll_eq_ok_iff table _ selected).mpr
    (granted.imp fun _ _ => resolve_of_granted textual)

/-- Generation ends as specified, for every textual table. -/
theorem generate_specified
    (table : σ)
    (textual : Textual table)
    (format : String) (columns : Option String) (useLocale : Value) (locale : String) :
    Specified table format columns useLocale locale
      (generate table (textOptions format columns useLocale locale)).outcome where
  counted := encard_frames format
  named := by
    intro front back only column
    exact fill_of_frames only _
  invalidFormat invalid := outcome_of_invalid invalid
  automatic valid silent := by
    have silentOption : (listed columns).isTruthy = false := by
      rcases silent with rfl | rfl <;> rfl
    apply outcome_of_selection valid
    · rw [columns_of_silent table silentOption, Run.outcome_ofExcept,
        temporal_of_textual textual.columns]
    · intro column member
      exact textual.columns column (List.mem_of_mem_filter member)
  refused valid names given nonempty refusal := by
    subst given
    rcases all_granted_or_first_refused table (requestedNames names) with
      ⟨selected, granted⟩ | ⟨before, name, after, fault, split, earlier, refused⟩
    · rcases refusal with ⟨name, member, fault, refused⟩
      rcases granted_of_mem granted member with ⟨column, grantedName⟩
      exact absurd refused (not_refused_of_granted textual grantedName)
    · refine ⟨before, name, after, fault, split, earlier, refused, ?_⟩
      exact outcome_of_failed_selection valid
        (selection_of_refused textual nonempty split earlier refused)
  granted valid names given nonempty noRefusal := by
    subst given
    rcases all_granted_or_first_refused table (requestedNames names) with
      ⟨selected, granted⟩ | ⟨before, name, after, fault, split, earlier, refused⟩
    · refine ⟨selected, granted, ?_⟩
      apply outcome_of_selection valid (selection_of_granted textual nonempty granted)
      intro column member
      exact textual.columns column (mem_of_all_granted granted column member)
    · have member : name ∈ requestedNames names := by
        rw [split]
        exact List.mem_append_right before List.mem_cons_self
      exact absurd refused (noRefusal name member fault)
  blank valid names given nonempty blank unnamed := by
    subst given
    have split : requestedNames names = [] ++ "" :: [] :=
      requestedNames_of_blank blank
    apply outcome_of_failed_selection valid
    exact selection_of_refused textual nonempty split (by simp) (.absent unnamed)

end Specification

/-- A table with two temporal columns and one that is not. -/
def library : Table :=
  ⟨.text "library", [
    ⟨.text "made_on", .text "date", .text "MadeOn"⟩,
    ⟨.text "title", .text "VARCHAR(40)", .text "Title"⟩,
    ⟨.text "sold_at", .text " TimeStamp ", .text "SoldAt"⟩]⟩

theorem textual_library : Textual library where
  columns column member := by
    simp only [library, Schema.columns, List.mem_cons, List.not_mem_nil,
      or_false] at member
    rcases member with rfl | rfl | rfl <;> exact ⟨_, _, _, rfl⟩
  distinct := by
    simp [library, Schema.columns]

/-- A list of blanks and commas asks a table of three columns for a column without a name. -/
theorem generate_specified_library :
    Textual library ∧
      (generate library
        (textOptions "get%s" (some " ,, ") (.bool true) "de_DE")).outcome =
          .error (.columnNotFound (.text "") (.text "library")) := by
  refine ⟨textual_library, ?_⟩
  have specified := generate_specified library textual_library
    "get%s" (some " ,, ") (.bool true) "de_DE"
  apply specified.blank (by decide) " ,, " rfl (by decide) (by simp [Text.isBlank])
  simp [library, Schema.columns]

end DateGetters.Proofs.GenerationOutcome
