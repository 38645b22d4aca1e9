import DateGetters.Proofs.OptionReading
import DateGetters.Proofs.RequestedNames

/-!
# The log of generation

A run of generation has three stages: the name format is checked, the columns
are selected, and their getters are rendered.  A run that stops in one of the
first two has logged what those stages log and nothing of a later one.

So the log tells how a run went: it warns of each repetition in the option of
columns, all of them before any column is resolved, then names the rendered
getters in their order, and ends with their number.
-/

namespace DateGetters.Proofs.GenerationTrace

open DateGetters.Proofs.ColumnSelection
open DateGetters.Proofs.GenerationOutcome
open DateGetters.Proofs.GetterRendering
open DateGetters.Proofs.OptionReading
open DateGetters.Proofs.Outcomes
open DateGetters.Proofs.RequestedNames
open DateGetters.Proofs.SchemaLookup
open DateGetters.Selection

variable {σ : Type} [Schema σ]

/-! ## The stages of a run -/

/-- How the log calls a template. -/
def kindInLog : TemplateKind → String
  | .basic => "basic"
  | .localeAware => "locale_aware"

/-- The entry of the log for a rendered getter. -/
def renderedEntry (kind : TemplateKind) (getter : Getter) : LogEntry :=
  ⟨.debug, "Rendered " ++ kindInLog kind ++ " getter " ++ getter.methodName ++
    "() for column " ++ getter.columnName⟩

/-- The entry that ends the log of a run that gives getters, with their number. -/
def generatedEntry (kind : TemplateKind) (table : Value) (count : Nat) : LogEntry :=
  ⟨.info, "Generated " ++ toString count ++ " " ++ kindInLog kind ++
    " getter(s) for table " ++ table.toText⟩

theorem kindInLog_eq (kind : TemplateKind) : kindInLog kind = kind.name := by
  cases kind <;> rfl

theorem generatedEntry_eq (kind : TemplateKind) (table : Value) (count : Nat) :
    generatedEntry kind table count = ⟨.info, generatedMessage count kind table⟩ := by
  rw [generatedEntry, kindInLog_eq]
  rfl

section Stages

variable {table : σ} {options : Options}

theorem columnGetter_of_named
    {column : Column} {getter : Getter}
    (named : Getter.ofColumn options column = .ok getter) :
    columnGetter options column =
      ⟨[renderedEntry (.ofOption options.useLocale) getter],
        .ok (getter.source (.ofOption options.useLocale)
          (localeLiteral options.defaultLocale))⟩ := by
  rcases (map_eq_ok_iff _ _ _).mp named with ⟨methodName, filled, rfl⟩
  rw [columnGetter, filled, renderedEntry, kindInLog_eq]
  rfl

/-- The getters of columns are rendered one after the other, each with its entry. -/
theorem columnGetters_of_named
    {columns : List Column} {getters : List Getter}
    (named : List.Forall₂ (fun column getter => Getter.ofColumn options column = .ok getter)
      columns getters) :
    columnGetters options columns =
      ⟨getters.map (renderedEntry (.ofOption options.useLocale)),
        .ok (getters.map (Getter.source (.ofOption options.useLocale)
          (localeLiteral options.defaultLocale)))⟩ := by
  induction named with
  | nil =>
      rfl
  | cons first _ ih =>
      rw [columnGetters, columnGetter_of_named first, ih, Run.bind_of_ok _ rfl,
        Run.bind_of_ok _ rfl, Run.log_pure, List.append_nil]
      rfl

theorem columnGetters_congr
    {other : Options}
    (same : ∀ column, columnGetter options column = columnGetter other column)
    (columns : List Column) :
    columnGetters options columns = columnGetters other columns := by
  induction columns with
  | nil =>
      rfl
  | cons column others ih =>
      rw [columnGetters, columnGetters, same, ih]

/-- A run depends on the table through its name and the selected columns only. -/
theorem generate_congr
    {τ : Type} [Schema τ] {otherTable : τ} {other : Options}
    (sameName : Schema.name table = Schema.name otherTable)
    (sameSelection :
      Selection.columns table options.columns = Selection.columns otherTable other.columns)
    (sameFormat : options.nameFormat = other.nameFormat)
    (sameKind :
      TemplateKind.ofOption options.useLocale = TemplateKind.ofOption other.useLocale)
    (sameGetter : ∀ column, columnGetter options column = columnGetter other column) :
    generate table options = generate otherTable other := by
  have sameGetters : columnGetters options = columnGetters other := by
    ext columns
    exact columnGetters_congr sameGetter columns
  simp only [generate, sameName, sameSelection, sameFormat, sameKind, sameGetters]

theorem generate_of_invalid
    {fault : Fault}
    (invalid : NameFormat.validate options.nameFormat = .error fault) :
    generate table options = ⟨[], .error fault⟩ := by
  rw [generate, invalid]
  rfl

theorem generate_of_valid
    (valid : NameFormat.validate options.nameFormat = .ok ()) :
    generate table options = (do
      let columns ← Selection.columns table options.columns
      let getters ← columnGetters options columns
      Run.note .info
        (generatedMessage getters.length (.ofOption options.useLocale) (Schema.name table))
      return "\n".intercalate getters) := by
  rw [generate, liftM_of_ok valid, pure_bind]

theorem generate_of_failed_selection
    (valid : NameFormat.validate options.nameFormat = .ok ())
    {log : List LogEntry} {fault : Fault}
    (selection : Selection.columns table options.columns = ⟨log, .error fault⟩) :
    generate table options = ⟨log, .error fault⟩ := by
  rw [generate_of_valid valid, selection]
  rfl

/-- A run whose columns are selected renders their getters and counts them. -/
theorem generate_of_selection
    (valid : NameFormat.validate options.nameFormat = .ok ())
    {log : List LogEntry} {columns : List Column} {getters : List Getter}
    (selection : Selection.columns table options.columns = ⟨log, .ok columns⟩)
    (named : List.Forall₂ (fun column getter => Getter.ofColumn options column = .ok getter)
      columns getters) :
    generate table options =
      ⟨log ++ (getters.map (renderedEntry (.ofOption options.useLocale)) ++
          [generatedEntry (.ofOption options.useLocale) (Schema.name table) getters.length]),
        .ok (block (.ofOption options.useLocale) (localeLiteral options.defaultLocale)
          getters)⟩ := by
  rw [generate_of_valid valid, selection, Run.bind_of_ok _ rfl,
    columnGetters_of_named named, Run.bind_of_ok _ rfl, List.length_map, generatedEntry_eq]
  rfl

end Stages

/-! ## Selection and its warnings -/

/-- The trimmed pieces of an option of columns; an option that says nothing has none. -/
def listedNames : Value → List String
  | .text names => if names = "" then [] else (Text.split ',' names).map Text.trim
  | _ => []

/-- The warnings about the listed names that repeat earlier ones. -/
def repeatWarnings (columns : Value) : List LogEntry :=
  (repeatedNames (listedNames columns)).map repetitionEntry

/-- An option of columns says nothing, or it is a text that lists names. -/
theorem silent_or_listing (columns : Option String) :
    ((listed columns).isTruthy = false ∧ listedNames (listed columns) = []) ∨
      ∃ names, names ≠ "" ∧ columns = some names := by
  cases columns with
  | none =>
      exact Or.inl ⟨rfl, rfl⟩
  | some names =>
      by_cases empty : names = ""
      · subst empty
        exact Or.inl ⟨rfl, rfl⟩
      · exact Or.inr ⟨names, empty, rfl⟩

/-- All that is logged by a selection are the warnings about the whole option. -/
theorem log_columns (table : σ) (columns : Option String) :
    (Selection.columns table (listed columns)).log = repeatWarnings (listed columns) := by
  rcases silent_or_listing columns with ⟨silent, nothing⟩ | ⟨names, nonempty, rfl⟩
  · rw [columns_of_silent table silent, repeatWarnings, nothing]
    rfl
  · rw [listed, columns_of_names table nonempty, repeatWarnings, listedNames,
      if_neg nonempty, repeats_nil, namesIn]

/-- A failure to resolve the name of a column. -/
inductive IsRefusal : Fault → Prop where
  | absent (column table : Value) : IsRefusal (.columnNotFound column table)
  | notTemporal (column table declared : Value) :
      IsRefusal (.notTemporal column table declared)

theorem isRefusal_of_columns
    [LawfulSchema σ] {table : σ}
    (textual : ∀ column ∈ Schema.columns table, IsTextual column)
    {columns : Option String} {fault : Fault}
    (failed : (Selection.columns table (listed columns)).outcome = .error fault) :
    IsRefusal fault := by
  rcases silent_or_listing columns with ⟨silent, -⟩ | ⟨names, nonempty, rfl⟩
  · rw [columns_of_silent table silent, Run.outcome_ofExcept,
      temporal_of_textual textual] at failed
    cases failed
  · rcases exists_refused_of_columns textual nonempty failed with ⟨name, -, refused⟩
    cases refused with
    | absent _ =>
        exact .absent _ _
    | notTemporal _ _ _ =>
        exact .notTemporal _ _ _

/-! ## What the log tells -/

/--
The log of a run that generates getters with some options, in each of the ways
in which it can end.
-/
structure Faithful (table : σ) (options : Options) (run : Logged String) : Prop where
  /-- Of the listed names, some are asked for and the others are warned of. -/
  count :
    (repeatWarnings options.columns).length +
        (listedNames options.columns).eraseDups.length =
      (listedNames options.columns).length
  /-- The warnings, the rendered getters in the order of their columns, and their number. -/
  generated :
    ∀ text, run.outcome = .ok text →
      ∃ columns getters, SelectedGetters table options columns getters ∧
        text = "\n".intercalate (getters.map (Getter.source (.ofOption options.useLocale)
          (localeLiteral options.defaultLocale))) ∧
        run.log = repeatWarnings options.columns ++
          (getters.map (renderedEntry (.ofOption options.useLocale)) ++
            [generatedEntry (.ofOption options.useLocale) (Schema.name table) getters.length])
  /-- Nothing is logged before the name format is checked. -/
  invalidFormat :
    ∀ format found, run.outcome = .error (.invalidFormat format found) → run.log = []
  /-- All warnings come before the first name is resolved, and nothing else does. -/
  refused :
    ∀ fault, IsRefusal fault → run.outcome = .error fault →
      run.log = repeatWarnings options.columns ∧ ∀ entry ∈ run.log, entry.level = .warning
  /-- A run fails in no other way. -/
  failures :
    ∀ fault, run.outcome = .error fault →
      IsRefusal fault ∨ ∃ found, fault = .invalidFormat options.nameFormat found

theorem length_repeatWarnings (columns : Value) :
    (repeatWarnings columns).length + (listedNames columns).eraseDups.length =
      (listedNames columns).length := by
  rw [repeatWarnings, List.length_map, ← repeats_nil, ← firsts_nil, Nat.add_comm]
  exact length_firsts_add_length_repeats [] (listedNames columns)

theorem level_of_mem_repeatWarnings
    {columns : Value} {entry : LogEntry}
    (member : entry ∈ repeatWarnings columns) :
    entry.level = .warning := by
  rcases List.mem_map.mp member with ⟨name, -, rfl⟩
  rfl

section Faithfulness

variable {table : σ} {options : Options}

theorem faithful_of_invalid
    {found : Value}
    (invalid : NameFormat.validate options.nameFormat =
      .error (.invalidFormat options.nameFormat found)) :
    Faithful table options (generate table options) := by
  rw [generate_of_invalid invalid]
  constructor
  case count =>
    exact length_repeatWarnings options.columns
  case generated =>
    intro text done
    cases done
  case invalidFormat =>
    intro format count failed
    rfl
  case refused =>
    intro fault refusal failed
    rw [← Except.error.inj failed] at refusal
    cases refusal
  case failures =>
    intro fault failed
    exact Or.inr ⟨found, (Except.error.inj failed).symm⟩

theorem faithful_of_refused
    (valid : NameFormat.validate options.nameFormat = .ok ())
    {fault : Fault}
    (selection : Selection.columns table options.columns =
      ⟨repeatWarnings options.columns, .error fault⟩)
    (refusal : IsRefusal fault) :
    Faithful table options (generate table options) := by
  rw [generate_of_failed_selection valid selection]
  constructor
  case count =>
    exact length_repeatWarnings options.columns
  case generated =>
    intro text done
    cases done
  case invalidFormat =>
    intro format count failed
    rw [Except.error.inj failed] at refusal
    cases refusal
  case refused =>
    intro _ _ _
    exact ⟨rfl, fun entry member => level_of_mem_repeatWarnings member⟩
  case failures =>
    intro other failed
    rw [Except.error.inj failed] at refusal
    exact Or.inl refusal

theorem faithful_of_selected
    (valid : NameFormat.validate options.nameFormat = .ok ())
    {columns : List Column} {getters : List Getter}
    (selection : Selection.columns table options.columns =
      ⟨repeatWarnings options.columns, .ok columns⟩)
    (named : List.Forall₂ (fun column getter => Getter.ofColumn options column = .ok getter)
      columns getters) :
    Faithful table options (generate table options) := by
  rw [generate_of_selection valid selection named]
  constructor
  case count =>
    exact length_repeatWarnings options.columns
  case generated =>
    intro text done
    have chosen : SelectedGetters table options columns getters :=
      ⟨by rw [selection], named⟩
    exact ⟨columns, getters, chosen, (Except.ok.inj done).symm, rfl⟩
  case invalidFormat =>
    intro format count failed
    cases failed
  case refused =>
    intro fault _ failed
    cases failed
  case failures =>
    intro fault failed
    cases failed

end Faithfulness

/-- The log tells faithfully how generation went, for a table of textual columns. -/
theorem faithful_generate
    [LawfulSchema σ] {table : σ}
    (textual : ∀ column ∈ Schema.columns table, IsTextual column)
    {options : Options} {format : String} {columns : Option String}
    (shows : Shows options.nameFormat format)
    (textColumns : options.columns = listed columns) :
    Faithful table options (generate table options) := by
  have formatRead := validate_of_shows shows
  by_cases valid : NameFormat.occurrences format.toList = 1
  · rw [if_pos valid] at formatRead
    have selectionLog := log_columns table columns
    rw [← textColumns] at selectionLog
    cases selection : Selection.columns table options.columns with
    | mk log outcome =>
        rw [selection] at selectionLog
        subst selectionLog
        cases outcome with
        | error fault =>
            have failed : (Selection.columns table (listed columns)).outcome = .error fault := by
              rw [← textColumns, selection]
            exact faithful_of_refused formatRead selection (isRefusal_of_columns textual failed)
        | ok selected =>
            have members := mem_of_columns (by rw [selection])
            apply faithful_of_selected formatRead selection
            apply (mapM_eq_ok_iff _ _ _).mp
            apply mapM_ofColumn_of_textual shows
            intro column member
            exact textual column (members column member)
  · rw [if_neg valid] at formatRead
    exact faithful_of_invalid formatRead

/--
For a table of textual columns and any readable parameters, the log tells
faithfully how generation went.
-/
theorem generateWith_faithful
    [LawfulSchema σ] (table : σ)
    (textual : ∀ column ∈ Schema.columns table, IsTextual column)
    (parameters : Value) (options : Options)
    (read : Options.ofValue parameters = .ok options) :
    Faithful table options (generateWith table parameters) := by
  rw [generateWith_of_ofValue table read]
  cases normal_of_ofValue read with
  | texts formatShows _ _ _ =>
      exact faithful_generate textual formatShows rfl

/-- Names of which the first is refused and two others, one of them behind it, are repeated. -/
def lostNames : String := "lost, made_on ,lost,made_on,"

/-- The names of two columns that can be generated, one of them twice. -/
def datesTwice : String := "made_on, sold_at,made_on"

/-- Parameters with nothing but a list of names. -/
def asking (names : String) : Value :=
  .map [(.text "columns", .text names)]

def askedOptions (names : String) : Options :=
  textOptions Options.builtinNameFormat (some names) (.bool false) Options.builtinLocale

theorem ofValue_asking (names : String) :
    Options.ofValue (asking names) = .ok (askedOptions names) := by
  have given : Value.text names ≠ .null := nofun
  exact ofValue_of_columns given (Value.toText?_text names)

theorem valid_builtin : NameFormat.occurrences Options.builtinNameFormat.toList = 1 := by
  decide +kernel

theorem outcome_lostNames :
    (generateWith library (asking lostNames)).outcome =
      .error (.columnNotFound (.text "lost") (.text "library")) := by
  have names : requestedNames lostNames = [] ++ "lost" :: ["made_on", ""] := by
    decide +kernel
  have refused : Refused library "lost" (.columnNotFound (.text "lost") (.text "library")) := by
    apply Refused.absent
    simp [library, Schema.columns]
  rw [generateWith_of_ofValue library (ofValue_asking lostNames)]
  apply outcome_of_failed_selection valid_builtin
  exact selection_of_refused textual_library (by decide) names (by simp) refused

theorem repeatWarnings_lostNames :
    repeatWarnings (.text lostNames) =
      [⟨.warning, "Column 'lost' is listed more than once; generating it once."⟩,
        ⟨.warning, "Column 'made_on' is listed more than once; generating it once."⟩] := by
  have repeated : repeatedNames (listedNames (.text lostNames)) = ["lost", "made_on"] := by
    decide +kernel
  rw [repeatWarnings, repeated]
  rfl

/-- The getters of the two columns. -/
def datesGetters : List Getter :=
  [⟨"getMadeOnUsingLocale", "made_on"⟩, ⟨"getSoldAtUsingLocale", "sold_at"⟩]

theorem selectedGetters_datesTwice :
    SelectedGetters library (askedOptions datesTwice)
      [⟨.text "made_on", .text "date", .text "MadeOn"⟩,
        ⟨.text "sold_at", .text " TimeStamp ", .text "SoldAt"⟩] datesGetters where
  selection := by
    have names : requestedNames datesTwice = ["made_on", "sold_at"] := by
      decide +kernel
    apply selection_of_granted textual_library (by decide)
    rw [names]
    refine .cons ?_ (.cons ?_ .nil)
    · exact ⟨by simp [library, Schema.columns], rfl, by decide +kernel⟩
    · exact ⟨by simp [library, Schema.columns], rfl, by decide +kernel⟩
  named := by
    have madeOn : NameFormat.fill Options.builtinNameFormat "MadeOn" = "getMadeOnUsingLocale" := by
      decide +kernel
    have soldAt : NameFormat.fill Options.builtinNameFormat "SoldAt" = "getSoldAtUsingLocale" := by
      decide +kernel
    refine .cons ?_ (.cons ?_ .nil)
    · rw [← madeOn]
      rfl
    · rw [← soldAt]
      rfl

/-- The log of a run in which two getters are rendered. -/
def datesLog : List LogEntry := [
  ⟨.warning, "Column 'made_on' is listed more than once; generating it once."⟩,
  ⟨.debug, "Rendered basic getter getMadeOnUsingLocale() for column made_on"⟩,
  ⟨.debug, "Rendered basic getter getSoldAtUsingLocale() for column sold_at"⟩,
  ⟨.info, "Generated 2 basic getter(s) for table library"⟩]

/--
Where the first name fails, both repetitions were warned of before.  Where no
name fails, a getter is rendered for each of the two columns.
-/
theorem generateWith_faithful_library :
    (∀ column ∈ Schema.columns library, IsTextual column) ∧
      (Options.ofValue (asking lostNames) = .ok (askedOptions lostNames) ∧
        (generateWith library (asking lostNames)).outcome =
          .error (.columnNotFound (.text "lost") (.text "library")) ∧
        (generateWith library (asking lostNames)).log =
          [⟨.warning, "Column 'lost' is listed more than once; generating it once."⟩,
            ⟨.warning, "Column 'made_on' is listed more than once; generating it once."⟩]) ∧
      Options.ofValue (asking datesTwice) = .ok (askedOptions datesTwice) ∧
        (∃ text, (generateWith library (asking datesTwice)).outcome = .ok text) ∧
        (generateWith library (asking datesTwice)).log = datesLog := by
  have textual := textual_library.columns
  have lost := generateWith_faithful library textual _ _ (ofValue_asking lostNames)
  have dates := generateWith_faithful library textual _ _ (ofValue_asking datesTwice)
  have done := (generate_eq_ok_iff library (askedOptions datesTwice) _).mpr
    ⟨rfl, _, _, selectedGetters_datesTwice, rfl⟩
  rw [← generateWith_of_ofValue library (ofValue_asking datesTwice)] at done
  rcases lost.refused _ (.absent _ _) outcome_lostNames with ⟨refusedLog, -⟩
  rcases dates.generated _ done with ⟨columns, getters, chosen, -, renderedLog⟩
  rw [selectedGetters_datesTwice.unique chosen] at renderedLog
  have repeated : repeatedNames (listedNames (askedOptions datesTwice).columns) = ["made_on"] := by
    decide +kernel
  rw [repeatWarnings, repeated] at renderedLog
  exact ⟨textual,
    ⟨ofValue_asking lostNames, outcome_lostNames, refusedLog.trans repeatWarnings_lostNames⟩,
    ofValue_asking datesTwice, ⟨_, done⟩, renderedLog⟩

end DateGetters.Proofs.GenerationTrace
