import DateGetters.Proofs.GenerationTrace

/-!
# One list of columns behind another

Two lists of columns with a comma between them are a list again.  If the second
list names nothing that the first one names, generation with both gives one
block behind the other, or the first failure.  If it names nothing else, it
adds nothing but a warning for each of its names.

The names that are asked for are resolved in their order and their getters are
rendered in their order, so all that has to be known of the joined list is
which names it asks for and which it repeats.
-/

namespace DateGetters.Proofs.JoinedLists

open DateGetters.Proofs.ColumnSelection
open DateGetters.Proofs.GenerationOutcome
open DateGetters.Proofs.GenerationTrace
open DateGetters.Proofs.GetterRendering
open DateGetters.Proofs.Outcomes
open DateGetters.Proofs.RequestedNames
open DateGetters.Proofs.SchemaLookup
open DateGetters.Selection

variable {σ : Type} [Schema σ]

/-- A run that generates the getters of the columns in a list of names. -/
def listedRun (table : σ) (format : String) (useLocale locale : Value) (names : String) :
    Logged String :=
  generate table ⟨.text format, .text names, useLocale, locale⟩

/-- One block behind another with a line feed between them, or the first failure. -/
def followedBy (first second : Outcome String) : Outcome String := do
  let front ← first
  let back ← second
  return front ++ "\n" ++ back

/-- The warnings in a log. -/
def warningsIn (log : List LogEntry) : List LogEntry :=
  log.filter fun entry => entry.level = .warning

/-! ## Warnings -/

theorem warningsIn_append (first second : List LogEntry) :
    warningsIn (first ++ second) = warningsIn first ++ warningsIn second :=
  List.filter_append first second

/-- Going on without a warning leaves the warnings as they are. -/
theorem warningsIn_bind
    {α β : Type} (first : Logged α) {next : α → Logged β}
    (quiet : ∀ value, warningsIn (next value).log = []) :
    warningsIn (first >>= next).log = warningsIn first.log := by
  cases ended : first.outcome with
  | error fault =>
      rw [Run.bind_of_error next ended]
  | ok value =>
      rw [Run.bind_of_ok next ended, warningsIn_append, quiet, List.append_nil]

theorem warningsIn_columnGetter (options : Options) (column : Column) :
    warningsIn (columnGetter options column).log = [] := by
  rw [columnGetter, warningsIn_bind]
  · rfl
  · intro methodName
    rfl

theorem warningsIn_columnGetters (options : Options) (columns : List Column) :
    warningsIn (columnGetters options columns).log = [] := by
  induction columns with
  | nil =>
      rfl
  | cons column others ih =>
      rw [columnGetters, warningsIn_bind]
      · exact warningsIn_columnGetter options column
      · intro getter
        rw [warningsIn_bind]
        · exact ih
        · intro rest
          rfl

/-- A run warns in the selection of columns only. -/
theorem warningsIn_generate
    (table : σ) {options : Options}
    (valid : NameFormat.validate options.nameFormat = .ok ()) :
    warningsIn (generate table options).log =
      warningsIn (Selection.columns table options.columns).log := by
  rw [generate_of_valid valid, warningsIn_bind]
  intro columns
  rw [warningsIn_bind]
  · exact warningsIn_columnGetters options columns
  · intro getters
    rfl

/-! ## Blocks and columns of joined lists -/

theorem block_append
    (kind : TemplateKind) (literal : String)
    {front back : List Getter}
    (frontNonempty : front ≠ []) (backNonempty : back ≠ []) :
    block kind literal (front ++ back) =
      block kind literal front ++ "\n" ++ block kind literal back := by
  rw [block, List.map_append, String.intercalate_append_of_ne_nil]
  · rfl
  · simpa using frontNonempty
  · simpa using backNonempty

theorem resolveAll_append (table : σ) (front back : List String) :
    resolveAll table (front ++ back) = (do
      let first ← resolveAll table front
      let second ← resolveAll table back
      return first ++ second) := by
  simp only [resolveAll_eq_mapM, List.mapM_append]

theorem ne_nil_of_resolveAll
    {table : σ} {names : List String} {columns : List Column}
    (resolved : resolveAll table names = .ok columns)
    (nonempty : names ≠ []) :
    columns ≠ [] := by
  have sameLength := ((resolveAll_eq_ok_iff table names columns).mp resolved).length_eq
  rintro rfl
  exact nonempty (List.length_eq_zero_iff.mp sameLength)

/-! ## The run of a list -/

section Running

variable {table : σ} {format : String} {useLocale locale : Value}

theorem outcome_listedRun_of_invalid
    {fault : Fault}
    (invalid : NameFormat.validate (.text format) = .error fault)
    (names : String) :
    (listedRun table format useLocale locale names).outcome = .error fault := by
  rw [listedRun, generate_of_invalid invalid]

/-- With a valid format, a run warns of each name that repeats an earlier one. -/
theorem warningsIn_listedRun
    (valid : NameFormat.validate (.text format) = .ok ())
    {names : String} (nonempty : names ≠ "") :
    warningsIn (listedRun table format useLocale locale names).log =
      (repeats [] (namesIn names)).map repetitionEntry := by
  rw [listedRun, warningsIn_generate table valid, columns_of_names table nonempty]
  simp [warningsIn, repetitionEntry]

theorem warningsIn_listedRun_subset
    (valid : NameFormat.validate (.text format) = .ok ())
    {front back : String} (frontNonempty : front ≠ "")
    (subset : ∀ name ∈ namesIn back, name ∈ namesIn front) :
    warningsIn (listedRun table format useLocale locale (front ++ "," ++ back)).log =
      warningsIn (listedRun table format useLocale locale front).log ++
        (namesIn back).map repetitionEntry := by
  have known : ∀ name ∈ namesIn back, name ∈ namesIn front ++ [] := by
    simpa using subset
  rw [warningsIn_listedRun valid (append_comma_ne_empty front back),
    warningsIn_listedRun valid frontNonempty, namesIn_append, repeats_append,
    repeats_of_seen known, List.map_append]

variable [LawfulSchema σ]

/-- With a valid format, the run of a list succeeds if and only if its names are resolved. -/
theorem outcome_listedRun
    (textual : ∀ column ∈ Schema.columns table, IsTextual column)
    (valid : NameFormat.validate (.text format) = .ok ())
    {names : String} (nonempty : names ≠ "") :
    (listedRun table format useLocale locale names).outcome =
      (resolveAll table (requestedNames names)).map fun columns =>
        block (.ofOption useLocale) (localeLiteral locale)
          (columns.map (textualGetter format)) := by
  rw [listedRun, outcome_generate, Getter.selected]
  simp only [valid, ok_bind, columns_of_names table nonempty]
  cases resolved : resolveAll table (requestedNames names) with
  | error fault =>
      rfl
  | ok columns =>
      have named : columns.mapM
            (Getter.ofColumn ⟨.text format, .text names, useLocale, locale⟩) =
          .ok (columns.map (textualGetter format)) := by
        apply mapM_ofColumn_of_textual (.text format)
        intro column member
        exact textual column ((mem_of_resolveAll resolved).1 column member)
      rw [ok_bind, named]
      rfl

/-! ## Joined lists -/

theorem outcome_listedRun_disjoint
    (textual : ∀ column ∈ Schema.columns table, IsTextual column)
    (valid : NameFormat.validate (.text format) = .ok ())
    {front back : String} (frontNonempty : front ≠ "") (backNonempty : back ≠ "")
    (disjoint : ∀ name ∈ namesIn front, name ∉ namesIn back) :
    (listedRun table format useLocale locale (front ++ "," ++ back)).outcome =
      followedBy (listedRun table format useLocale locale front).outcome
        (listedRun table format useLocale locale back).outcome := by
  rw [outcome_listedRun textual valid (append_comma_ne_empty front back),
    outcome_listedRun textual valid frontNonempty,
    outcome_listedRun textual valid backNonempty,
    requestedNames_append_of_disjoint disjoint, resolveAll_append]
  cases resolvedFront : resolveAll table (requestedNames front) with
  | error fault =>
      rfl
  | ok frontColumns =>
      cases resolvedBack : resolveAll table (requestedNames back) with
      | error fault =>
          rfl
      | ok backColumns =>
          have frontSome : frontColumns.map (textualGetter format) ≠ [] := by
            simpa using ne_nil_of_resolveAll resolvedFront (requestedNames_ne_nil front)
          have backSome : backColumns.map (textualGetter format) ≠ [] := by
            simpa using ne_nil_of_resolveAll resolvedBack (requestedNames_ne_nil back)
          have joined := block_append (.ofOption useLocale) (localeLiteral locale)
            frontSome backSome
          rw [← List.map_append] at joined
          exact congrArg Except.ok joined

/-- A list that names nothing else changes neither the names asked for nor the outcome. -/
theorem outcome_listedRun_subset
    (textual : ∀ column ∈ Schema.columns table, IsTextual column)
    (valid : NameFormat.validate (.text format) = .ok ())
    {front back : String} (frontNonempty : front ≠ "")
    (subset : ∀ name ∈ namesIn back, name ∈ namesIn front) :
    (listedRun table format useLocale locale (front ++ "," ++ back)).outcome =
      (listedRun table format useLocale locale front).outcome := by
  rw [outcome_listedRun textual valid (append_comma_ne_empty front back),
    outcome_listedRun textual valid frontNonempty, requestedNames_append_of_subset subset]

end Running

/--
For a table of textual columns, a list that names nothing that another one names
can be generated apart from it, and one that names nothing else can be left out,
but for a warning for each of its names.
-/
theorem listedRun_joined
    [LawfulSchema σ] (table : σ)
    (textual : ∀ column ∈ Schema.columns table, IsTextual column)
    (format : String) (useLocale locale : Value)
    (front back : String) (frontNonempty : front ≠ "") (backNonempty : back ≠ "") :
    ((∀ name ∈ namesIn front, name ∉ namesIn back) →
      (listedRun table format useLocale locale (front ++ "," ++ back)).outcome =
        followedBy (listedRun table format useLocale locale front).outcome
          (listedRun table format useLocale locale back).outcome) ∧
      ((∀ name ∈ namesIn back, name ∈ namesIn front) →
        (listedRun table format useLocale locale (front ++ "," ++ back)).outcome =
            (listedRun table format useLocale locale front).outcome ∧
          (NameFormat.validate (.text format) = .ok () →
            warningsIn (listedRun table format useLocale locale (front ++ "," ++ back)).log =
              warningsIn (listedRun table format useLocale locale front).log ++
                (namesIn back).map repetitionEntry)) := by
  cases checked : NameFormat.validate (.text format) with
  | error fault =>
      rw [outcome_listedRun_of_invalid checked, outcome_listedRun_of_invalid checked,
        outcome_listedRun_of_invalid checked]
      constructor
      · intro _
        rfl
      · intro _
        exact ⟨rfl, nofun⟩
  | ok valid =>
      constructor
      · intro disjoint
        exact outcome_listedRun_disjoint textual checked frontNonempty backNonempty disjoint
      · intro subset
        constructor
        · exact outcome_listedRun_subset textual checked frontNonempty subset
        · intro _
          exact warningsIn_listedRun_subset checked frontNonempty subset

/-- Lists with blanks, repetitions of their own, and a comma at the end. -/
theorem listedRun_joined_library :
    (∀ column ∈ Schema.columns library, IsTextual column) ∧
      (listedRun library "get%s" (.bool true) (.text "de")
          ("made_on , made_on" ++ "," ++ "sold_at,")).outcome =
        followedBy
          (listedRun library "get%s" (.bool true) (.text "de") "made_on , made_on").outcome
          (listedRun library "get%s" (.bool true) (.text "de") "sold_at,").outcome ∧
      warningsIn (listedRun library "get%s" (.bool true) (.text "de")
          ("sold_at,made_on" ++ "," ++ "made_on, sold_at ")).log =
        warningsIn (listedRun library "get%s" (.bool true) (.text "de") "sold_at,made_on").log ++
          [repetitionEntry "made_on", repetitionEntry "sold_at"] := by
  have textual := textual_library.columns
  have valid : NameFormat.validate (.text "get%s") = .ok () := by
    rfl
  have apart := (listedRun_joined library textual "get%s" (.bool true) (.text "de")
    "made_on , made_on" "sold_at," (by decide) (by decide)).1 (by decide +kernel)
  have added := ((listedRun_joined library textual "get%s" (.bool true) (.text "de")
    "sold_at,made_on" "made_on, sold_at " (by decide) (by decide)).2 (by decide +kernel)).2 valid
  have names : namesIn "made_on, sold_at " = ["made_on", "sold_at"] := by
    decide +kernel
  rw [names] at added
  exact ⟨textual, apart, added⟩

end DateGetters.Proofs.JoinedLists
