import DateGetters.Proofs.CaseMapping
import DateGetters.Proofs.ColumnSelection
import DateGetters.Proofs.FaultOrigins

/-!
# The two kinds of tables are interchangeable

A mapped table declares the types of its columns trimmed and in capitals.  The
table that is assembled from the same keys and the declarations as they are
written generates the same getters and the same log, and fails in the same ways;
only the type that a failure reports is not normalized there.

Both tables have columns of the same names, so they are looked up alike, and
whether a type is temporal does not change when the type is normalized.
-/

namespace DateGetters.Proofs.TableInterchange

open DateGetters.Proofs.CaseMapping
open DateGetters.Proofs.ColumnSelection
open DateGetters.Proofs.FaultOrigins
open DateGetters.Proofs.Outcomes
open DateGetters.Proofs.SchemaLookup

variable {α β γ δ : Type}

/-! ## Normalized types -/

/-- A type, if it is a text, trimmed and in capitals. -/
def normalType : Value → Value
  | .text declared => .text (Text.upper (Text.trim declared))
  | other => other

/-- A column with its type normalized. -/
def normalized (column : Column) : Column :=
  { column with declaredType := normalType column.declaredType }

/-- A failure with the type that it reports normalized. -/
def reported : Fault → Fault
  | .notTemporal column table declared => .notTemporal column table (normalType declared)
  | other => other

/-- A normalized type is temporal if and only if it was before. -/
theorem isTemporalText_normalized (declared : String) :
    isTemporalText (Text.upper (Text.trim declared)) = isTemporalText declared := by
  rw [isTemporalText, isTemporalText, trim_upper_trim, upper_upper]

theorem isTemporalType_normalType (declared : Value) :
    isTemporalType (normalType declared) = isTemporalType declared := by
  cases declared with
  | text content =>
      rw [normalType, isTemporalType_text, isTemporalType_text, isTemporalText_normalized]
  | _ =>
      rfl

theorem reported_eq
    {fault : Fault}
    (free : TypeFree (.error fault : Outcome α)) :
    reported fault = fault := by
  cases fault with
  | notTemporal column table declared =>
      exact absurd rfl (free column table declared)
  | _ =>
      rfl

theorem mapError_reported
    {outcome : Outcome α}
    (free : TypeFree outcome) :
    outcome.mapError reported = outcome := by
  cases outcome with
  | error fault =>
      exact congrArg Except.error (reported_eq free)
  | ok value =>
      rfl

/-! ## Outcomes and runs on normalized columns -/

/-- An outcome that gives a changed value, or reports a normalized type. -/
def adjusted (change : α → β) (outcome : Outcome α) : Outcome β :=
  (outcome.map change).mapError reported

/-- A run that ends with an adjusted outcome and has the same log. -/
def translated (change : α → β) (run : Logged α) : Logged β :=
  ⟨run.log, adjusted change run.outcome⟩

theorem adjusted_id
    {outcome : Outcome α}
    (free : TypeFree outcome) :
    adjusted id outcome = outcome := by
  rw [adjusted, Except.map_id, id_eq, mapError_reported free]

/-- Outcomes are adjusted part by part. -/
theorem adjusted_bind
    {first : Outcome α} {change : α → β}
    {next : α → Outcome γ} {changedNext : β → Outcome δ} {finish : γ → δ}
    (same : ∀ value, changedNext (change value) = adjusted finish (next value)) :
    adjusted change first >>= changedNext = adjusted finish (first >>= next) := by
  cases first with
  | error fault =>
      rfl
  | ok value =>
      exact same value

/-- A part that does not fail over a type is the same in both. -/
theorem bind_adjusted
    {first : Outcome α} {next : α → Outcome γ} {changedNext : α → Outcome δ} {finish : γ → δ}
    (free : TypeFree first)
    (same : ∀ value, changedNext value = adjusted finish (next value)) :
    first >>= changedNext = adjusted finish (first >>= next) := by
  have byParts : adjusted id first >>= changedNext = adjusted finish (first >>= next) :=
    adjusted_bind same
  rwa [adjusted_id free] at byParts

theorem translated_bind
    {first : Logged α} {change : α → β}
    {next : α → Logged γ} {changedNext : β → Logged δ} {finish : γ → δ}
    (same : ∀ value, changedNext (change value) = translated finish (next value)) :
    translated change first >>= changedNext = translated finish (first >>= next) := by
  rcases first with ⟨log, fault | value⟩
  · rfl
  · have changed : (translated change ⟨log, .ok value⟩).outcome = .ok (change value) := rfl
    have unchanged : (⟨log, .ok value⟩ : Logged α).outcome = .ok value := rfl
    rw [Run.bind_of_ok changedNext changed, Run.bind_of_ok next unchanged, same value]
    rfl

theorem bind_translated
    {first : Logged α} {next : α → Logged γ} {changedNext : α → Logged δ} {finish : γ → δ}
    (free : TypeFree first.outcome)
    (same : ∀ value, changedNext value = translated finish (next value)) :
    first >>= changedNext = translated finish (first >>= next) := by
  have byParts : translated id first >>= changedNext = translated finish (first >>= next) :=
    translated_bind same
  rwa [translated, adjusted_id free] at byParts

/-! ## Tables alike -/

variable {σ τ : Type} [Schema σ] [Schema τ]

/-- A table and one of the same name and columns with their types normalized. -/
structure Alike (plain : σ) (other : τ) : Prop where
  name : Schema.name other = Schema.name plain
  columns : Schema.columns other = (Schema.columns plain).map normalized

theorem find?_normalized (columns : List Column) (name : Value) :
    (columns.map normalized).find? (·.name.same name) =
      (columns.find? (·.name.same name)).map normalized :=
  List.find?_map ..

section Selecting

variable {plain : σ} {other : τ} (alike : Alike plain other)

theorem temporal_normalized (columns : List Column) :
    Selection.temporal (columns.map normalized) =
      adjusted (List.map normalized) (Selection.temporal columns) := by
  induction columns with
  | nil =>
      rfl
  | cons column others ih =>
      have sameType : isTemporalType (normalized column).declaredType =
          isTemporalType column.declaredType :=
        isTemporalType_normalType column.declaredType
      rw [List.map_cons, Selection.temporal, Selection.temporal, ih, sameType]
      apply bind_adjusted (typeFree_isTemporalType column.declaredType)
      intro wanted
      apply adjusted_bind
      intro rest
      cases wanted <;> rfl

variable [LawfulSchema σ] [LawfulSchema τ]

include alike

theorem resolve_alike (name : String) :
    Selection.resolve other (.text name) =
      adjusted normalized (Selection.resolve plain (.text name)) := by
  rw [resolve_text, resolve_text, alike.columns, alike.name, find?_normalized]
  cases (Schema.columns plain).find? (·.name.same (.text name)) with
  | none =>
      rfl
  | some column =>
      have sameType : isTemporalType (normalized column).declaredType =
          isTemporalType column.declaredType :=
        isTemporalType_normalType column.declaredType
      simp only [Option.map_some, sameType]
      apply bind_adjusted (typeFree_isTemporalType column.declaredType)
      intro temporal
      cases temporal <;> rfl

theorem resolveAll_alike (names : List String) :
    Selection.resolveAll other names =
      adjusted (List.map normalized) (Selection.resolveAll plain names) := by
  induction names with
  | nil =>
      rfl
  | cons name others ih =>
      rw [Selection.resolveAll, Selection.resolveAll, resolve_alike alike, ih]
      apply adjusted_bind
      intro column
      apply adjusted_bind
      intro rest
      rfl

/-- Tables that are alike have the same columns selected, and the log is the same. -/
theorem columns_alike (option : Value) :
    Selection.columns other option =
      translated (List.map normalized) (Selection.columns plain option) := by
  rw [Selection.columns, Selection.columns]
  cases option.isTruthy with
  | false =>
      rw [if_neg Bool.false_ne_true, if_neg Bool.false_ne_true, alike.columns,
        temporal_normalized]
      rfl
  | true =>
      rw [if_pos rfl, if_pos rfl]
      apply bind_translated (typeFree_split option)
      intro names
      rw [resolveAll_alike alike]
      rfl

end Selecting

/-! ## Generation from tables alike -/

theorem columnGetters_normalized (options : Options) (columns : List Column) :
    columnGetters options (columns.map normalized) = columnGetters options columns := by
  induction columns with
  | nil =>
      rfl
  | cons column others ih =>
      have first : columnGetter options (normalized column) = columnGetter options column := rfl
      rw [List.map_cons, columnGetters, columnGetters, first, ih]

section Generating

variable [LawfulSchema σ] [LawfulSchema τ] {plain : σ} {other : τ}
  (alike : Alike plain other)

include alike

theorem generate_alike (options : Options) :
    generate other options = translated id (generate plain options) := by
  rw [generate, generate]
  apply bind_translated (typeFree_validate options.nameFormat)
  intro checked
  rw [columns_alike alike]
  apply translated_bind
  intro columns
  rw [columnGetters_normalized]
  apply bind_translated (typeFree_columnGetters options columns)
  intro getters
  rw [alike.name]
  rfl

theorem generateWith_alike (parameters : Value) :
    generateWith other parameters = translated id (generateWith plain parameters) := by
  rw [generateWith, generateWith]
  apply bind_translated (typeFree_ofValue parameters)
  exact generate_alike alike

end Generating

/-! ## The same columns in both kinds of tables -/

section BothKinds

variable {κ : Type} (compile : κ → Compiled)

/-- A table assembled from the keys of mapped columns and what their types are compiled to, as it
is. -/
def assembled (name : String) (columns : List (TypedColumn κ)) : Outcome Table := do
  let plainColumns ← columns.mapM fun column =>
    Column.make (.text column.knownAs) (.text (compile column.type).text) .null
  Table.make (.text name) plainColumns

/-- A mapped column with what its type is compiled to, as it is. -/
def plainColumn (column : TypedColumn κ) : Column :=
  ⟨.text column.knownAs, .text (compile column.type).text, .text (identifier column.knownAs)⟩

theorem assembled_of_distinct
    (name : String) {columns : List (TypedColumn κ)}
    (distinct : (columns.map TypedColumn.knownAs).Nodup) :
    assembled compile name columns = .ok ⟨.text name, columns.map (plainColumn compile)⟩ := by
  have each : (fun column : TypedColumn κ =>
      Column.make (.text column.knownAs) (.text (compile column.type).text) .null) =
        fun column => (pure (plainColumn compile column) : Outcome Column) := by
    funext column
    exact Column.make_text _ _
  have named : (columns.map (plainColumn compile)).map Column.name =
      (columns.map TypedColumn.knownAs).map Value.text := by
    simp [plainColumn, Function.comp_def]
  rw [assembled, each, List.mapM_pure]
  exact (SchemaLookup.make_eq_ok_iff named _).mpr ⟨rfl, distinct⟩

theorem alike_ofColumns
    (name : String) (columns : List (TypedColumn κ))
    (distinct : (columns.map TypedColumn.knownAs).Nodup) :
    Alike (⟨.text name, columns.map (plainColumn compile)⟩ : Table)
      (MappedTable.ofColumns compile name columns distinct) where
  name := rfl
  columns := by
    have each : normalized ∘ plainColumn compile =
        KeyedColumn.toColumn ∘ TypedColumn.keyed compile := rfl
    show (columns.map (TypedColumn.keyed compile)).map KeyedColumn.toColumn =
      (columns.map (plainColumn compile)).map normalized
    rw [List.map_map, List.map_map, each]

theorem eq_ofColumns_of_makeWith
    {name : String} {columns : List (TypedColumn κ)} {table : MappedTable}
    (distinct : (columns.map TypedColumn.knownAs).Nodup)
    (made : MappedTable.makeWith compile name columns = .ok table) :
    table = MappedTable.ofColumns compile name columns distinct := by
  rw [MappedTable.makeWith] at made
  split at made
  · cases made
  · exact (Except.ok.inj made).symm

/--
For mapped columns with different keys, whatever their types are compiled to,
the mapped table and the table that is assembled from keys and compiled types
generate alike, whatever the parameters: the logs are the same, and so are the
outcomes, except that a failure over a type reports it normalized.  Normalizing
a type does not change whether it is temporal.
-/
theorem generateWith_interchange
    (name : String) (columns : List (TypedColumn κ))
    (distinct : (columns.map TypedColumn.knownAs).Nodup)
    (parameters : Value) :
    (∃ plain, assembled compile name columns = .ok plain ∧
      (generateWith (MappedTable.ofColumns compile name columns distinct) parameters).log =
          (generateWith plain parameters).log ∧
        (generateWith (MappedTable.ofColumns compile name columns distinct) parameters).outcome =
          (generateWith plain parameters).outcome.mapError reported) ∧
      (∀ table, MappedTable.makeWith compile name columns = .ok table →
        table = MappedTable.ofColumns compile name columns distinct) ∧
        ∀ declared : String,
          isTemporalText (Text.upper (Text.trim declared)) = isTemporalText declared := by
  have translatedRun :=
    generateWith_alike (alike_ofColumns compile name columns distinct) parameters
  constructor
  · refine ⟨_, assembled_of_distinct compile name distinct, ?_⟩
    constructor
    · rw [translatedRun]
      rfl
    · rw [translatedRun, translated, adjusted, Except.map_id, id_eq]
  · constructor
    · intro table made
      exact eq_ofColumns_of_makeWith compile distinct made
    · exact isTemporalText_normalized

end BothKinds

/-- Two columns whose types are declared in unusual ways. -/
def orders : List MappedColumn := [
  ⟨"placed", some "placed on", .custom " dateﬁme "⟩,
  ⟨"shipped", none, .custom "\ttimeﬅamp\n"⟩]

/-- Parameters that ask for the first of these columns. -/
def askingPlaced : Value :=
  .map [(.text "columns", .text "placed on")]

theorem nodup_orders : (orders.map TypedColumn.knownAs).Nodup := by
  decide

/-- The mapped table of these columns. -/
def mappedOrders : MappedTable :=
  .ofColumns SqlType.compiled "orders" orders nodup_orders

/-- A ligature in a type is written out in capitals, and then it is one of a temporal type. -/
theorem generateWith_interchange_orders :
    (orders.map TypedColumn.knownAs).Nodup ∧
      isTemporalText (Text.upper (Text.trim "\ttimeﬅamp\n")) =
        isTemporalText "\ttimeﬅamp\n" ∧
      MappedTable.make "orders" orders = .ok mappedOrders ∧
      ∃ plain, assembled SqlType.compiled "orders" orders = .ok plain ∧
        (generateWith mappedOrders askingPlaced).log = (generateWith plain askingPlaced).log ∧
          (generateWith mappedOrders askingPlaced).outcome =
            (generateWith plain askingPlaced).outcome.mapError reported := by
  rcases generateWith_interchange SqlType.compiled "orders" orders nodup_orders askingPlaced with
    ⟨interchanged, -, temporal⟩
  exact ⟨nodup_orders, temporal _, rfl, interchanged⟩

end DateGetters.Proofs.TableInterchange
