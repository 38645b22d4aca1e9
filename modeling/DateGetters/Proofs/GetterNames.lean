import DateGetters.Proofs.OptionReading
import DateGetters.Proofs.RequestedNames
import Mathlib.Data.List.Nodup
import Mathlib.Data.Set.List

/-!
# Which getters share a name

A valid format puts one text in front of an identifier and one behind it, so two
getters have the same name if and only if the identifiers of their columns are
the same.  The columns of a table have different names, but an identifier is
derived from a name with loss, and nothing keeps two of them apart: a generated
block can define one method twice.
-/

namespace DateGetters.Proofs.GetterNames

open DateGetters.Proofs.ColumnSelection
open DateGetters.Proofs.GenerationOutcome
open DateGetters.Proofs.GetterRendering
open DateGetters.Proofs.OptionReading
open DateGetters.Proofs.Outcomes
open DateGetters.Proofs.Placeholders
open DateGetters.Proofs.RequestedNames
open DateGetters.Proofs.SchemaLookup

/-! ## Columns with derived identifiers -/

/-- A column without an identifier of its own. -/
def derivedColumn (column : String × Value) : Column :=
  ⟨.text column.1, column.2, .text (identifier column.1)⟩

/-- The table of columns that are declared by a name and a type. -/
def derivedTable (name : Value) (declared : List (String × Value)) : Outcome Table := do
  let columns ← declared.mapM fun column => Column.make (.text column.1) column.2 .null
  Table.make name columns

/-- The getter of a column without an identifier of its own. -/
def derivedGetter (format name : String) : Getter :=
  ⟨NameFormat.fill format (identifier name), name⟩

theorem names_derivedColumn (declared : List (String × Value)) :
    (declared.map derivedColumn).map Column.name = (declared.map Prod.fst).map Value.text := by
  rw [List.map_map, List.map_map]
  rfl

/-- Declarations are accepted if and only if their names differ. -/
theorem derivedTable_eq_ok_iff
    (name : Value) (declared : List (String × Value)) (table : Table) :
    derivedTable name declared = .ok table ↔
      table = ⟨name, declared.map derivedColumn⟩ ∧ (declared.map Prod.fst).Nodup := by
  have each : (fun column : String × Value => Column.make (.text column.1) column.2 .null) =
      fun column => (pure (derivedColumn column) : Outcome Column) := by
    funext column
    exact Column.make_text column.1 column.2
  rw [derivedTable, each, List.mapM_pure]
  exact make_eq_ok_iff (names_derivedColumn declared) table

/-! ## Selected columns differ -/

theorem text_injective : Function.Injective Value.text := by
  intro first second same
  exact Value.text.inj same

/-- From a table whose columns have different names, no name is selected twice. -/
theorem nodup_of_columns
    {σ : Type} [Schema σ] [LawfulSchema σ] {table : σ}
    (distinct : ((Schema.columns table).map Column.name).Nodup)
    {option : Value} {selected : List Column}
    (done : (Selection.columns table option).outcome = .ok selected) :
    (selected.map Column.name).Nodup := by
  rcases sublist_or_resolved_of_columns done with some | ⟨names, resolved⟩
  · exact distinct.sublist (some.map Column.name)
  · rw [(mem_of_resolveAll resolved).2]
    exact (nodup_requestedNames names).map text_injective

/-- A generated text, and the names of the columns whose getters it holds. -/
structure DerivedBlock (table : Table) (options : Options) (format : String)
    (names : List String) (text : String) : Prop where
  selection :
    ∃ columns, columns.map Column.name = names.map Value.text ∧
      SelectedGetters table options columns (names.map (derivedGetter format))
  source :
    text = block (.ofOption options.useLocale) (localeLiteral options.defaultLocale)
      (names.map (derivedGetter format))
  distinct : names.Nodup

theorem ofColumn_derivedColumn
    {options : Options} {format : String}
    (shows : Shows options.nameFormat format)
    (column : String × Value) :
    Getter.ofColumn options (derivedColumn column) = .ok (derivedGetter format column.1) := by
  rw [Getter.ofColumn, derivedColumn, methodName_of_shows shows]
  rfl

theorem getters_of_derived
    {options : Options} {format : String}
    (shows : Shows options.nameFormat format)
    {declared : List (String × Value)} {getters : List Getter}
    (named : List.Forall₂ (fun column getter => Getter.ofColumn options column = .ok getter)
      (declared.map derivedColumn) getters) :
    getters = (declared.map Prod.fst).map (derivedGetter format) := by
  have expected : (declared.map derivedColumn).mapM (Getter.ofColumn options) =
      .ok ((declared.map Prod.fst).map (derivedGetter format)) := by
    rw [mapM_eq_ok_iff, List.map_map, List.forall₂_map_left_iff, List.forall₂_map_right_iff,
      List.forall₂_same]
    intro column _
    exact ofColumn_derivedColumn shows column
  have found := (mapM_eq_ok_iff _ _ _).mpr named
  rw [expected] at found
  exact (Except.ok.inj found).symm

theorem methodNames_nodup_iff
    {format : String}
    (valid : NameFormat.occurrences format.toList = 1)
    (names : List String) :
    ((names.map (derivedGetter format)).map Getter.methodName).Nodup ↔
      (names.map identifier).Nodup := by
  have filled : (names.map (derivedGetter format)).map Getter.methodName =
      (names.map identifier).map (NameFormat.fill format) := by
    rw [List.map_map, List.map_map]
    rfl
  rw [filled]
  exact List.nodup_map_iff (fill_injective valid)

theorem occurrences_of_validate
    {nameFormat : Value} {format : String}
    (shows : Shows nameFormat format)
    (valid : NameFormat.validate nameFormat = .ok ()) :
    NameFormat.occurrences format.toList = 1 := by
  rw [validate_of_shows shows] at valid
  by_contra other
  rw [if_neg other] at valid
  cases valid

/-! ## Columns of dates -/

/-- Columns of dates. -/
def dated (names : List String) : List (String × Value) :=
  names.map fun name => (name, .text "DATE")

theorem names_dated (names : List String) : (dated names).map Prod.fst = names := by
  rw [dated, List.map_map]
  exact List.map_id names

/-- The table of some columns of dates. -/
def datedTable (name : String) (names : List String) : Table :=
  ⟨.text name, (dated names).map derivedColumn⟩

/-- What is generated from columns of dates without any parameters. -/
def datedText (names : List String) : String :=
  block .basic (localeLiteral (.text Options.builtinLocale))
    (names.map (derivedGetter Options.builtinNameFormat))

theorem selectedGetters_dated (name : String) (names : List String) :
    SelectedGetters (datedTable name names) Options.builtin
      ((dated names).map derivedColumn) (names.map (derivedGetter Options.builtinNameFormat)) where
  selection := by
    have textual : ∀ column ∈ (dated names).map derivedColumn, IsTextual column := by
      simp [dated, derivedColumn, IsTextual]
    have temporal : isTemporalText "DATE" = true := by
      decide +kernel
    have all : ((dated names).map derivedColumn).filter isTemporal =
        (dated names).map derivedColumn := by
      rw [List.filter_eq_self]
      intro column member
      simp only [dated, List.map_map, List.mem_map] at member
      rcases member with ⟨other, -, rfl⟩
      simpa [isTemporal, derivedColumn] using temporal
    rw [columns_of_silent _ rfl, Run.outcome_ofExcept]
    exact (temporal_of_textual textual).trans (congrArg _ all)
  named := by
    simp only [dated, List.map_map, List.forall₂_map_left_iff, List.forall₂_map_right_iff,
      List.forall₂_same]
    intro other _
    exact ofColumn_derivedColumn (.text _) (other, .text "DATE")

theorem generateWith_dated (name : String) (names : List String) :
    (generateWith (datedTable name names) .null).outcome = .ok (datedText names) := by
  have read : Options.ofValue .null = .ok Options.builtin := by
    rfl
  rw [generateWith_of_ofValue (datedTable name names) read, generate_eq_ok_iff]
  exact ⟨rfl, _, _, selectedGetters_dated name names, rfl⟩

theorem derivedTable_dated
    (name : String) {names : List String}
    (distinct : names.Nodup) :
    derivedTable (.text name) (dated names) = .ok (datedTable name names) := by
  rw [derivedTable_eq_ok_iff, names_dated]
  exact ⟨rfl, distinct⟩

theorem derivedBlock_dated
    (name : String) {names : List String}
    (distinct : names.Nodup) :
    DerivedBlock (datedTable name names) Options.builtin Options.builtinNameFormat names
      (datedText names) where
  selection := by
    refine ⟨_, ?_, selectedGetters_dated name names⟩
    rw [names_derivedColumn, names_dated]
  source := rfl
  distinct := distinct

/-! ## The names of generated getters -/

/--
Whatever is generated from a table without identifiers of its own has one getter
for each of some different columns, and the names of these getters differ if
and only if the identifiers that are derived from the columns do.
-/
theorem generateWith_names_nodup_iff
    (name : Value) (declared : List (String × Value)) (table : Table)
    (accepted : derivedTable name declared = .ok table)
    (parameters : Value) (text : String)
    (done : (generateWith table parameters).outcome = .ok text) :
    ∃ options format names,
      Options.ofValue parameters = .ok options ∧
        DerivedBlock table options format names text ∧
        (((names.map (derivedGetter format)).map Getter.methodName).Nodup ↔
          (names.map identifier).Nodup) := by
  rcases (derivedTable_eq_ok_iff name declared table).mp accepted with ⟨rfl, distinct⟩
  rw [generateWith, Run.outcome_bind, Run.outcome_liftM, bind_eq_ok_iff] at done
  rcases done with ⟨options, read, generated⟩
  cases normal_of_ofValue read with
  | @texts _ _ format _ formatShows _ listing flag =>
  rcases (generate_eq_ok_iff _ _ _).mp generated with ⟨valid, columns, getters, chosen, source⟩
  have columnsDistinct : ((declared.map derivedColumn).map Column.name).Nodup := by
    rw [names_derivedColumn]
    exact distinct.map text_injective
  have derived : columns ∈ Set.range (List.map derivedColumn) := by
    rw [Set.range_list_map]
    intro column member
    rcases List.mem_map.mp (mem_of_columns chosen.selection column member) with ⟨pair, -, same⟩
    exact ⟨pair, same⟩
  rcases derived with ⟨selected, rfl⟩
  have sameGetters := getters_of_derived formatShows chosen.named
  subst sameGetters
  refine ⟨_, format, selected.map Prod.fst, read, ?_, ?_⟩
  · constructor
    case selection =>
      exact ⟨_, names_derivedColumn selected, chosen⟩
    case source =>
      exact source
    case distinct =>
      have different := nodup_of_columns columnsDistinct chosen.selection
      rw [names_derivedColumn] at different
      exact different.of_map
  · exact methodNames_nodup_iff (occurrences_of_validate formatShows valid) _

/-- Generation from an accepted table succeeds, and the names of its getters can be compared. -/
theorem generateWith_names_nodup_iff_orders :
    derivedTable (.text "orders") (dated ["placed_on", "paid_on"]) =
        .ok (datedTable "orders" ["placed_on", "paid_on"]) ∧
      (generateWith (datedTable "orders" ["placed_on", "paid_on"]) .null).outcome =
        .ok (datedText ["placed_on", "paid_on"]) ∧
      ∃ options format names,
        Options.ofValue .null = .ok options ∧
          DerivedBlock (datedTable "orders" ["placed_on", "paid_on"]) options format names
            (datedText ["placed_on", "paid_on"]) ∧
          (((names.map (derivedGetter format)).map Getter.methodName).Nodup ↔
            (names.map identifier).Nodup) := by
  have distinct : ["placed_on", "paid_on"].Nodup := by
    decide
  have accepted := derivedTable_dated "orders" distinct
  have done := generateWith_dated "orders" ["placed_on", "paid_on"]
  exact ⟨accepted, done, generateWith_names_nodup_iff _ _ _ accepted .null _ done⟩

/-- Two columns of an accepted table, spelled differently, get getters of one name. -/
theorem generateWith_names_repeat :
    derivedTable (.text "orders") (dated ["placed_on", "placedOn"]) =
        .ok (datedTable "orders" ["placed_on", "placedOn"]) ∧
      (generateWith (datedTable "orders" ["placed_on", "placedOn"]) .null).outcome =
        .ok (datedText ["placed_on", "placedOn"]) ∧
      DerivedBlock (datedTable "orders" ["placed_on", "placedOn"]) Options.builtin
        Options.builtinNameFormat ["placed_on", "placedOn"] (datedText ["placed_on", "placedOn"]) ∧
      (["placed_on", "placedOn"].map (derivedGetter Options.builtinNameFormat)).map
          Getter.methodName =
        ["getPlacedOnUsingLocale", "getPlacedOnUsingLocale"] := by
  have distinct : ["placed_on", "placedOn"].Nodup := by
    decide
  exact ⟨derivedTable_dated "orders" distinct, generateWith_dated "orders" _,
    derivedBlock_dated "orders" distinct, by decide +kernel⟩

end DateGetters.Proofs.GetterNames
