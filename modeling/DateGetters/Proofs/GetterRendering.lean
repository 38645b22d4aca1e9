import DateGetters.Generation
import DateGetters.Proofs.Outcomes

/-!
# Rendering the selected columns

A getter that is to be rendered is known by its name and the name of its column.
`Getter.selected` gives the getters that a table and options call for, without
rendering any; generation succeeds exactly if it does, with the sources of these
getters joined by line feeds.  Those getters are the getters of the selected
columns, one for each.
-/

namespace DateGetters.Proofs.GetterRendering

open DateGetters.Proofs.Outcomes

variable {σ : Type} [Schema σ]

/-- A getter to be rendered: its name and the name of the column that it reads. -/
structure Getter where
  methodName : String
  columnName : String
deriving DecidableEq, Repr

namespace Getter

/-- The getter of a column, whose name comes from the name format and the identifier. -/
def ofColumn (options : Options) (column : Column) : Outcome Getter :=
  (NameFormat.methodName options.nameFormat column.identifier).map
    fun methodName => ⟨methodName, column.name.toText⟩

/-- The getters that a table and options call for, in the order of the selection. -/
def selected (table : σ) (options : Options) : Outcome (List Getter) := do
  NameFormat.validate options.nameFormat
  let columns ← (Selection.columns table options.columns).outcome
  columns.mapM (ofColumn options)

/-- What the slots of a template are filled with for a getter. -/
def fillings (literal : String) (getter : Getter) : Fillings :=
  ⟨getter.methodName, getter.columnName, literal⟩

@[simp]
theorem textFor_methodName (literal : String) (getter : Getter) :
    (getter.fillings literal).textFor .methodName = getter.methodName := rfl

@[simp]
theorem textFor_columnName (literal : String) (getter : Getter) :
    (getter.fillings literal).textFor .columnName = getter.columnName := rfl

@[simp]
theorem textFor_localeLiteral (literal : String) (getter : Getter) :
    (getter.fillings literal).textFor .localeLiteral = literal := rfl

/-- The source of a getter. -/
def source (kind : TemplateKind) (literal : String) (getter : Getter) : String :=
  Template.fill kind (getter.fillings literal)

end Getter

open Getter

/-- The sources of getters, joined by line feeds. -/
def block (kind : TemplateKind) (literal : String) (getters : List Getter) : String :=
  "\n".intercalate (getters.map (source kind literal))

/-! ## Outcomes -/

theorem outcome_columnGetter (options : Options) (column : Column) :
    (columnGetter options column).outcome =
      (ofColumn options column).map
        (source (.ofOption options.useLocale) (localeLiteral options.defaultLocale)) := by
  rw [columnGetter, ofColumn]
  cases named : NameFormat.methodName options.nameFormat column.identifier with
  | error fault =>
      rfl
  | ok methodName =>
      rfl

theorem outcome_columnGetters (options : Options) (columns : List Column) :
    (columnGetters options columns).outcome =
      (columns.mapM (ofColumn options)).map (List.map
        (source (.ofOption options.useLocale) (localeLiteral options.defaultLocale))) := by
  induction columns with
  | nil =>
      rfl
  | cons column others ih =>
      rw [columnGetters, List.mapM_cons]
      simp only [Run.outcome_bind, Run.outcome_pure, outcome_columnGetter, ih]
      cases ofColumn options column with
      | error fault =>
          rfl
      | ok getter =>
          cases others.mapM (ofColumn options) <;> rfl

/-- Generation gives the block of the getters that the table and the options call for. -/
theorem outcome_generate (table : σ) (options : Options) :
    (generate table options).outcome =
      (selected table options).map
        (block (.ofOption options.useLocale) (localeLiteral options.defaultLocale)) := by
  rw [generate, selected]
  simp only [Run.outcome_bind, Run.outcome_liftM, outcome_columnGetters]
  cases NameFormat.validate options.nameFormat with
  | error fault =>
      rfl
  | ok valid =>
      rw [ok_bind, ok_bind]
      cases (Selection.columns table options.columns).outcome with
      | error fault =>
          rfl
      | ok columns =>
          rw [ok_bind, ok_bind]
          cases columns.mapM (ofColumn options) <;> rfl

/-! ## Getters of the selected columns -/

/-- The columns that a table and options select, and one getter for each of them. -/
structure SelectedGetters (table : σ) (options : Options) (columns : List Column)
    (getters : List Getter) : Prop where
  selection : (Selection.columns table options.columns).outcome = .ok columns
  named :
    List.Forall₂ (fun column getter => ofColumn options column = .ok getter) columns getters

/-- A table and options select one list of getters at most. -/
theorem SelectedGetters.unique
    {table : σ} {options : Options} {columns otherColumns : List Column}
    {getters otherGetters : List Getter}
    (chosen : SelectedGetters table options columns getters)
    (otherChosen : SelectedGetters table options otherColumns otherGetters) :
    otherGetters = getters := by
  have sameColumns : otherColumns = columns := by
    have selection := otherChosen.selection
    rw [chosen.selection] at selection
    exact (Except.ok.inj selection).symm
  have named := (mapM_eq_ok_iff _ _ _).mpr chosen.named
  have otherNamed := (mapM_eq_ok_iff _ _ _).mpr otherChosen.named
  rw [sameColumns, named] at otherNamed
  exact (Except.ok.inj otherNamed).symm

/-- Generation succeeds with the block of the getters of the selected columns, and only so. -/
theorem generate_eq_ok_iff (table : σ) (options : Options) (text : String) :
    (generate table options).outcome = .ok text ↔
      NameFormat.validate options.nameFormat = .ok () ∧
        ∃ columns getters, SelectedGetters table options columns getters ∧
          text = block (.ofOption options.useLocale)
            (localeLiteral options.defaultLocale) getters := by
  simp only [outcome_generate, selected, map_eq_ok_iff, bind_eq_ok_iff, mapM_eq_ok_iff]
  constructor
  · rintro ⟨getters, ⟨_, valid, columns, selection, named⟩, rfl⟩
    exact ⟨valid, columns, getters, ⟨selection, named⟩, rfl⟩
  · rintro ⟨valid, columns, getters, chosen, rfl⟩
    exact ⟨getters, ⟨(), valid, columns, chosen.selection, chosen.named⟩, rfl⟩

end DateGetters.Proofs.GetterRendering
