import DateGetters.Proofs.GenerationTrace
import Mathlib.Data.List.Nodup

/-!
# Asking for all temporal columns

Without an option all temporal columns of a table are selected.  An option that
lists the names of these columns in their order, with any blanks around them,
selects the same columns, provided that each name comes back from the list as it
is: it holds no comma, and it neither begins nor ends with a blank.

The names of a table differ from each other, so that no name is dropped as a
repetition and each of them finds the column that it was taken from.  Nothing is
logged by either selection, and the runs of generation are the same.
-/

namespace DateGetters.Proofs.AutomaticSelection

open DateGetters.Proofs.ColumnSelection
open DateGetters.Proofs.GenerationTrace
open DateGetters.Proofs.RequestedNames
open DateGetters.Proofs.SchemaLookup
open DateGetters.Proofs.TextPieces
open DateGetters.Selection

variable {σ : Type} [Schema σ]

/-! ## Temporal columns and their names -/

/-- A table of columns that are named by different texts and whose types can be read. -/
structure Legible (table : σ) : Prop where
  named : ∀ column ∈ Schema.columns table, ∃ name : String, column.name = .text name
  distinct : ((Schema.columns table).map Column.name).Nodup
  typed : ∀ column ∈ Schema.columns table,
    ∃ answer, isTemporalType column.declaredType = .ok answer

/-- Whether the type of a column can be read and is temporal. -/
def hasTemporalType (column : Column) : Bool :=
  match isTemporalType column.declaredType with
  | .ok answer => answer
  | .error _ => false

def temporalColumns (table : σ) : List Column :=
  (Schema.columns table).filter hasTemporalType

/-- The names of the temporal columns, in the order of the table. -/
def temporalNames (table : σ) : List String :=
  (temporalColumns table).map (·.name.toText)

/-- A name that comes back from a list as it is. -/
structure Plain (name : String) : Prop extends Bare name where
  noComma : ',' ∉ name.toList

/-- An option that says nothing, or lists the names of all temporal columns. -/
inductive AsksForAll (table : σ) : Value → Prop where
  | absent : AsksForAll table .null
  | empty : AsksForAll table (.text "")
  | spelledOut (written : List String)
      (padded : List.Forall₂ Padded (temporalNames table) written) :
      AsksForAll table (.text (",".intercalate written))

section Tables

variable {table : σ}

theorem isTemporalType_of_legible
    (legible : Legible table)
    {column : Column}
    (member : column ∈ Schema.columns table) :
    isTemporalType column.declaredType = .ok (hasTemporalType column) := by
  rcases legible.typed column member with ⟨answer, type⟩
  rw [hasTemporalType, type]

theorem named_of_mem_temporalColumns
    (legible : Legible table)
    {column : Column}
    (member : column ∈ temporalColumns table) :
    column.name = .text column.name.toText := by
  rcases legible.named column (List.mem_of_mem_filter member) with ⟨name, named⟩
  rw [named]
  rfl

theorem nodup_temporalNames
    (legible : Legible table) :
    (temporalNames table).Nodup := by
  have spelled : (temporalNames table).map Value.text =
      (temporalColumns table).map Column.name := by
    rw [temporalNames, List.map_map]
    apply List.map_congr_left
    intro column member
    exact (named_of_mem_temporalColumns legible member).symm
  have chosen : ((temporalColumns table).map Column.name).Sublist
      ((Schema.columns table).map Column.name) :=
    List.filter_sublist.map Column.name
  apply List.Nodup.of_map Value.text
  rw [spelled]
  exact legible.distinct.sublist chosen

theorem map_trim_temporalNames
    (plain : ∀ name ∈ temporalNames table, Plain name) :
    (temporalNames table).map Text.trim = temporalNames table := by
  calc
    (temporalNames table).map Text.trim = (temporalNames table).map id := by
      apply List.map_congr_left
      intro name member
      exact (plain name member).trim_eq
    _ = temporalNames table := List.map_id _

/-! ## The selection -/

theorem columns_of_nothing
    (legible : Legible table)
    {option : Value}
    (silent : option.isTruthy = false) :
    Selection.columns table option = ⟨[], .ok (temporalColumns table)⟩ := by
  have selected : temporal (Schema.columns table) = .ok (temporalColumns table) :=
    temporal_of_typed fun column member => isTemporalType_of_legible legible member
  rw [columns_of_silent table silent, selected]
  rfl

end Tables

section Selecting

variable [LawfulSchema σ] {table : σ}

theorem resolve_of_mem_temporalColumns
    (legible : Legible table)
    {column : Column}
    (member : column ∈ temporalColumns table) :
    resolve table (.text column.name.toText) = .ok column := by
  rcases List.mem_filter.mp member with ⟨inTable, temporal⟩
  have named := named_of_mem_temporalColumns legible member
  have found := find?_of_mem legible.distinct inTable named
  rw [resolve_of_found found (isTemporalType_of_legible legible inTable), if_pos temporal]

/-- Each name finds the column that it was taken from. -/
theorem resolveAll_temporalNames
    (legible : Legible table) :
    resolveAll table (temporalNames table) = .ok (temporalColumns table) := by
  rw [resolveAll_eq_ok_iff, temporalNames, List.forall₂_map_left_iff, List.forall₂_same]
  intro column member
  exact resolve_of_mem_temporalColumns legible member

theorem columns_of_spelledOut
    (legible : Legible table)
    (plain : ∀ name ∈ temporalNames table, Plain name)
    {written : List String}
    (padded : List.Forall₂ Padded (temporalNames table) written)
    (nonempty : ",".intercalate written ≠ "") :
    Selection.columns table (.text (",".intercalate written)) =
      ⟨[], .ok (temporalColumns table)⟩ := by
  have someName : temporalNames table ≠ [] := by
    intro none
    rw [none, List.forall₂_nil_left_iff] at padded
    rw [padded] at nonempty
    exact nonempty rfl
  have names : namesIn (",".intercalate written) = temporalNames table := by
    rw [namesIn_of_padded padded someName fun name member => (plain name member).noComma,
      map_trim_temporalNames plain]
  have distinct := nodup_temporalNames legible
  rw [columns_of_names table nonempty, requestedNames, names, eraseDups_of_nodup distinct,
    repeats_of_nodup distinct, resolveAll_temporalNames legible]
  rfl

theorem columns_of_asksForAll
    (legible : Legible table)
    (plain : ∀ name ∈ temporalNames table, Plain name)
    {option : Value}
    (asks : AsksForAll table option) :
    Selection.columns table option = ⟨[], .ok (temporalColumns table)⟩ := by
  cases asks with
  | absent =>
      exact columns_of_nothing legible rfl
  | empty =>
      exact columns_of_nothing legible rfl
  | spelledOut written padded =>
      by_cases empty : ",".intercalate written = ""
      · rw [empty]
        exact columns_of_nothing legible rfl
      · exact columns_of_spelledOut legible plain padded empty

end Selecting

/--
All options that ask for the temporal columns of a table select them, in the
order of the table, and generation with any of them is the same run.
-/
theorem generate_of_asksForAll
    [LawfulSchema σ] (table : σ)
    (legible : Legible table)
    (plain : ∀ name ∈ temporalNames table, Plain name)
    (first second : Value)
    (asksFirst : AsksForAll table first) (asksSecond : AsksForAll table second) :
    Selection.columns table first = ⟨[], .ok (temporalColumns table)⟩ ∧
      Selection.columns table second = ⟨[], .ok (temporalColumns table)⟩ ∧
      ∀ nameFormat useLocale locale,
        generate table ⟨nameFormat, first, useLocale, locale⟩ =
          generate table ⟨nameFormat, second, useLocale, locale⟩ := by
  have selectedFirst := columns_of_asksForAll legible plain asksFirst
  have selectedSecond := columns_of_asksForAll legible plain asksSecond
  refine ⟨selectedFirst, selectedSecond, ?_⟩
  intro nameFormat useLocale locale
  exact generate_congr rfl (selectedFirst.trans selectedSecond.symm) rfl rfl fun column => rfl

/-- A table of two temporal columns and one whose type is not known. -/
def archive : Table :=
  ⟨.text "archive", [
    ⟨.text "made_on", .text "date", .text "MadeOn"⟩,
    ⟨.text "note", .null, .text "Note"⟩,
    ⟨.text "sold at", .text " TimeStamp ", .text "SoldAt"⟩]⟩

theorem legible_archive : Legible archive where
  named column member := by
    simp only [archive, Schema.columns, List.mem_cons, List.not_mem_nil, or_false] at member
    rcases member with rfl | rfl | rfl <;> exact ⟨_, rfl⟩
  distinct := by
    simp [archive, Schema.columns]
  typed column member := by
    simp only [archive, Schema.columns, List.mem_cons, List.not_mem_nil, or_false] at member
    rcases member with rfl | rfl | rfl <;> exact ⟨_, rfl⟩

theorem temporalNames_archive : temporalNames archive = ["made_on", "sold at"] := by
  have date : isTemporalText "date" = true := by
    decide +kernel
  have nothing : isTemporalText "" = false := by
    decide +kernel
  have timestamp : isTemporalText " TimeStamp " = true := by
    decide +kernel
  have unknown : isTemporalType .null = .ok false := by
    rw [isTemporalType, Value.orBlank_null, Value.asText_text, ← nothing]
    rfl
  simp [temporalNames, temporalColumns, archive, Schema.columns, hasTemporalType, date, unknown,
    timestamp]

/-- The names of the temporal columns, with blanks of several kinds around them. -/
def archiveNames : String :=
  "\u2003made_on ,sold at\u3000\t"

theorem asksForAll_archiveNames : AsksForAll archive (.text archiveNames) := by
  have padded : List.Forall₂ Padded (temporalNames archive)
      ["\u2003" ++ "made_on" ++ " ", "" ++ "sold at" ++ "\u3000\t"] := by
    rw [temporalNames_archive]
    refine .cons (.around _ _ ?_ ?_) (.cons (.around _ _ ?_ ?_) .nil)
    all_goals simp [Text.isBlank]
  exact .spelledOut _ padded

theorem plain_archive : ∀ name ∈ temporalNames archive, Plain name := by
  rw [temporalNames_archive]
  intro name member
  simp only [List.mem_cons, List.not_mem_nil, or_false] at member
  rcases member with rfl | rfl <;>
    exact ⟨⟨by simp [Text.isBlank], by simp [Text.isBlank]⟩, by decide⟩

/-- Listing both names is as good as listing none. -/
theorem generate_of_asksForAll_archive :
    Legible archive ∧ (∀ name ∈ temporalNames archive, Plain name) ∧
      AsksForAll archive (.text archiveNames) ∧ AsksForAll archive .null ∧
      generate archive ⟨.text "get%s", .text archiveNames, .bool true, .text "de"⟩ =
        generate archive ⟨.text "get%s", .null, .bool true, .text "de"⟩ := by
  have same := generate_of_asksForAll archive legible_archive plain_archive
    (.text archiveNames) .null asksForAll_archiveNames .absent
  exact ⟨legible_archive, plain_archive, asksForAll_archiveNames, .absent, same.2.2 _ _ _⟩

end DateGetters.Proofs.AutomaticSelection
