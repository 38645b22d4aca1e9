import DateGetters.Proofs.TableInterchange
import DateGetters.Proofs.RequestedNames
import Mathlib.Data.List.Nodup

/-!
# Tables answer coherently

A table is assembled from columns unless one of them has the name of an earlier
one, and then the first such column is at fault.  Where all names differ, asking
for a name and looking it up agree: either there is a column of the name, and no
other, or the name is denied and looking it up fails.

So a look-up that follows on asking never fails, and neither does a selection
because of one.  Mapped tables, whose columns are kept in a dictionary by their
keys, behave in the same way.
-/

namespace DateGetters.Proofs.TableCoherence

open DateGetters.Proofs.ColumnSelection
open DateGetters.Proofs.Outcomes
open DateGetters.Proofs.RequestedNames
open DateGetters.Proofs.SchemaLookup
open DateGetters.Proofs.TableInterchange
open DateGetters.Selection

/-! ## Assembling tables -/

/-- How assembling a table of some columns ends. -/
inductive Assembling (table : Value) (columns : List Column) : Outcome Table → Prop where
  /-- The fault is with the first column that has the name of an earlier one. -/
  | refused {before after : List Column} {column : Column}
      (split : columns = before ++ column :: after)
      (again : column.name ∈ before.map Column.name)
      (first : (before.map Column.name).Nodup) :
      Assembling table columns (.error (.duplicateColumn column.name table))
  | accepted
      (distinct : (columns.map Column.name).Nodup) :
      Assembling table columns (.ok ⟨table, columns⟩)

def HasTextName (column : Column) : Prop :=
  ∃ name : String, column.name = .text name

theorem exists_textNames
    {columns : List Column}
    (textual : ∀ column ∈ columns, HasTextName column) :
    ∃ names : List String, columns.map Column.name = names.map Value.text := by
  induction columns with
  | nil =>
      exact ⟨[], rfl⟩
  | cons column others ih =>
      rw [List.forall_mem_cons] at textual
      rcases textual with ⟨⟨name, named⟩, othersTextual⟩
      rcases ih othersTextual with ⟨names, othersNamed⟩
      exact ⟨name :: names, by rw [List.map_cons, List.map_cons, named, othersNamed]⟩

/-- One step: a column is at fault if its name was seen, and its name is seen from then on. -/
theorem columnFault?_cons
    (table : Value) (seen : List Value)
    {column : Column} (textual : HasTextName column)
    (others : List Column) :
    (column.name ∈ seen ∧
        Table.columnFault? table seen (column :: others) =
          some (.duplicateColumn column.name table)) ∨
      (column.name ∉ seen ∧
        Table.columnFault? table seen (column :: others) =
          Table.columnFault? table (seen ++ [column.name]) others) := by
  rcases textual with ⟨name, named⟩
  have seenIff : seen.any (·.same column.name) = true ↔ column.name ∈ seen := by
    simp only [named, List.any_eq_true, Value.same_text_iff, exists_eq_right]
  have isKey : (!column.name.isKey) = false := by
    rw [named]
    rfl
  rw [Table.columnFault?, isKey, if_neg Bool.false_ne_true]
  by_cases known : column.name ∈ seen
  · exact Or.inl ⟨known, if_pos (seenIff.mpr known)⟩
  · exact Or.inr ⟨known, if_neg (mt seenIff.mp known)⟩

/-- A fault is with a column whose name was seen, and no column before it has a fault. -/
theorem exists_of_columnFault?
    {table : Value} {seen : List Value} {columns : List Column} {fault : Fault}
    (textual : ∀ column ∈ columns, HasTextName column)
    (faulty : Table.columnFault? table seen columns = some fault) :
    ∃ before column after,
      columns = before ++ column :: after ∧
        column.name ∈ seen ++ before.map Column.name ∧
        Table.columnFault? table seen before = none ∧
        fault = .duplicateColumn column.name table := by
  -- The seen names are those given at first and those of the columns passed so far.
  induction columns generalizing seen with
  | nil =>
      cases faulty
  | cons column others ih =>
      rw [List.forall_mem_cons] at textual
      rcases columnFault?_cons table seen textual.1 others with ⟨known, step⟩ | ⟨isNew, step⟩
      · rw [step] at faulty
        refine ⟨[], column, others, rfl, ?_, rfl, (Option.some.inj faulty).symm⟩
        rwa [List.map_nil, List.append_nil]
      · rw [step] at faulty
        rcases ih textual.2 faulty with ⟨before, later, after, split, again, faultless, same⟩
        refine ⟨column :: before, later, after, ?_, ?_, ?_, same⟩
        · rw [split, List.cons_append]
        · rwa [List.append_assoc, List.singleton_append, ← List.map_cons] at again
        · rcases columnFault?_cons table seen textual.1 before with ⟨known, -⟩ | ⟨-, stepBefore⟩
          · exact absurd known isNew
          · rw [stepBefore, faultless]

theorem nodup_of_columnFault?
    {table : Value} {columns : List Column}
    (textual : ∀ column ∈ columns, HasTextName column)
    (faultless : Table.columnFault? table [] columns = none) :
    (columns.map Column.name).Nodup := by
  rcases exists_textNames textual with ⟨names, named⟩
  rw [named]
  exact ((columnFault?_eq_none_iff table [] named).mp faultless).1.map fun _ _ => Value.text.inj

theorem assembling_make
    (table : Value) {columns : List Column}
    (textual : ∀ column ∈ columns, HasTextName column) :
    Assembling table columns (Table.make table columns) := by
  cases faulty : Table.columnFault? table [] columns with
  | none =>
      rw [Table.make, faulty]
      exact .accepted (nodup_of_columnFault? textual faulty)
  | some fault =>
      rcases exists_of_columnFault? textual faulty with
        ⟨before, column, after, split, again, faultless, rfl⟩
      have beforeTextual : ∀ earlier ∈ before, HasTextName earlier := by
        intro earlier member
        apply textual
        rw [split]
        exact List.mem_append_left _ member
      rw [Table.make, faulty]
      exact .refused split again (nodup_of_columnFault? beforeTextual faultless)

/-! ## Asking for a name and looking it up -/

variable {σ : Type} [Schema σ]

/-- How asking for a name and looking it up end. -/
inductive LookedUp (table : σ) (name : String) : Outcome Bool → Outcome Column → Prop where
  /-- There is a column of the name, and no other. -/
  | found {before after : List Column} {column : Column}
      (split : Schema.columns table = before ++ column :: after)
      (named : column.name = .text name)
      (alone : ∀ other ∈ before ++ after, other.name ≠ .text name) :
      LookedUp table name (.ok true) (.ok column)
  | missing
      (unnamed : ∀ column ∈ Schema.columns table, column.name ≠ .text name) :
      LookedUp table name (.ok false) (.error (.noColumn (.text name) (Schema.name table)))

theorem lookedUp_of_nodup
    [LawfulSchema σ] {table : σ}
    (distinct : ((Schema.columns table).map Column.name).Nodup)
    (name : String) :
    LookedUp table name (Schema.has table (.text name)) (Schema.get table (.text name)) := by
  rw [LawfulSchema.has_text]
  cases found : (Schema.columns table).find? (·.name.same (.text name)) with
  | none =>
      rw [get_of_unfound found]
      exact .missing ((find?_eq_none_iff _ name).mp found)
  | some column =>
      rcases mem_of_find? found with ⟨member, named⟩
      rcases List.append_of_mem member with ⟨before, after, split⟩
      rw [get_of_find? found]
      refine .found split named ?_
      rw [split, List.map_append, List.map_cons, List.nodup_middle, List.nodup_cons] at distinct
      intro other inOthers sameName
      apply distinct.1
      rw [named, ← sameName, ← List.map_append]
      exact List.mem_map_of_mem inOthers

/-! ## Selecting columns -/

/-- The ways in which a selection can fail. -/
inductive SelectionFault (table : σ) : Fault → Prop where
  | notText (kind operation : String) : SelectionFault table (.noOperation kind operation)
  | notFound (name : String) :
      SelectionFault table (.columnNotFound (.text name) (Schema.name table))
  | notTemporal (name : String) (declared : Value) :
      SelectionFault table (.notTemporal (.text name) (Schema.name table) declared)

theorem exists_noOperation_of_asText
    {operation : String} {value : Value} {fault : Fault}
    (failed : value.asText operation = .error fault) :
    ∃ kind, fault = .noOperation kind operation := by
  cases value <;> cases failed <;> exact ⟨_, rfl⟩

theorem selectionFault_of_isTemporalType
    {table : σ} {declared : Value} {fault : Fault}
    (failed : isTemporalType declared = .error fault) :
    SelectionFault table fault := by
  rw [isTemporalType, map_eq_error_iff] at failed
  rcases exists_noOperation_of_asText failed with ⟨kind, rfl⟩
  exact .notText kind "strip"

theorem selectionFault_of_temporal
    {table : σ} {columns : List Column} {fault : Fault}
    (failed : temporal columns = .error fault) :
    SelectionFault table fault := by
  induction columns with
  | nil =>
      cases failed
  | cons column others ih =>
      rw [temporal, bind_eq_error_iff] at failed
      rcases failed with unreadable | ⟨wanted, -, failedOthers⟩
      · exact selectionFault_of_isTemporalType unreadable
      · rcases (bind_eq_error_iff _ _ _).mp failedOthers with unreadable | ⟨rest, -, done⟩
        · exact ih unreadable
        · cases done

theorem selectionFault_of_split
    {table : σ} {option : Value} {fault : Fault}
    (failed : (split option).outcome = .error fault) :
    SelectionFault table fault := by
  rw [split, Run.outcome_bind, Run.outcome_liftM, bind_eq_error_iff] at failed
  rcases failed with unreadable | ⟨content, -, done⟩
  · rcases exists_noOperation_of_asText unreadable with ⟨kind, rfl⟩
    exact .notText kind "split"
  · cases done

section Resolving

variable [LawfulSchema σ] {table : σ} {name : String}

/-- Looking up a column that is there does not fail, and one that is not there is not looked up. -/
theorem selectionFault_of_resolve
    {fault : Fault}
    (failed : resolve table (.text name) = .error fault) :
    SelectionFault table fault := by
  rw [resolve, LawfulSchema.has_text, ok_bind] at failed
  cases found : (Schema.columns table).find? (·.name.same (.text name)) with
  | none =>
      rw [found] at failed
      cases failed
      exact .notFound name
  | some column =>
      rw [found, Option.isSome_some, if_pos rfl, get_of_find? found, ok_bind,
        bind_eq_error_iff] at failed
      rcases failed with unreadable | ⟨wanted, -, unwanted⟩
      · exact selectionFault_of_isTemporalType unreadable
      · cases wanted with
        | true =>
            cases unwanted
        | false =>
            cases unwanted
            exact .notTemporal name column.declaredType

theorem selectionFault_of_columns
    {option : Value} {fault : Fault}
    (failed : (Selection.columns table option).outcome = .error fault) :
    SelectionFault table fault := by
  by_cases silent : option.isTruthy = false
  · rw [columns_of_silent table silent, Run.outcome_ofExcept] at failed
    exact selectionFault_of_temporal failed
  · rw [Bool.not_eq_false] at silent
    rw [Selection.columns, if_pos silent, Run.outcome_bind, bind_eq_error_iff] at failed
    rcases failed with unreadable | ⟨names, -, unresolved⟩
    · exact selectionFault_of_split unreadable
    · rw [Run.outcome_liftM, resolveAll_eq_mapM] at unresolved
      rcases exists_of_mapM_eq_error unresolved with ⟨name, -, failedName⟩
      exact selectionFault_of_resolve failedName

theorem requested_of_columns
    {option : String} (nonempty : option ≠ "")
    {names : List String} (cut : (split (.text option)).outcome = .ok names)
    {selected : List Column}
    (done : (Selection.columns table (.text option)).outcome = .ok selected) :
    List.Forall₂ (Requested table) names selected := by
  have given : (Value.text option).isTruthy = true := by
    simpa using nonempty
  rw [Selection.columns, if_pos given, Run.outcome_bind, cut, ok_bind, Run.outcome_liftM,
    resolveAll_eq_ok_iff] at done
  exact done.imp fun _ _ => requested_of_resolve

end Resolving

/-! ## Coherence -/

/-- A table of some columns whose answers agree with each other. -/
structure Coherent (table : σ) (columns : List Column) : Prop where
  columns : Schema.columns table = columns
  lookedUp : ∀ name : String,
    LookedUp table name (Schema.has table (.text name)) (Schema.get table (.text name))
  /-- No selection fails because of a column that was looked up and is not there. -/
  noMissing : ∀ (option column schema : Value),
    (Selection.columns table option).outcome ≠ .error (.noColumn column schema)
  requested : ∀ (option : String) (names : List String) (selected : List Column),
    option ≠ "" → (split (.text option)).outcome = .ok names →
      (Selection.columns table (.text option)).outcome = .ok selected →
        List.Forall₂ (Requested table) names selected

theorem coherent_of_nodup
    [LawfulSchema σ] {table : σ}
    (distinct : ((Schema.columns table).map Column.name).Nodup) :
    Coherent table (Schema.columns table) where
  columns := rfl
  lookedUp := lookedUp_of_nodup distinct
  noMissing := by
    intro option column schema failed
    cases selectionFault_of_columns failed
  requested := by
    intro option names selected nonempty cut done
    exact requested_of_columns nonempty cut done

/-! ## Both kinds of tables -/

/-- How tables of some columns, and of some mapped columns of different keys, answer. -/
structure TablesAnswer (table : Value) (columns : List Column)
    {τ : Type} (compile : τ → Compiled) (title : String) (mapped : List (TypedColumn τ))
    (distinct : (mapped.map TypedColumn.knownAs).Nodup) : Prop where
  assembling : Assembling table columns (Table.make table columns)
  /-- Nothing but a repeated name keeps a table from being assembled. -/
  accepted : (∃ made, Table.make table columns = .ok made) ↔ (columns.map Column.name).Nodup
  assembled : ∀ made, Table.make table columns = .ok made → Coherent made columns
  keyed :
    Coherent (MappedTable.ofColumns compile title mapped distinct)
      (mapped.map fun column => (column.keyed compile).toColumn)
  /-- The dictionary has under each key what a search among the columns finds. -/
  indexed : ∀ key : String,
    (MappedTable.Index.ofColumns (mapped.map (TypedColumn.keyed compile)) key).map
        KeyedColumn.toColumn =
      (mapped.map fun column => (column.keyed compile).toColumn).find?
        (·.name.same (.text key))
  made : ∀ made, MappedTable.makeWith compile title mapped = .ok made →
    made = MappedTable.ofColumns compile title mapped distinct

theorem exists_made_iff
    (table : Value) {columns : List Column}
    (textual : ∀ column ∈ columns, HasTextName column) :
    (∃ made, Table.make table columns = .ok made) ↔ (columns.map Column.name).Nodup := by
  rcases exists_textNames textual with ⟨names, named⟩
  have textNames : (columns.map Column.name).Nodup ↔ names.Nodup := by
    rw [named]
    exact List.nodup_map_iff fun _ _ => Value.text.inj
  rw [textNames]
  constructor
  · rintro ⟨made, accepted⟩
    exact ((make_eq_ok_iff named made).mp accepted).2
  · intro distinct
    exact ⟨_, (make_eq_ok_iff named _).mpr ⟨rfl, distinct⟩⟩

theorem coherent_of_make
    {table : Value} {columns : List Column}
    (textual : ∀ column ∈ columns, HasTextName column)
    {made : Table} (accepted : Table.make table columns = .ok made) :
    Coherent made columns := by
  have ended := assembling_make table textual
  rw [accepted] at ended
  cases ended with
  | accepted distinct =>
      exact coherent_of_nodup distinct

section Mapped

variable {τ : Type} (compile : τ → Compiled) (title : String) {mapped : List (TypedColumn τ)}
  (distinct : (mapped.map TypedColumn.knownAs).Nodup)

include distinct

/-- The columns of a mapped table that is made of mapped columns. -/
theorem columns_ofColumns :
    Schema.columns (MappedTable.ofColumns compile title mapped distinct) =
      mapped.map fun column => (column.keyed compile).toColumn := by
  show (mapped.map (TypedColumn.keyed compile)).map KeyedColumn.toColumn = _
  rw [List.map_map]
  rfl

theorem coherent_ofColumns :
    Coherent (MappedTable.ofColumns compile title mapped distinct)
      (mapped.map fun column => (column.keyed compile).toColumn) := by
  rw [← columns_ofColumns compile title distinct]
  apply coherent_of_nodup
  have named : (mapped.map fun column => (column.keyed compile).toColumn).map Column.name =
      (mapped.map TypedColumn.knownAs).map Value.text := by
    rw [List.map_map, List.map_map]
    rfl
  rw [columns_ofColumns, named]
  exact distinct.map fun _ _ => Value.text.inj

end Mapped

/--
A table is refused for the first column that repeats a name, and for nothing
else.  A table that is assembled, and a mapped table whose keys differ, know
each of their columns by its name and nothing by any other name, and a
selection from them never misses a column that it was told of.
-/
theorem tablesAnswer_of_names
    (table : Value) {columns : List Column}
    (textual : ∀ column ∈ columns, HasTextName column)
    {τ : Type} (compile : τ → Compiled) (title : String) {mapped : List (TypedColumn τ)}
    (distinct : (mapped.map TypedColumn.knownAs).Nodup) :
    TablesAnswer table columns compile title mapped distinct where
  assembling := assembling_make table textual
  accepted := exists_made_iff table textual
  assembled := fun _ => coherent_of_make textual
  keyed := coherent_ofColumns compile title distinct
  indexed := by
    intro key
    have keyed := find?_columns (.ofColumns compile title mapped distinct) key
    rw [columns_ofColumns] at keyed
    rw [keyed, ofColumns_eq_find? (MappedTable.nodup_keys_keyed compile distinct)]
    rfl
  made := fun _ => eq_ofColumns_of_makeWith compile distinct

/-- Columns with different names, one of them with a type that is no text. -/
def payments : List Column :=
  [⟨.text "placed_on", .text "DATE", .text "PlacedOn"⟩, ⟨.text "paid", .integer 1, .null⟩]

/-- These columns, and mapped ones that are known by keys of their own. -/
theorem tablesAnswer_of_names_payments :
    (∀ column ∈ payments, HasTextName column) ∧
      (orders.map TypedColumn.knownAs).Nodup ∧
      TablesAnswer (.text "payments") payments SqlType.compiled "orders" orders nodup_orders ∧
      ∃ made, Table.make (.text "payments") payments = .ok made ∧ Coherent made payments := by
  have textual : ∀ column ∈ payments, HasTextName column := by
    simp [payments, HasTextName]
  have different : (payments.map Column.name).Nodup := by
    simp [payments]
  have answer :=
    tablesAnswer_of_names (.text "payments") textual SqlType.compiled "orders" nodup_orders
  rcases answer.accepted.mpr different with ⟨made, accepted⟩
  exact ⟨textual, nodup_orders, answer, made, accepted, answer.assembled made accepted⟩

end DateGetters.Proofs.TableCoherence
