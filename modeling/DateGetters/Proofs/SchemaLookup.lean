import DateGetters.Schema.Table

/-!
# Looking columns up

A table is asked for a name, or a column is looked up by it.  Where the columns
are kept in a list, either goes through the list; where they are kept in a
dictionary, either asks the dictionary, which has every column because the keys
differ.  All of them agree with a search among the columns in order.

Where the columns have different names, looking a column's name up gives that
column, and a look-up fails only for a name that no column has.

A table can be assembled from any columns that are named by different texts.
-/

namespace DateGetters.Proofs.SchemaLookup

/-- A kind of tables that answers for a text as a search among the columns does. -/
class LawfulSchema (σ : Type) [Schema σ] : Prop where
  has_text (table : σ) (name : String) :
    Schema.has table (.text name) =
      .ok ((Schema.columns table).find? (·.name.same (.text name))).isSome
  get_text (table : σ) (name : String) :
    Schema.get table (.text name) =
      match (Schema.columns table).find? (·.name.same (.text name)) with
      | some column => .ok column
      | none => .error (.noColumn (.text name) (Schema.name table))

instance : LawfulSchema Table where
  has_text table name := by
    show Except.ok (table.columns.any (·.name.same (.text name))) = _
    rw [← List.isSome_find?]
    rfl
  get_text _ _ := rfl

/-! ## Columns in a dictionary -/

section Dictionary

open MappedTable

/-- Columns of different keys that are put into a dictionary are found there, and all that was in
it under other keys. -/
theorem foldl_put
    {columns : List KeyedColumn}
    (distinct : (columns.map KeyedColumn.key).Nodup)
    (index : Index) (key : String) :
    columns.foldl Index.put index key = (columns.find? (·.key == key)).or (index key) := by
  induction columns generalizing index with
  | nil =>
      rfl
  | cons column others ih =>
      rw [List.map_cons, List.nodup_cons] at distinct
      rw [List.foldl_cons, ih distinct.2]
      by_cases same : column.key = key
      · -- No later column takes the place of this one.
        have unfound : others.find? (·.key == key) = none := by
          rw [List.find?_eq_none]
          intro other member again
          apply distinct.1
          rw [same, ← eq_of_beq again]
          exact List.mem_map_of_mem member
        simp [unfound, Index.put, same]
      · simp [Index.put, same, Ne.symm same]

/-- The dictionary has under a key what a search among the columns finds. -/
theorem ofColumns_eq_find?
    {columns : List KeyedColumn}
    (distinct : (columns.map KeyedColumn.key).Nodup)
    (key : String) :
    Index.ofColumns columns key = columns.find? (·.key == key) := by
  rw [Index.ofColumns, foldl_put distinct, Option.or_none]

/-- A search among the columns of a mapped table is one among their keys. -/
theorem find?_columns (table : MappedTable) (key : String) :
    (Schema.columns table).find? (·.name.same (.text key)) =
      (table.columns.find? (·.key == key)).map KeyedColumn.toColumn := by
  have named : (fun column : Column => column.name.same (.text key)) ∘ KeyedColumn.toColumn =
      fun column => column.key == key := by
    funext column
    exact Value.same_text column.key key
  show (table.columns.map KeyedColumn.toColumn).find? _ = _
  rw [List.find?_map, named]

theorem lookUp_text (table : MappedTable) (key : String) :
    table.lookUp (.text key) = .ok (table.columns.find? (·.key == key)) :=
  congrArg Except.ok (ofColumns_eq_find? table.distinct key)

instance : LawfulSchema MappedTable where
  has_text table name := by
    show table.has (.text name) = _
    rw [MappedTable.has, lookUp_text, find?_columns, Option.isSome_map]
    rfl
  get_text table name := by
    show table.get (.text name) = _
    rw [MappedTable.get, lookUp_text, find?_columns]
    cases table.columns.find? (·.key == name) <;> rfl

end Dictionary

section Asking

variable {σ : Type} [Schema σ] [LawfulSchema σ] {table : σ} {name : String}

theorem get_of_find?
    {column : Column}
    (found : (Schema.columns table).find? (·.name.same (.text name)) = some column) :
    Schema.get table (.text name) = .ok column := by
  rw [LawfulSchema.get_text, found]

theorem get_of_unfound
    (unfound : (Schema.columns table).find? (·.name.same (.text name)) = none) :
    Schema.get table (.text name) = .error (.noColumn (.text name) (Schema.name table)) := by
  rw [LawfulSchema.get_text, unfound]

end Asking

/-! ## Columns with different names -/

/-- A column is found under its name if no other column has that name. -/
theorem find?_of_mem
    {columns : List Column} {column : Column} {name : String}
    (distinct : (columns.map Column.name).Nodup)
    (member : column ∈ columns)
    (named : column.name = .text name) :
    columns.find? (·.name.same (.text name)) = some column := by
  induction columns with
  | nil =>
      exact absurd member List.not_mem_nil
  | cons first others ih =>
      rw [List.map_cons, List.nodup_cons] at distinct
      rcases List.mem_cons.mp member with rfl | inOthers
      · apply List.find?_cons_of_pos
        exact (Value.same_text_iff _ _).mpr named
      · have different : first.name.same (.text name) = false := by
          rw [← Bool.not_eq_true]
          intro same
          have firstNamed := (Value.same_text_iff _ _).mp same
          apply distinct.1
          rw [firstNamed, ← named]
          exact List.mem_map_of_mem inOthers
        simpa only [List.find?_cons, different] using
          ih distinct.2 inOthers

theorem mem_of_find?
    {columns : List Column} {column : Column} {name : String}
    (found : columns.find? (·.name.same (.text name)) = some column) :
    column ∈ columns ∧ column.name = .text name := by
  constructor
  · exact List.mem_of_find?_eq_some found
  · have same : column.name.same (.text name) = true := by
      simpa using List.find?_some found
    exact (Value.same_text_iff _ _).mp same

theorem find?_eq_none_iff
    (columns : List Column) (name : String) :
    columns.find? (·.name.same (.text name)) = none ↔
      ∀ column ∈ columns, column.name ≠ .text name := by
  rw [List.find?_eq_none]
  constructor
  · intro unfound column member named
    exact unfound column member ((Value.same_text_iff _ _).mpr named)
  · intro unnamed column member same
    exact unnamed column member ((Value.same_text_iff _ _).mp same)

/-! ## Assembling tables -/

/-- Columns that are named by texts have no fault if these are different and all of them are new. -/
theorem columnFault?_eq_none_iff
    (table : Value) (seen : List Value)
    {names : List String} {columns : List Column}
    (named : columns.map Column.name = names.map Value.text) :
    Table.columnFault? table seen columns = none ↔
      names.Nodup ∧ ∀ name ∈ names, Value.text name ∉ seen := by
  induction columns generalizing seen names with
  | nil =>
      have nameless : names = [] := by
        simpa using named.symm
      simp [Table.columnFault?, nameless]
  | cons column others ih =>
      cases names with
      | nil =>
          simp at named
      | cons name more =>
          simp only [List.map_cons, List.cons.injEq] at named
          rcases named with ⟨columnNamed, othersNamed⟩
          have seenIff : seen.any (·.same (.text name)) = true ↔ Value.text name ∈ seen := by
            simp only [List.any_eq_true, Value.same_text_iff, exists_eq_right]
          rw [Table.columnFault?, columnNamed]
          simp only [Value.isKey, Bool.not_true, Bool.false_eq_true, if_false]
          by_cases known : Value.text name ∈ seen
          · rw [if_pos (seenIff.mpr known)]
            simp [known]
          · rw [if_neg (mt seenIff.mp known), ih (seen ++ [Value.text name]) othersNamed]
            -- A later name is new behind this one if it is new and a different one.
            simp only [List.nodup_cons, List.forall_mem_cons, List.mem_append,
              List.mem_singleton, Value.text.injEq, not_or, forall_and]
            constructor
            · rintro ⟨distinct, unseen, different⟩
              exact ⟨⟨fun again => different name again rfl, distinct⟩, known, unseen⟩
            · rintro ⟨⟨isNew, distinct⟩, -, unseen⟩
              refine ⟨distinct, unseen, ?_⟩
              rintro other member rfl
              exact isNew member

/-- A table is assembled from columns that are named by texts if and only if these are different. -/
theorem make_eq_ok_iff
    {table : Value} {names : List String} {columns : List Column}
    (named : columns.map Column.name = names.map Value.text)
    (made : Table) :
    Table.make table columns = .ok made ↔ made = ⟨table, columns⟩ ∧ names.Nodup := by
  have faultless := columnFault?_eq_none_iff table [] named
  simp only [List.not_mem_nil, not_false_iff, implies_true, and_true] at faultless
  cases faulty : Table.columnFault? table [] columns with
  | some fault =>
      rw [faulty] at faultless
      simp [Table.make, faulty, ← faultless]
  | none =>
      rw [faulty] at faultless
      simp [Table.make, faulty, ← faultless, eq_comm]

end DateGetters.Proofs.SchemaLookup
