import DateGetters.Proofs.Outcomes
import DateGetters.Proofs.SchemaLookup
import DateGetters.Proofs.TextPieces
import DateGetters.Selection

/-!
# Which columns are selected

A name that an option asks for is either granted, by a temporal column of that
name, or refused, because no column has the name or because the column that has
it is not temporal.  The names of an option are resolved in their order: if all
are granted, their columns are selected, and otherwise the first refused name
is the failure.

Without an option the temporal columns are selected, in the order of the table.
-/

namespace DateGetters.Proofs.ColumnSelection

open DateGetters.Proofs.Outcomes
open DateGetters.Proofs.SchemaLookup
open DateGetters.Proofs.TextPieces
open DateGetters.Selection

variable {σ : Type} [Schema σ]

/-! ## Textual tables -/

/-- A column all of whose fields are texts. -/
def IsTextual (column : Column) : Prop :=
  ∃ name declaredType identifier : String,
    column = ⟨.text name, .text declaredType, .text identifier⟩

/-- A table of textual columns with different names. -/
structure Textual (table : σ) : Prop where
  columns : ∀ column ∈ Schema.columns table, IsTextual column
  distinct : ((Schema.columns table).map Column.name).Nodup

/-- Whether a textual column is temporal. -/
def isTemporal (column : Column) : Bool :=
  isTemporalText column.declaredType.toText

@[simp]
theorem isTemporalType_text (declared : String) :
    isTemporalType (.text declared) = .ok (isTemporalText declared) := by
  simp [isTemporalType, Except.map]

theorem isTemporalType_of_textual
    {column : Column}
    (textual : IsTextual column) :
    isTemporalType column.declaredType = .ok (isTemporal column) := by
  rcases textual with ⟨name, declaredType, identifier, rfl⟩
  exact isTemporalType_text declaredType

/-! ## Granted and refused names -/

/-- The temporal column that a name is granted by. -/
structure Granted (table : σ) (name : String) (column : Column) : Prop where
  member : column ∈ Schema.columns table
  named : column.name = .text name
  temporal : isTemporal column = true

/-- The failure by which a name is refused. -/
inductive Refused (table : σ) (name : String) : Fault → Prop where
  | absent
      (unnamed : ∀ column ∈ Schema.columns table, column.name ≠ .text name) :
      Refused table name (.columnNotFound (.text name) (Schema.name table))
  | notTemporal {column : Column}
      (member : column ∈ Schema.columns table)
      (named : column.name = .text name)
      (otherType : isTemporal column = false) :
      Refused table name
        (.notTemporal (.text name) (Schema.name table) column.declaredType)

theorem granted_or_refused (table : σ) (name : String) :
    (∃ column, Granted table name column) ∨
      ∃ fault, Refused table name fault := by
  by_cases present : ∃ column ∈ Schema.columns table, column.name = .text name
  · rcases present with ⟨column, member, named⟩
    cases temporal : isTemporal column with
    | true =>
        exact Or.inl ⟨column, member, named, temporal⟩
    | false =>
        exact Or.inr ⟨_, .notTemporal member named temporal⟩
  · refine Or.inr ⟨_, .absent ?_⟩
    intro column member named
    exact present ⟨column, member, named⟩

/-- Either every name is granted, or some name is the first that is refused. -/
theorem all_granted_or_first_refused
    (table : σ) (names : List String) :
    (∃ columns, List.Forall₂ (Granted table) names columns) ∨
      ∃ before name after fault,
        names = before ++ name :: after ∧
          (∀ earlier ∈ before, ∃ column, Granted table earlier column) ∧
          Refused table name fault := by
  induction names with
  | nil =>
      exact Or.inl ⟨[], .nil⟩
  | cons name others ih =>
      rcases granted_or_refused table name with ⟨column, granted⟩ | ⟨fault, refused⟩
      · rcases ih with ⟨columns, allGranted⟩ |
          ⟨before, later, after, fault, split, earlier, refused⟩
        · exact Or.inl ⟨column :: columns, .cons granted allGranted⟩
        · refine Or.inr ⟨name :: before, later, after, fault, ?_, ?_, refused⟩
          · rw [split, List.cons_append]
          · exact List.forall_mem_cons.mpr ⟨⟨column, granted⟩, earlier⟩
      · exact Or.inr ⟨[], name, others, fault, rfl, by simp, refused⟩

theorem granted_of_mem
    {table : σ} {names : List String} {columns : List Column}
    (granted : List.Forall₂ (Granted table) names columns)
    {name : String}
    (member : name ∈ names) :
    ∃ column, Granted table name column := by
  induction granted with
  | nil =>
      exact absurd member List.not_mem_nil
  | cons first _ ih =>
      rcases List.mem_cons.mp member with rfl | later
      · exact ⟨_, first⟩
      · exact ih later

/-- Granted columns belong to the table. -/
theorem mem_of_all_granted
    {table : σ} {names : List String} {columns : List Column}
    (granted : List.Forall₂ (Granted table) names columns) :
    ∀ column ∈ columns, column ∈ Schema.columns table := by
  induction granted with
  | nil =>
      simp
  | cons first _ ih =>
      exact List.forall_mem_cons.mpr ⟨first.member, ih⟩

/-! ## Resolving names -/

/-- A column as a name asks for it. -/
structure Requested (table : σ) (name : String) (column : Column) : Prop where
  member : column ∈ Schema.columns table
  named : column.name = .text name
  temporal : isTemporalType column.declaredType = .ok true

section Resolving

variable [LawfulSchema σ] {table : σ}

/-- A name is resolved by one search among the columns. -/
theorem resolve_text (table : σ) (name : String) :
    resolve table (.text name) =
      match (Schema.columns table).find? (·.name.same (.text name)) with
      | none => .error (.columnNotFound (.text name) (Schema.name table))
      | some column => (do
        if ← isTemporalType column.declaredType then
          .ok column
        else
          .error (.notTemporal (.text name) (Schema.name table) column.declaredType)) := by
  rw [resolve, LawfulSchema.has_text, ok_bind]
  cases found : (Schema.columns table).find? (·.name.same (.text name)) with
  | none =>
      rfl
  | some column =>
      rw [Option.isSome_some, if_pos rfl, get_of_find? found, ok_bind]

theorem resolve_of_unfound
    {name : String}
    (unfound : (Schema.columns table).find? (·.name.same (.text name)) = none) :
    resolve table (.text name) =
      .error (.columnNotFound (.text name) (Schema.name table)) := by
  rw [resolve_text, unfound]

theorem resolve_of_found
    {name : String} {column : Column} {wanted : Bool}
    (found : (Schema.columns table).find? (·.name.same (.text name)) = some column)
    (type : isTemporalType column.declaredType = .ok wanted) :
    resolve table (.text name) =
      if wanted then .ok column
      else .error (.notTemporal (.text name) (Schema.name table) column.declaredType) := by
  rw [resolve_text, found]
  simp only [type, ok_bind]

theorem resolve_of_granted
    (textual : Textual table)
    {name : String} {column : Column}
    (granted : Granted table name column) :
    resolve table (.text name) = .ok column := by
  have found := find?_of_mem textual.distinct granted.member granted.named
  have type := isTemporalType_of_textual (textual.columns column granted.member)
  rw [resolve_of_found found type, if_pos granted.temporal]

theorem resolve_of_refused
    (textual : Textual table)
    {name : String} {fault : Fault}
    (refused : Refused table name fault) :
    resolve table (.text name) = .error fault := by
  cases refused with
  | absent unnamed =>
      exact resolve_of_unfound ((find?_eq_none_iff _ name).mpr unnamed)
  | notTemporal member named otherType =>
      have found := find?_of_mem textual.distinct member named
      have type := isTemporalType_of_textual (textual.columns _ member)
      rw [resolve_of_found found type, otherType]
      rfl

/-- What a name is resolved to is a temporal column of the table with that name. -/
theorem requested_of_resolve
    {name : String} {column : Column}
    (resolved : resolve table (.text name) = .ok column) :
    Requested table name column := by
  rw [resolve_text] at resolved
  cases found : (Schema.columns table).find? (·.name.same (.text name)) with
  | none =>
      rw [found] at resolved
      cases resolved
  | some first =>
      rw [found, bind_eq_ok_iff] at resolved
      rcases resolved with ⟨wanted, type, chosen⟩
      rcases mem_of_find? found with ⟨member, named⟩
      cases wanted with
      | true =>
          cases chosen
          exact ⟨member, named, type⟩
      | false =>
          cases chosen

theorem mem_of_resolve
    {name : String} {column : Column}
    (resolved : resolve table (.text name) = .ok column) :
    column ∈ Schema.columns table ∧ column.name = .text name :=
  ⟨(requested_of_resolve resolved).member, (requested_of_resolve resolved).named⟩

/-- A name that is resolved is granted. -/
theorem granted_of_resolve
    (textual : ∀ column ∈ Schema.columns table, IsTextual column)
    {name : String} {column : Column}
    (resolved : resolve table (.text name) = .ok column) :
    Granted table name column := by
  have requested := requested_of_resolve resolved
  have type := isTemporalType_of_textual (textual column requested.member)
  rw [requested.temporal] at type
  exact ⟨requested.member, requested.named, (Except.ok.inj type).symm⟩

/-- A name that is not resolved is refused. -/
theorem refused_of_resolve
    (textual : ∀ column ∈ Schema.columns table, IsTextual column)
    {name : String} {fault : Fault}
    (failed : resolve table (.text name) = .error fault) :
    Refused table name fault := by
  cases found : (Schema.columns table).find? (·.name.same (.text name)) with
  | none =>
      rw [resolve_of_unfound found] at failed
      rw [← Except.error.inj failed]
      exact .absent ((find?_eq_none_iff _ name).mp found)
  | some column =>
      rcases mem_of_find? found with ⟨member, named⟩
      rw [resolve_of_found found (isTemporalType_of_textual (textual column member))] at failed
      cases temporal : isTemporal column with
      | true =>
          rw [temporal] at failed
          cases failed
      | false =>
          rw [temporal] at failed
          rw [← Except.error.inj failed]
          exact .notTemporal member named temporal

end Resolving

theorem resolveAll_eq_mapM (table : σ) (names : List String) :
    resolveAll table names = names.mapM fun name => resolve table (.text name) := by
  induction names with
  | nil =>
      rfl
  | cons name others ih =>
      rw [resolveAll, List.mapM_cons, ih]

/-- All names are resolved if and only if each of them is. -/
theorem resolveAll_eq_ok_iff
    (table : σ) (names : List String) (columns : List Column) :
    resolveAll table names = .ok columns ↔
      List.Forall₂ (fun name column => resolve table (.text name) = .ok column)
        names columns := by
  rw [resolveAll_eq_mapM]
  exact mapM_eq_ok_iff _ names columns

/-- The first name that is not resolved is the failure of all. -/
theorem resolveAll_of_first
    (table : σ) {before after : List String} {name : String} {fault : Fault}
    (earlier : ∀ other ∈ before, ∃ column,
      resolve table (.text other) = .ok column)
    (failed : resolve table (.text name) = .error fault) :
    resolveAll table (before ++ name :: after) = .error fault := by
  induction before with
  | nil =>
      rw [List.nil_append, resolveAll, failed]
      rfl
  | cons first others ih =>
      rw [List.forall_mem_cons] at earlier
      rcases earlier with ⟨⟨column, resolved⟩, earlierOthers⟩
      rw [List.cons_append, resolveAll, resolved, ih earlierOthers]
      rfl

/-! ## Names in an option -/

/-- The names seen already apart, the first occurrences are those of the standard library. -/
theorem firsts_eq_eraseDups (seen names : List String) :
    firsts seen names =
      (names.filter fun name => !seen.contains name).eraseDups := by
  induction names generalizing seen with
  | nil =>
      rfl
  | cons name others ih =>
      cases known : seen.contains name with
      | true =>
          simp only [firsts, known, if_true, ih, List.filter_cons, Bool.not_true,
            Bool.false_eq_true, if_false]
      | false =>
          simp only [firsts, known, Bool.false_eq_true, if_false, ih,
            List.filter_cons, Bool.not_false, if_true, List.eraseDups_cons,
            List.filter_filter]
          congr 2
          apply List.filter_congr
          intro other _
          rw [List.contains_cons, Bool.not_or]

theorem firsts_nil (names : List String) :
    firsts [] names = names.eraseDups := by
  rw [firsts_eq_eraseDups]
  simp

/-- The different names that an option asks for, in the order of their first occurrences. -/
def requestedNames (option : String) : List String :=
  (namesIn option).eraseDups

theorem namesIn_ne_nil (option : String) : namesIn option ≠ [] := by
  simp [namesIn, Text.split, Text.pieces_ne_nil]

theorem eraseDups_eq_singleton
    {names : List String} {name : String}
    (nonempty : names ≠ [])
    (all : ∀ other ∈ names, other = name) :
    names.eraseDups = [name] := by
  cases names with
  | nil =>
      exact absurd rfl nonempty
  | cons first others =>
      rw [List.forall_mem_cons] at all
      rcases all with ⟨rfl, othersAll⟩
      have nothingElse : others.filter (fun other => !other == first) = [] := by
        rw [List.filter_eq_nil_iff]
        intro other member
        simp [othersAll other member]
      rw [List.eraseDups_cons, nothingElse, List.eraseDups_nil]

/-- An option of nothing but blanks and commas asks for the empty name only. -/
theorem requestedNames_of_blank
    {option : String}
    (blank : ∀ character ∈ option.toList,
      character = ',' ∨ Text.isBlank character = true) :
    requestedNames option = [""] := by
  apply eraseDups_eq_singleton (namesIn_ne_nil option)
  intro name member
  simp only [namesIn, Text.split, List.map_map, List.mem_map] at member
  rcases member with ⟨piece, cut, rfl⟩
  have blankPiece : ∀ character ∈ piece, Text.isBlank character = true := by
    intro character inPiece
    rcases mem_of_mem_piece cut inPiece with ⟨inOption, different⟩
    exact (blank character inOption).resolve_left different
  simp [Function.comp, Text.trim, trimChars_of_blank blankPiece]

/-! ## The selected columns -/

/-- The columns for whose types the answer is yes are the temporal ones. -/
theorem temporal_of_typed
    {columns : List Column} {answer : Column → Bool}
    (typed : ∀ column ∈ columns, isTemporalType column.declaredType = .ok (answer column)) :
    temporal columns = .ok (columns.filter answer) := by
  induction columns with
  | nil =>
      rfl
  | cons column others ih =>
      rw [List.forall_mem_cons] at typed
      rw [temporal, typed.1, ih typed.2, ok_bind, ok_bind, List.filter_cons]
      rfl

theorem temporal_of_textual
    {columns : List Column}
    (textual : ∀ column ∈ columns, IsTextual column) :
    temporal columns = .ok (columns.filter isTemporal) :=
  temporal_of_typed fun column member => isTemporalType_of_textual (textual column member)

/-- The temporal ones of some columns are some of them, in their order. -/
theorem sublist_of_temporal
    {columns selected : List Column}
    (done : temporal columns = .ok selected) :
    selected.Sublist columns := by
  induction columns generalizing selected with
  | nil =>
      rw [← Except.ok.inj done]
  | cons column others ih =>
      simp only [temporal, bind_eq_ok_iff] at done
      rcases done with ⟨wanted, -, rest, doneOthers, chosen⟩
      rw [← Except.ok.inj chosen]
      cases wanted with
      | true =>
          exact (ih doneOthers).cons_cons column
      | false =>
          exact (ih doneOthers).cons column

/-- An option that says nothing selects the temporal columns of the table. -/
theorem columns_of_silent
    (table : σ) {option : Value}
    (silent : option.isTruthy = false) :
    Selection.columns table option =
      Run.ofExcept (temporal (Schema.columns table)) := by
  have nothing : ¬ option.isTruthy = true := by
    simp [silent]
  rw [Selection.columns, if_neg nothing]
  rfl

/-- The entry of the log that names a repetition. -/
def repetitionEntry (name : String) : LogEntry :=
  ⟨.warning, "Column '" ++ name ++ "' is listed more than once; generating it once."⟩

theorem repeatWarning_eq : repeatWarning = repetitionEntry := rfl

theorem split_text (option : String) :
    Selection.split (.text option) =
      ⟨(repeats [] (namesIn option)).map repetitionEntry, .ok (firsts [] (namesIn option))⟩ := by
  rw [Selection.split, Value.orBlank_text, Value.asText_text, liftM_of_ok rfl, pure_bind,
    splitText, repeatWarning_eq]

/-- A list of names selects the columns of the different names in it. -/
theorem columns_of_names
    (table : σ) {option : String}
    (nonempty : option ≠ "") :
    Selection.columns table (.text option) =
      ⟨(repeats [] (namesIn option)).map repetitionEntry,
        resolveAll table (requestedNames option)⟩ := by
  have given : (Value.text option).isTruthy = true := by
    simp [nonempty]
  rw [Selection.columns, if_pos given, split_text, Run.bind_of_ok _ rfl, firsts_nil]
  exact congrArg (Run.mk · _) (List.append_nil _)

/-- Selected columns are some of the table in their order, or those of the requested names. -/
theorem sublist_or_resolved_of_columns
    {table : σ} {option : Value} {selected : List Column}
    (done : (Selection.columns table option).outcome = .ok selected) :
    selected.Sublist (Schema.columns table) ∨
      ∃ names, resolveAll table (requestedNames names) = .ok selected := by
  by_cases silent : option.isTruthy = false
  · rw [columns_of_silent table silent, Run.outcome_ofExcept] at done
    exact Or.inl (sublist_of_temporal done)
  · have given : option.isTruthy = true := by
      simpa using silent
    rw [Selection.columns, if_pos given, Run.outcome_bind, bind_eq_ok_iff] at done
    rcases done with ⟨names, cut, resolved⟩
    rw [split, Run.outcome_bind, bind_eq_ok_iff] at cut
    rcases cut with ⟨content, -, different⟩
    have requested : names = requestedNames content := by
      rw [requestedNames, ← firsts_nil]
      exact (Except.ok.inj different).symm
    subst requested
    exact Or.inr ⟨content, resolved⟩

theorem mem_of_resolveAll
    [LawfulSchema σ] {table : σ} {names : List String} {columns : List Column}
    (resolved : resolveAll table names = .ok columns) :
    (∀ column ∈ columns, column ∈ Schema.columns table) ∧
      columns.map Column.name = names.map Value.text := by
  have each := (resolveAll_eq_ok_iff table names columns).mp resolved
  clear resolved
  induction each with
  | nil =>
      simp
  | cons first _ ih =>
      rcases mem_of_resolve first with ⟨member, named⟩
      constructor
      · exact List.forall_mem_cons.mpr ⟨member, ih.1⟩
      · rw [List.map_cons, List.map_cons, named, ih.2]

/-- Whatever is selected are columns of the table. -/
theorem mem_of_columns
    [LawfulSchema σ] {table : σ} {option : Value} {selected : List Column}
    (done : (Selection.columns table option).outcome = .ok selected) :
    ∀ column ∈ selected, column ∈ Schema.columns table := by
  rcases sublist_or_resolved_of_columns done with some | ⟨names, resolved⟩
  · intro column member
    exact some.mem member
  · exact (mem_of_resolveAll resolved).1

/-- For a textual table, a selection fails only by refusing a name. -/
theorem exists_refused_of_columns
    [LawfulSchema σ] {table : σ}
    (textual : ∀ column ∈ Schema.columns table, IsTextual column)
    {names : String} (nonempty : names ≠ "") {fault : Fault}
    (failed : (Selection.columns table (.text names)).outcome = .error fault) :
    ∃ name ∈ requestedNames names, Refused table name fault := by
  rw [columns_of_names table nonempty, resolveAll_eq_mapM] at failed
  rcases exists_of_mapM_eq_error failed with ⟨name, member, failedName⟩
  exact ⟨name, member, refused_of_resolve textual failedName⟩

end DateGetters.Proofs.ColumnSelection
