import DateGetters.Proofs.OptionReading
import DateGetters.Proofs.RequestedNames

/-!
# Columns as a list

Options that are read from a mapping may list the columns one by one.  The list
is kept as one text, its items with a comma and a space between them, and the
text is cut again when columns are selected.  Items without commas come back
from that text up to blanks around them, so that a list selects what its
trimmed items are resolved to, each of them once.

There is one exception.  The list of the empty text alone is kept as the empty
text, which is no option at all, and what it selects are all temporal columns.
-/

namespace DateGetters.Proofs.ColumnLists

open DateGetters.Proofs.ColumnSelection
open DateGetters.Proofs.GenerationOutcome
open DateGetters.Proofs.OptionReading
open DateGetters.Proofs.Outcomes
open DateGetters.Proofs.RequestedNames
open DateGetters.Proofs.SchemaLookup
open DateGetters.Selection

variable {σ : Type} [Schema σ]

/-! ## Reading a list -/

/-- Parameters with nothing but a list of columns. -/
def listing (names : List String) : Value :=
  .map [(.text Options.columnsKey, .list (names.map .text))]

/-- The options that a list of columns is read as. -/
def listingOptions (names : List String) : Options :=
  { Options.builtin with columns := .text (", ".intercalate names) }

theorem toTexts?_text (names : List String) :
    Options.toTexts? (names.map .text) = .ok names := by
  induction names with
  | nil =>
      rfl
  | cons name others ih =>
      rw [List.map_cons, Options.toTexts?, Value.toText?_text, ih]
      rfl

theorem ofValue_listing (names : List String) :
    Options.ofValue (listing names) = .ok (listingOptions names) := by
  have joined : Options.columnsText? (.list (names.map .text)) =
      .ok (", ".intercalate names) := by
    rw [Options.columnsText?, toTexts?_text]
    rfl
  have given : Value.list (names.map .text) ≠ .null := nofun
  exact ofValue_of_columns given joined

/-! ## Joining and cutting -/

/-- What stands between the commas of a joined list: all items but the first follow a space. -/
def spaced : List String → List String
  | [] => []
  | name :: others => name :: others.map (" " ++ ·)

theorem padded_spaced (names : List String) :
    List.Forall₂ Padded names (spaced names) := by
  have padded (name : String) : Padded name (" " ++ name ++ "") :=
    .around " " "" (by simp [Text.isBlank]) (by simp)
  cases names with
  | nil =>
      exact .nil
  | cons name others =>
      refine .cons (.refl name) ?_
      rw [List.forall₂_map_right_iff, List.forall₂_same]
      intro other _
      simpa using padded other

theorem intercalate_spaced (names : List String) :
    ", ".intercalate names = ",".intercalate (spaced names) := by
  induction names with
  | nil =>
      rfl
  | cons name others ih =>
      cases others with
      | nil =>
          rfl
      | cons second more =>
          have separator : ", " = "," ++ " " := rfl
          calc
            ", ".intercalate (name :: second :: more) =
                name ++ ", " ++ ",".intercalate (spaced (second :: more)) := by
              rw [String.intercalate_cons_cons, ih]
            _ = name ++ "," ++ ",".intercalate ((" " ++ second) :: more.map (" " ++ ·)) := by
              rw [String.intercalate_cons_append, separator, spaced]
              simp only [String.append_assoc]
            _ = ",".intercalate (spaced (name :: second :: more)) := by
              rw [spaced, List.map_cons, String.intercalate_cons_cons]

/-- Items without commas come back from the text that they are joined to, trimmed. -/
theorem namesIn_joined
    {names : List String}
    (nonempty : names ≠ [])
    (free : ∀ name ∈ names, ',' ∉ name.toList) :
    namesIn (", ".intercalate names) = names.map Text.trim := by
  rw [intercalate_spaced]
  exact namesIn_of_padded (padded_spaced names) nonempty free

/-- Only the list of the empty text alone is joined to the empty text, besides the empty list. -/
theorem eq_of_joined_eq_empty
    {names : List String}
    (nonempty : names ≠ [])
    (joined : ", ".intercalate names = "") :
    names = [""] := by
  cases names with
  | nil =>
      exact absurd rfl nonempty
  | cons name others =>
      cases others with
      | nil =>
          rw [String.intercalate_singleton] at joined
          rw [joined]
      | cons second more =>
          have characters := congrArg String.toList joined
          simp [String.intercalate_cons_cons, String.toList_append] at characters

/-! ## Resolving the items -/

/-- The different items of a list, trimmed, in the order of their first occurrences. -/
def elements (names : List String) : List String :=
  (names.map Text.trim).eraseDups

/--
What resolving names in their order ends with: their columns if all of them are
granted, and otherwise the failure of the first that is refused.
-/
inductive Resolution (table : σ) : List String → Outcome (List Column) → Prop where
  | granted {names : List String} {columns : List Column}
      (each : List.Forall₂ (Granted table) names columns) :
      Resolution table names (.ok columns)
  | refused {before after : List String} {name : String} {fault : Fault}
      (earlier : ∀ other ∈ before, ∃ column, Granted table other column)
      (refusal : Refused table name fault) :
      Resolution table (before ++ name :: after) (.error fault)

theorem resolution_resolveAll
    [LawfulSchema σ] {table : σ}
    (textual : ∀ column ∈ Schema.columns table, IsTextual column)
    (names : List String) :
    Resolution table names (resolveAll table names) := by
  induction names with
  | nil =>
      exact .granted .nil
  | cons name others ih =>
      rw [resolveAll]
      cases resolved : resolve table (.text name) with
      | error fault =>
          have refusal := refused_of_resolve textual resolved
          exact .refused (List.forall_mem_nil _) refusal
      | ok column =>
          have first := granted_of_resolve textual resolved
          rw [ok_bind]
          generalize resolveAll table others = rest at ih ⊢
          cases ih with
          | granted each =>
              exact .granted (.cons first each)
          | refused earlier refusal =>
              have allEarlier := List.forall_mem_cons.mpr ⟨⟨column, first⟩, earlier⟩
              exact .refused allEarlier refusal

/-! ## What a list selects -/

theorem columns_of_joined
    (table : σ) {names : List String}
    (nonempty : names ≠ [])
    (free : ∀ name ∈ names, ',' ∉ name.toList)
    (others : names ≠ [""]) :
    (Selection.columns table (.text (", ".intercalate names))).outcome =
      resolveAll table (elements names) := by
  have joined : ", ".intercalate names ≠ "" :=
    fun empty => others (eq_of_joined_eq_empty nonempty empty)
  rw [columns_of_names table joined, requestedNames, namesIn_joined nonempty free]
  rfl

/--
A list of items without commas selects what its different items, trimmed, are
resolved to in their order.  It never selects as if there were no list, unless
the empty text is its only item.
-/
theorem columns_of_listing
    [LawfulSchema σ] (table : σ)
    (textual : ∀ column ∈ Schema.columns table, IsTextual column)
    (names : List String) (nonempty : names ≠ [])
    (free : ∀ name ∈ names, ',' ∉ name.toList) :
    ∃ options, Options.ofValue (listing names) = .ok options ∧
      (names ≠ [""] →
        (Selection.columns table options.columns).outcome =
            (elements names).mapM (fun name => resolve table (.text name)) ∧
          Resolution table (elements names)
            (Selection.columns table options.columns).outcome) ∧
      (names = [""] →
        Selection.columns table options.columns = Selection.columns table .null) := by
  refine ⟨listingOptions names, ofValue_listing names, ?_, ?_⟩
  · intro others
    have selected : (Selection.columns table (listingOptions names).columns).outcome =
        resolveAll table (elements names) :=
      columns_of_joined table nonempty free others
    rw [selected]
    exact ⟨resolveAll_eq_mapM table _, resolution_resolveAll textual _⟩
  · rintro rfl
    have nothing : (listingOptions [""]).columns.isTruthy = false := by
      rfl
    rw [columns_of_silent table nothing, columns_of_silent table rfl]

theorem refused_unnamed :
    Refused library "" (.columnNotFound (.text "") (.text "library")) := by
  apply Refused.absent
  simp [library, Schema.columns]

/-- A list of a blank item alone asks for the column without a name, which is not there. -/
theorem columns_of_listing_blank :
    (∀ column ∈ Schema.columns library, IsTextual column) ∧
      [" "] ≠ [] ∧ (∀ name ∈ [" "], ',' ∉ name.toList) ∧
      ∃ options, Options.ofValue (listing [" "]) = .ok options ∧
        (Selection.columns library options.columns).outcome =
          .error (.columnNotFound (.text "") (.text "library")) := by
  have free : ∀ name ∈ [" "], ',' ∉ name.toList := by
    decide
  have trimmed : elements [" "] = [""] := by
    decide +kernel
  rcases columns_of_listing library textual_library.columns [" "] (by decide) free with
    ⟨options, read, elementwise, -⟩
  refine ⟨textual_library.columns, by decide, free, options, read, ?_⟩
  rw [(elementwise (by decide)).1, trimmed, List.mapM_cons,
    resolve_of_refused textual_library refused_unnamed]
  rfl

/--
A list of the empty text alone selects all temporal columns, although there is
no column by the name of its item.
-/
theorem columns_of_listing_empty :
    ∃ options, Options.ofValue (listing [""]) = .ok options ∧
      (Selection.columns library options.columns).outcome = .ok [
          ⟨.text "made_on", .text "date", .text "MadeOn"⟩,
          ⟨.text "sold_at", .text " TimeStamp ", .text "SoldAt"⟩] ∧
      (elements [""]).mapM (fun name => resolve library (.text name)) =
        .error (.columnNotFound (.text "") (.text "library")) := by
  have date : isTemporalText "date" = true := by
    decide +kernel
  have varchar : isTemporalText "VARCHAR(40)" = false := by
    decide +kernel
  have timestamp : isTemporalText " TimeStamp " = true := by
    decide +kernel
  have temporalColumns : (Schema.columns library).filter isTemporal = [
      ⟨.text "made_on", .text "date", .text "MadeOn"⟩,
      ⟨.text "sold_at", .text " TimeStamp ", .text "SoldAt"⟩] := by
    simp [library, Schema.columns, isTemporal, date, varchar, timestamp]
  refine ⟨listingOptions [""], ofValue_listing [""], ?_, ?_⟩
  · have nothing : (listingOptions [""]).columns.isTruthy = false := by
      rfl
    rw [columns_of_silent library nothing, Run.outcome_ofExcept,
      temporal_of_textual textual_library.columns, temporalColumns]
  · have trimmed : elements [""] = [""] := by
      decide +kernel
    rw [trimmed, List.mapM_cons, resolve_of_refused textual_library refused_unnamed]
    rfl

end DateGetters.Proofs.ColumnLists
