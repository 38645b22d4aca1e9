import DateGetters.Proofs.JoinedLists
import DateGetters.Proofs.LocaleInfluence

/-!
# Tables that change

A table changes in the course of time: columns are added, dropped, or put in
another order.  With a list of columns, generation depends on the listed columns
only, so that two tables which agree on these give the same run.  Without a
list, columns that are not temporal have no influence, and the getters of some
columns in front of others are the getters of the former in front of those of
the latter.

The selection of columns is compared first; what else a run reads of a table is
its name.
-/

namespace DateGetters.Proofs.TableEvolution

open DateGetters.Proofs.ColumnSelection
open DateGetters.Proofs.GenerationOutcome
open DateGetters.Proofs.GenerationTrace
open DateGetters.Proofs.GetterRendering
open DateGetters.Proofs.JoinedLists
open DateGetters.Proofs.LocaleInfluence
open DateGetters.Proofs.OptionReading
open DateGetters.Proofs.Outcomes
open DateGetters.Proofs.SchemaLookup
open DateGetters.Selection

variable {σ τ υ : Type} [Schema σ] [Schema τ] [Schema υ]

/-! ## What parameters ask for -/

/-- Parameters with a list of columns that is not empty, if they can be read. -/
structure Lists (parameters : Value) (names : String) : Prop where
  nonempty : names ≠ ""
  read : ∀ options, Options.ofValue parameters = .ok options → options.columns = .text names

/-- Parameters without a list of columns, if they can be read. -/
def ListsNothing (parameters : Value) : Prop :=
  ∀ options, Options.ofValue parameters = .ok options → options.columns.isTruthy = false

/-- Parameters give the same run if the options do that they are read as, if they are read. -/
theorem generateWith_congr
    {before : σ} {after : τ} {parameters : Value}
    (same : ∀ options, Options.ofValue parameters = .ok options →
      generate before options = generate after options) :
    generateWith before parameters = generateWith after parameters := by
  cases read : Options.ofValue parameters with
  | error fault =>
      rw [generateWith_of_unreadable before read, generateWith_of_unreadable after read]
  | ok options =>
      rw [generateWith_of_ofValue before read, generateWith_of_ofValue after read,
        same options read]

/-! ## Listed columns -/

/-- Tables that have the same column of a name, or both none. -/
def AgreeOn (before : σ) (after : τ) (name : String) : Prop :=
  ∀ column, column.name = .text name →
    (column ∈ Schema.columns before ↔ column ∈ Schema.columns after)

/-- A table whose columns differ in their names. -/
def DistinctNames (table : σ) : Prop :=
  ((Schema.columns table).map Column.name).Nodup

section Listed

variable {before : σ} {after : τ}

theorem find?_of_agree
    (distinct : DistinctNames after)
    {name : String} (agree : AgreeOn before after name) :
    (Schema.columns before).find? (·.name.same (.text name)) =
      (Schema.columns after).find? (·.name.same (.text name)) := by
  cases found : (Schema.columns before).find? (·.name.same (.text name)) with
  | none =>
      have unnamed := (find?_eq_none_iff _ name).mp found
      symm
      rw [find?_eq_none_iff]
      intro column member named
      exact unnamed column ((agree column named).mpr member) named
  | some column =>
      rcases mem_of_find? found with ⟨member, named⟩
      exact (find?_of_mem distinct ((agree column named).mp member) named).symm

variable [LawfulSchema σ] [LawfulSchema τ]

theorem resolveAll_of_agree
    (sameName : Schema.name before = Schema.name after)
    (distinct : DistinctNames after)
    {names : List String} (agree : ∀ name ∈ names, AgreeOn before after name) :
    resolveAll before names = resolveAll after names := by
  induction names with
  | nil =>
      rfl
  | cons name others ih =>
      rw [List.forall_mem_cons] at agree
      have sameFirst : resolve before (.text name) = resolve after (.text name) := by
        rw [resolve_text, resolve_text, find?_of_agree distinct agree.1, sameName]
      rw [resolveAll, resolveAll, sameFirst, ih agree.2]

/-- A list selects the same columns from tables that agree on the listed names. -/
theorem columns_of_agree
    (sameName : Schema.name before = Schema.name after)
    (distinct : DistinctNames after)
    {names : String} (nonempty : names ≠ "")
    (agree : ∀ name ∈ namesIn names, AgreeOn before after name) :
    Selection.columns before (.text names) = Selection.columns after (.text names) := by
  have agreeRequested : ∀ name ∈ requestedNames names, AgreeOn before after name := by
    intro name member
    exact agree name (List.mem_eraseDups.mp member)
  rw [columns_of_names before nonempty, columns_of_names after nonempty,
    resolveAll_of_agree sameName distinct agreeRequested]

end Listed

/-! ## Columns that are not temporal -/

/-- A list of columns, and one into which columns that are not temporal have been inserted. -/
inductive Inserted : List Column → List Column → Prop where
  | nil : Inserted [] []
  | kept (column : Column) {old new : List Column}
      (rest : Inserted old new) :
      Inserted (column :: old) (column :: new)
  | added {column : Column} {old new : List Column}
      (notTemporal : isTemporalType column.declaredType = .ok false)
      (rest : Inserted old new) :
      Inserted old (column :: new)

theorem temporal_of_inserted
    {old new : List Column}
    (inserted : Inserted old new) :
    temporal new = temporal old := by
  induction inserted with
  | nil =>
      rfl
  | kept column _ ih =>
      rw [temporal, temporal, ih]
  | added notTemporal _ ih =>
      rw [temporal, notTemporal, ok_bind, ih]
      exact bind_pure _

/-! ## Columns in front of others -/

theorem temporal_append (front back : List Column) :
    temporal (front ++ back) = (do
      let first ← temporal front
      let second ← temporal back
      return first ++ second) := by
  induction front with
  | nil =>
      exact (bind_pure _).symm
  | cons column others ih =>
      rw [List.cons_append, temporal, temporal, ih]
      simp only [bind_assoc, pure_bind]
      congr
      ext wanted
      cases wanted <;> rfl

/-- Two blocks with a line feed between them, or the one that is not empty. -/
def stacked (first second : String) : String :=
  if first = "" then second else if second = "" then first else first ++ "\n" ++ second

theorem block_ne_empty
    (kind : TemplateKind) (literal : String)
    {getters : List Getter} (nonempty : getters ≠ []) :
    block kind literal getters ≠ "" := by
  intro empty
  cases getters with
  | nil =>
      exact nonempty rfl
  | cons getter others =>
      have characters := congrArg String.toList empty
      rw [block, List.map_cons, source_eq] at characters
      cases others with
      | nil =>
          simp at characters
      | cons second more =>
          simp at characters

theorem block_stacked
    (kind : TemplateKind) (literal : String) (front back : List Getter) :
    block kind literal (front ++ back) =
      stacked (block kind literal front) (block kind literal back) := by
  have nothing : block kind literal [] = "" := rfl
  by_cases frontEmpty : front = []
  · rw [frontEmpty, List.nil_append, stacked, if_pos nothing]
  · have frontSome := block_ne_empty kind literal frontEmpty
    by_cases backEmpty : back = []
    · rw [backEmpty, List.append_nil, stacked, if_neg frontSome, if_pos nothing]
    · have backSome := block_ne_empty kind literal backEmpty
      rw [block_append kind literal frontEmpty backEmpty, stacked, if_neg frontSome,
        if_neg backSome]

section Stacking

variable {front : σ} {back : τ} {whole : υ}

/-- Without a list, the getters of a table are those of its columns in front and behind. -/
theorem generate_of_stacked
    (columns : Schema.columns whole = Schema.columns front ++ Schema.columns back)
    {options : Options} (silent : options.columns.isTruthy = false) (text : String) :
    (generate whole options).outcome = .ok text ↔
      ∃ first second, (generate front options).outcome = .ok first ∧
        (generate back options).outcome = .ok second ∧ text = stacked first second := by
  simp only [outcome_generate, Getter.selected, map_eq_ok_iff, bind_eq_ok_iff,
    columns_of_silent _ silent, Run.outcome_ofExcept, columns, temporal_append]
  constructor
  · rintro ⟨getters, ⟨checked, valid, selected, chosen, named⟩, rfl⟩
    rcases chosen with ⟨first, chosenFirst, second, chosenSecond, joined⟩
    rw [← Except.ok.inj joined, List.mapM_append, bind_eq_ok_iff] at named
    rcases named with ⟨firstGetters, namedFirst, named⟩
    rcases (bind_eq_ok_iff _ _ _).mp named with ⟨secondGetters, namedSecond, all⟩
    rw [← Except.ok.inj all, block_stacked]
    exact ⟨_, _, ⟨firstGetters, ⟨checked, valid, first, chosenFirst, namedFirst⟩, rfl⟩,
      ⟨secondGetters, ⟨checked, valid, second, chosenSecond, namedSecond⟩, rfl⟩, rfl⟩
  · rintro ⟨_, _, ⟨firstGetters, ⟨checked, valid, first, chosenFirst, namedFirst⟩, rfl⟩,
      ⟨secondGetters, ⟨_, _, second, chosenSecond, namedSecond⟩, rfl⟩, rfl⟩
    refine ⟨firstGetters ++ secondGetters, ⟨checked, valid, first ++ second, ?_, ?_⟩,
      block_stacked _ _ _ _⟩
    · exact ⟨first, chosenFirst, second, chosenSecond, rfl⟩
    · rw [List.mapM_append, namedFirst, namedSecond]
      rfl

/-- Without a list, a valid format and textual columns are all that generation needs. -/
theorem exists_text_of_textual
    {table : σ} (textual : ∀ column ∈ Schema.columns table, IsTextual column)
    {options : Options} {format : String} (shows : Shows options.nameFormat format)
    (valid : NameFormat.validate options.nameFormat = .ok ())
    (silent : options.columns.isTruthy = false) :
    ∃ text, (generate table options).outcome = .ok text := by
  have selected : temporal (Schema.columns table) =
      .ok ((Schema.columns table).filter isTemporal) :=
    temporal_of_textual textual
  have named := mapM_ofColumn_of_textual shows
    fun column (member : column ∈ (Schema.columns table).filter isTemporal) =>
      textual column (List.mem_of_mem_filter member)
  rw [outcome_generate, Getter.selected, valid, ok_bind, columns_of_silent table silent,
    Run.outcome_ofExcept, selected, ok_bind, named]
  exact ⟨_, rfl⟩

end Stacking

/-! ## The main statement -/

/-- What becomes of generation with some parameters when tables change. -/
structure Undisturbed (σ τ υ : Type) [Schema σ] [Schema τ] [Schema υ] (parameters : Value) :
    Prop where
  /-- With a list, only the listed columns matter. -/
  listed :
    ∀ (before : σ) (after : τ), Schema.name before = Schema.name after →
    DistinctNames after →
    ∀ names, Lists parameters names →
    (∀ name ∈ Selection.namesIn names, AgreeOn before after name) →
      generateWith before parameters = generateWith after parameters
  /-- Without a list, columns that are not temporal do not matter. -/
  inserted :
    ListsNothing parameters →
    ∀ (before : σ) (after : τ), Schema.name before = Schema.name after →
    Inserted (Schema.columns before) (Schema.columns after) →
      generateWith before parameters = generateWith after parameters
  /-- Without a list, the text of a table is made of those of its columns in front and behind. -/
  stacked :
    ListsNothing parameters →
    ∀ (front : σ) (back : τ) (whole : υ),
    Schema.columns whole = Schema.columns front ++ Schema.columns back →
    ∀ text, (generateWith whole parameters).outcome = .ok text ↔
      ∃ first second, (generateWith front parameters).outcome = .ok first ∧
        (generateWith back parameters).outcome = .ok second ∧
        text = TableEvolution.stacked first second
  /-- There are these texts if the format is valid and all columns are textual. -/
  generated :
    ListsNothing parameters →
    ∀ options, Options.ofValue parameters = .ok options →
    NameFormat.validate options.nameFormat = .ok () →
    ∀ (whole : υ), (∀ column ∈ Schema.columns whole, IsTextual column) →
      ∃ text, (generateWith whole parameters).outcome = .ok text

/-- Changes of a table leave the getters of unrelated columns alone, whatever the parameters. -/
theorem generateWith_undisturbed
    [LawfulSchema σ] [LawfulSchema τ] (parameters : Value) :
    Undisturbed σ τ υ parameters := by
  constructor
  case listed =>
    intro before after sameName distinct names lists agree
    apply generateWith_congr
    intro options read
    have sameColumns := columns_of_agree sameName distinct lists.nonempty agree
    rw [← lists.read options read] at sameColumns
    exact generate_congr sameName sameColumns rfl rfl fun column => rfl
  case inserted =>
    intro nothing before after sameName inserted
    apply generateWith_congr
    intro options read
    have silent := nothing options read
    have sameColumns : Selection.columns before options.columns =
        Selection.columns after options.columns := by
      rw [columns_of_silent before silent, columns_of_silent after silent,
        temporal_of_inserted inserted]
    exact generate_congr sameName sameColumns rfl rfl fun column => rfl
  case stacked =>
    intro nothing front back whole columns text
    cases read : Options.ofValue parameters with
    | error fault =>
        rw [generateWith_of_unreadable whole read, generateWith_of_unreadable front read]
        constructor
        · intro failed
          cases failed
        · rintro ⟨first, second, failed, -⟩
          cases failed
    | ok options =>
        rw [generateWith_of_ofValue whole read, generateWith_of_ofValue front read,
          generateWith_of_ofValue back read]
        exact generate_of_stacked columns (nothing options read) text
  case generated =>
    intro nothing options read valid whole textual
    rw [generateWith_of_ofValue whole read]
    cases normal_of_ofValue read with
    | texts formatShows _ _ _ =>
        exact exists_text_of_textual textual formatShows valid (nothing _ read)

/-- The library with its columns in another order, one of them dropped and one added. -/
def rebuiltLibrary : Table :=
  ⟨.text "library", [
    ⟨.text "sold_at", .text " TimeStamp ", .text "SoldAt"⟩,
    ⟨.text "lent_on", .text "DATE", .text "LentOn"⟩,
    ⟨.text "made_on", .text "date", .text "MadeOn"⟩]⟩

/-- The library without the column that is not temporal. -/
def datesOfLibrary : Table :=
  ⟨.text "library", [
    ⟨.text "made_on", .text "date", .text "MadeOn"⟩,
    ⟨.text "sold_at", .text " TimeStamp ", .text "SoldAt"⟩]⟩

def listingDates : Value :=
  .map [(.text "columns", .text "sold_at ,made_on")]

theorem lists_listingDates : Lists listingDates "sold_at ,made_on" where
  nonempty := by
    decide
  read options read := by
    have given : Value.text "sold_at ,made_on" ≠ .null := nofun
    have asText : Options.ofValue listingDates =
        .ok { Options.builtin with columns := .text "sold_at ,made_on" } :=
      ofValue_of_columns given (Value.toText?_text _)
    rw [asText] at read
    rw [← Except.ok.inj read]

theorem agreeOn_rebuiltLibrary :
    ∀ name ∈ namesIn "sold_at ,made_on", AgreeOn library rebuiltLibrary name := by
  have names : namesIn "sold_at ,made_on" = ["sold_at", "made_on"] := by
    decide +kernel
  rw [names, List.forall_mem_cons, List.forall_mem_singleton]
  constructor
  all_goals
    intro column named
    simp only [library, rebuiltLibrary, Schema.columns, List.mem_cons, List.not_mem_nil, or_false]
    constructor
    all_goals
      rintro (rfl | rfl | rfl) <;> simp at named ⊢

theorem inserted_library :
    Inserted (Schema.columns datesOfLibrary) (Schema.columns library) := by
  have varchar : isTemporalText "VARCHAR(40)" = false := by
    decide +kernel
  have notTemporal : isTemporalType (.text "VARCHAR(40)") = .ok false := by
    rw [isTemporalType_text, varchar]
  exact .kept _ (.added notTemporal (.kept _ .nil))

theorem listsNothing_empty : ListsNothing (.map []) := by
  intro options read
  rw [← Except.ok.inj read]
  rfl

/-- The first column of the library, and those behind it. -/
def frontOfLibrary : Table := ⟨.text "front", library.columns.take 1⟩

def backOfLibrary : Table := ⟨.text "back", library.columns.drop 1⟩

/-- A library that is rebuilt, one without a title, and one in two parts. -/
theorem generateWith_undisturbed_library :
    (Lists listingDates "sold_at ,made_on" ∧ DistinctNames rebuiltLibrary ∧
        (∀ name ∈ namesIn "sold_at ,made_on", AgreeOn library rebuiltLibrary name) ∧
        generateWith library listingDates = generateWith rebuiltLibrary listingDates) ∧
      (ListsNothing (.map []) ∧
        Inserted (Schema.columns datesOfLibrary) (Schema.columns library) ∧
        generateWith datesOfLibrary (.map []) = generateWith library (.map [])) ∧
      ∃ text first second, (generateWith library (.map [])).outcome = .ok text ∧
        (generateWith frontOfLibrary (.map [])).outcome = .ok first ∧
        (generateWith backOfLibrary (.map [])).outcome = .ok second ∧
        text = stacked first second := by
  have listing : Undisturbed Table Table Table listingDates := generateWith_undisturbed _
  have silent : Undisturbed Table Table Table (.map []) := generateWith_undisturbed _
  have distinct : DistinctNames rebuiltLibrary := by
    simp [DistinctNames, rebuiltLibrary, Schema.columns]
  have rebuilt := listing.listed library rebuiltLibrary rfl distinct _ lists_listingDates
    agreeOn_rebuiltLibrary
  have untitled := silent.inserted listsNothing_empty datesOfLibrary library rfl inserted_library
  have parts : Schema.columns library =
      Schema.columns frontOfLibrary ++ Schema.columns backOfLibrary :=
    (List.take_append_drop 1 library.columns).symm
  rcases silent.generated listsNothing_empty Options.builtin rfl rfl library
    textual_library.columns with ⟨text, generated⟩
  rcases (silent.stacked listsNothing_empty _ _ library parts text).mp generated with
    ⟨first, second, inFront, behind, whole⟩
  exact ⟨⟨lists_listingDates, distinct, agreeOn_rebuiltLibrary, rebuilt⟩,
    ⟨listsNothing_empty, inserted_library, untitled⟩,
    text, first, second, generated, inFront, behind, whole⟩

end DateGetters.Proofs.TableEvolution
