import DateGetters.Config.Session
import DateGetters.Proofs.EntryLookup
import DateGetters.Proofs.Outcomes

/-!
# Options of a table while a configuration is in use

A configuration is told defaults and options of tables, and asked for the
options of a table, in any order.  At each point the options of a table are
decided one by one: by what was last told of the option for the table, if the
table's options have it at all, and otherwise by what was last told of it as a
default.  A null for the table resets an option to what is built in, and a null
as a default counts as nothing.

What a single request does to a look-up is stated first; what a whole run does
follows from that by induction over the requests.
-/

namespace DateGetters.Proofs.ConfigurationRuns

open DateGetters.Config
open DateGetters.Proofs.EntryLookup
open DateGetters.Proofs.Outcomes

/-! ## Deciding an option -/

/-- A value that is not null. -/
def nonNull : Value → Option Value
  | .null => none
  | value => some value

/-- The value that decides an option, given that of the table and the default, if there are. -/
def deciding (own default : Option Value) : Option Value :=
  match own with
  | some value => nonNull value
  | none => default.bind nonNull

/--
Options that are decided one by one, each by the value of the table or the
default one, and are then read as those of any mapping are.
-/
structure Decided (own default : String → Option Value) (options : Options) : Prop where
  nameFormat :
    Options.readOr (.text Options.builtinNameFormat) Value.textValue?
      (deciding (own "function_name_format") (default "function_name_format")) =
        .ok options.nameFormat
  columns :
    Options.readOr .null Options.columnsValue?
      (deciding (own "columns") (default "columns")) = .ok options.columns
  useLocale :
    options.useLocale =
      .bool (((deciding (own "use_intl") (default "use_intl")).map Options.isOn).getD false)
  defaultLocale :
    Options.readOr (.text Options.builtinLocale) Value.textValue?
      (deciding (own "default_locale") (default "default_locale")) = .ok options.defaultLocale

theorem given?_eq (entries : Entries) (key : String) :
    Options.given? entries key = (entries.find? (.text key)).bind nonNull := by
  rw [Options.given?]
  cases entries.find? (.text key) with
  | none =>
      rfl
  | some value =>
      cases value <;> rfl

theorem given?_overlay
    {own : Entries} (distinct : Distinct own)
    (defaults : Entries) (key : String) :
    Options.given? (defaults.overlay own) key =
      deciding (own.find? (.text key)) (defaults.find? (.text key)) := by
  rw [given?_eq, find?_overlay distinct]
  cases own.find? (.text key) <;> rfl

/-- The options of one mapping over another are decided one by one. -/
theorem ofEntries_overlay_eq_ok_iff
    {own : Entries} (distinct : Distinct own)
    (defaults : Entries) (options : Options) :
    Options.ofEntries (defaults.overlay own) = .ok options ↔
      Decided (fun key => own.find? (.text key)) (fun key => defaults.find? (.text key))
        options := by
  simp only [Options.ofEntries, bind_eq_ok_iff, given?_overlay distinct]
  constructor
  · rintro ⟨columns, readColumns, format, readFormat, locale, readLocale, done⟩
    rw [← Except.ok.inj done]
    exact ⟨readFormat, readColumns, rfl, readLocale⟩
  · rintro ⟨readFormat, readColumns, useLocale, readLocale⟩
    refine ⟨_, readColumns, _, readFormat, _, readLocale, ?_⟩
    rcases options with ⟨format, columns, switch, locale⟩
    exact congrArg _ (congrArg (Options.mk format columns · locale) useLocale.symm)

/-! ## Well-formed configurations -/

/-- What can stand for the options of a table: a mapping, or nothing. -/
inductive IsTableOptions : Value → Prop where
  | nothing : IsTableOptions .null
  | mapping {entries : Entries} (distinct : Distinct entries) : IsTableOptions (.map entries)

/-- A configuration in which a mapping or nothing stands for the options of each table. -/
def WellFormed (config : Config) : Prop :=
  ∀ entry ∈ config.tables, IsTableOptions entry.2

/-- Whether a request sets nothing but such options for tables. -/
def Permitted : Request → Prop
  | .setTable _ options => IsTableOptions options
  | _ => True

/-- The entries of a table's options, if there are any. -/
def entriesIn : Option Value → Entries
  | some (.map entries) => entries
  | _ => []

theorem ownOptions_of_wellFormed
    {config : Config} (wellFormed : WellFormed config) (table : String) :
    config.ownOptions (.text table) = .ok (entriesIn (config.tables.find? (.text table))) ∧
      Distinct (entriesIn (config.tables.find? (.text table))) := by
  rw [ownOptions]
  cases found : config.tables.find? (.text table) with
  | none =>
      exact ⟨rfl, .nil⟩
  | some options =>
      rcases mem_of_find? found with ⟨name, member⟩
      have proper : IsTableOptions options := wellFormed _ member
      cases proper with
      | nothing =>
          exact ⟨rfl, .nil⟩
      | mapping distinct =>
          exact ⟨rfl, distinct⟩

theorem optionsFor_eq_ok_iff
    {config : Config} (wellFormed : WellFormed config) (table : String) (options : Options) :
    config.optionsFor (.text table) = .ok options ↔
      Decided (fun key => (entriesIn (config.tables.find? (.text table))).find? (.text key))
        (fun key => config.defaults.find? (.text key)) options := by
  rcases ownOptions_of_wellFormed wellFormed table with ⟨own, distinct⟩
  rw [← ofEntries_overlay_eq_ok_iff distinct, optionsFor, mergedEntries, own]
  rfl

/-! ## What a request does -/

/-- The value that a request sets as the default of an option. -/
def defaultSet? (key : String) : Request → Option Value
  | .setDefault name value => if name.same (.text key) then some value else none
  | _ => none

/-- The value that a request sets for the options of a table. -/
def optionsSet? (table : String) : Request → Option Value
  | .setTable name options => if name.same (.text table) then some options else none
  | _ => none

/-- Whether a request only asks. -/
def IsQuestion : Request → Prop
  | .setDefault _ _ | .setTable _ _ => False
  | _ => True

/-- A question leaves the configuration as it is, whatever the answer. -/
theorem after_question
    {request : Request} (question : IsQuestion request) (config : Config) :
    config.after request = config := by
  cases request with
  | setDefault key value =>
      exact question.elim
  | setTable table options =>
      exact question.elim
  | optionsFor table =>
      exact after_optionsFor config table
  | tableNames =>
      rfl
  | everything =>
      rfl

theorem after_setDefault (config : Config) (key value : Value) :
    config.after (.setDefault key value) =
      if key.isKey then { config with defaults := config.defaults.put key value } else config := by
  rw [after, answer, setDefault]
  by_cases isKey : key.isKey = true
  · rw [if_pos isKey, if_pos isKey]
    rfl
  · rw [if_neg isKey, if_neg isKey]
    rfl

theorem after_setTable (config : Config) (table options : Value) :
    config.after (.setTable table options) =
      if table.isKey then { config with tables := config.tables.put table options }
      else config := by
  rw [after, answer, setTable]
  by_cases isKey : table.isKey = true
  · rw [if_pos isKey, if_pos isKey]
    rfl
  · rw [if_neg isKey, if_neg isKey]
    rfl

theorem not_same_text_of_not_isKey
    {key : Value} (unusable : ¬ key.isKey = true) (name : String) :
    ¬ key.same (.text name) = true := by
  rw [Value.same_text_iff]
  rintro rfl
  exact unusable rfl

/-- A request changes a default by setting it, and in no other way. -/
theorem find?_defaults_after (config : Config) (request : Request) (key : String) :
    (config.after request).defaults.find? (.text key) =
      (defaultSet? key request).or (config.defaults.find? (.text key)) := by
  cases request with
  | setDefault name value =>
      rw [after_setDefault, defaultSet?]
      by_cases isKey : name.isKey = true
      · rw [if_pos isKey, find?_put]
      · rw [if_neg isKey, if_neg (not_same_text_of_not_isKey isKey key)]
        rfl
  | setTable table options =>
      rw [after_setTable]
      split <;> rfl
  | optionsFor table =>
      rw [after_optionsFor]
      rfl
  | tableNames =>
      rfl
  | everything =>
      rfl

theorem find?_tables_after (config : Config) (request : Request) (table : String) :
    (config.after request).tables.find? (.text table) =
      (optionsSet? table request).or (config.tables.find? (.text table)) := by
  cases request with
  | setDefault key value =>
      rw [after_setDefault]
      split <;> rfl
  | setTable name options =>
      rw [after_setTable, optionsSet?]
      by_cases isKey : name.isKey = true
      · rw [if_pos isKey, find?_put]
      · rw [if_neg isKey, if_neg (not_same_text_of_not_isKey isKey table)]
        rfl
  | optionsFor table =>
      rw [after_optionsFor]
      rfl
  | tableNames =>
      rfl
  | everything =>
      rfl

theorem wellFormed_after
    {config : Config} (wellFormed : WellFormed config)
    {request : Request} (permitted : Permitted request) :
    WellFormed (config.after request) := by
  cases request with
  | setDefault key value =>
      rw [after_setDefault]
      split
      · exact wellFormed
      · exact wellFormed
  | setTable table options =>
      rw [after_setTable]
      split
      · intro entry member
        rcases mem_put member with put | there
        · rw [put]
          exact permitted
        · exact wellFormed entry there
      · exact wellFormed
  | optionsFor table =>
      rw [after_optionsFor]
      exact wellFormed
  | tableNames =>
      exact wellFormed
  | everything =>
      exact wellFormed

/-! ## What a run does -/

/-- What was set last in a number of requests, or what there was before them. -/
def latest (set? : Request → Option Value) (requests : List Request)
    (initial : Option Value) : Option Value :=
  (requests.filterMap set?).getLast?.or initial

theorem latest_cons
    (set? : Request → Option Value) (request : Request) (requests : List Request)
    (initial : Option Value) :
    latest set? (request :: requests) initial =
      latest set? requests ((set? request).or initial) := by
  rw [latest, latest]
  cases found : set? request with
  | none =>
      rw [List.filterMap_cons_none found]
      rfl
  | some value =>
      rw [List.filterMap_cons_some found, List.getLast?_cons]
      cases (requests.filterMap set?).getLast? <;> rfl

/-- If each request changes a view by what it sets, a run changes it by what it sets last. -/
theorem view_afterAll
    (view : Config → Option Value) (set? : Request → Option Value)
    (step : ∀ config request, view (config.after request) = (set? request).or (view config))
    (config : Config) (requests : List Request) :
    view (config.afterAll requests) = latest set? requests (view config) := by
  induction requests generalizing config with
  | nil =>
      rfl
  | cons request others ih =>
      rw [afterAll_cons, ih, step, latest_cons]

theorem wellFormed_afterAll
    {config : Config} (wellFormed : WellFormed config)
    {requests : List Request} (permitted : ∀ request ∈ requests, Permitted request) :
    WellFormed (config.afterAll requests) := by
  induction requests generalizing config with
  | nil =>
      exact wellFormed
  | cons request others ih =>
      rw [List.forall_mem_cons] at permitted
      rw [afterAll_cons]
      exact ih (wellFormed_after wellFormed permitted.1) permitted.2

/-- The default of an option after a run: the one set last, or the one before it. -/
def defaultAfter (config : Config) (requests : List Request) (key : String) : Option Value :=
  latest (defaultSet? key) requests (config.defaults.find? (.text key))

/-- The options of a table after a run: those set last, or those before it. -/
def optionsAfter (config : Config) (requests : List Request) (table : String) : Entries :=
  entriesIn (latest (optionsSet? table) requests (config.tables.find? (.text table)))

/--
What the options of a table are after a run, and which further requests leave
them as they are.
-/
structure Overlaid (config : Config) (requests : List Request) (table : String) : Prop where
  answer :
    ∀ options, (config.afterAll requests).optionsFor (.text table) = .ok options ↔
      Decided (fun key => (optionsAfter config requests table).find? (.text key))
        (defaultAfter config requests) options
  question :
    ∀ request, IsQuestion request →
      (config.afterAll requests).after request = config.afterAll requests
  otherTable :
    ∀ other options, other ≠ .text table →
      ((config.afterAll requests).after (.setTable other options)).optionsFor (.text table) =
        (config.afterAll requests).optionsFor (.text table)
  ownOption :
    ∀ key value, ((optionsAfter config requests table).find? key).isSome = true →
      ((config.afterAll requests).after (.setDefault key value)).optionsFor (.text table) =
        (config.afterAll requests).optionsFor (.text table)

/-- The options of a table depend on no other table's. -/
theorem optionsFor_after_otherTable
    (config : Config) {table : String} {other : Value}
    (different : other ≠ .text table) (options : Value) :
    (config.after (.setTable other options)).optionsFor (.text table) =
      config.optionsFor (.text table) := by
  rw [after_setTable]
  split
  · simp only [optionsFor, mergedEntries, ownOptions, find?_put_other different]
  · rfl

theorem ofEntries_congr
    {entries others : Entries}
    (same : ∀ key, Options.given? entries key = Options.given? others key) :
    Options.ofEntries entries = Options.ofEntries others := by
  simp only [Options.ofEntries, same]

/-- A default has no influence on the options of a table that have the option themselves. -/
theorem optionsFor_after_ownOption
    {config : Config} (wellFormed : WellFormed config)
    {table : String} {key : Value} (value : Value)
    (present : ((entriesIn (config.tables.find? (.text table))).find? key).isSome = true) :
    (config.after (.setDefault key value)).optionsFor (.text table) =
      config.optionsFor (.text table) := by
  rcases ownOptions_of_wellFormed wellFormed table with ⟨own, distinct⟩
  rw [after_setDefault]
  split
  · have ownAfter : ({ config with defaults := config.defaults.put key value } : Config).ownOptions
        (.text table) = .ok (entriesIn (config.tables.find? (.text table))) := own
    have sameRead : Options.ofEntries ((config.defaults.put key value).overlay
          (entriesIn (config.tables.find? (.text table)))) =
        Options.ofEntries (config.defaults.overlay
          (entriesIn (config.tables.find? (.text table)))) := by
      apply ofEntries_congr
      intro name
      rw [given?_overlay distinct, given?_overlay distinct]
      -- Under the key of the new default, the table's own value is found first.
      by_cases same : key = .text name
      · rw [same] at present
        rcases Option.isSome_iff_exists.mp present with ⟨decided, found⟩
        rw [found]
        rfl
      · rw [find?_put_other same]
    rw [optionsFor, optionsFor, mergedEntries, mergedEntries, ownAfter, own]
    exact congrArg (if (Value.text table).isKey then · else _) sameRead
  · rfl

theorem find?_defaults_afterAll (config : Config) (requests : List Request) (key : String) :
    (config.afterAll requests).defaults.find? (.text key) = defaultAfter config requests key := by
  exact view_afterAll (fun state => state.defaults.find? (.text key)) (defaultSet? key)
    (fun state request => find?_defaults_after state request key) config requests

theorem entriesIn_afterAll (config : Config) (requests : List Request) (table : String) :
    entriesIn ((config.afterAll requests).tables.find? (.text table)) =
      optionsAfter config requests table := by
  apply congrArg entriesIn
  exact view_afterAll (fun state => state.tables.find? (.text table)) (optionsSet? table)
    (fun state request => find?_tables_after state request table) config requests

/--
From any well-formed configuration, after any run of requests, the options of a
table are decided one by one: by what was last set for the table, by the default
that was last set, or by what is built in.
-/
theorem optionsFor_afterAll
    (config : Config) (wellFormed : WellFormed config)
    (requests : List Request) (permitted : ∀ request ∈ requests, Permitted request)
    (table : String) :
    Overlaid config requests table := by
  have wellFormedAfter := wellFormed_afterAll wellFormed permitted
  constructor
  case answer =>
    intro options
    rw [optionsFor_eq_ok_iff wellFormedAfter, entriesIn_afterAll]
    simp only [find?_defaults_afterAll]
  case question =>
    intro request question
    exact after_question question _
  case otherTable =>
    intro other options different
    exact optionsFor_after_otherTable _ different options
  case ownOption =>
    intro key value present
    apply optionsFor_after_ownOption wellFormedAfter
    rw [entriesIn_afterAll]
    exact present

/-- Tables of which one resets the locale and the other has no options yet. -/
def bookShop : Config where
  defaults := [(.text "use_intl", .bool true), (.text "default_locale", .text "de_DE")]
  tables :=
    [(.text "book", .map [(.text "default_locale", .null)]), (.text "author", .null)]

/-- Questions between settings, one of which fails as its key is none. -/
def bookRequests : List Request :=
  [.optionsFor (.text "book"), .setDefault (.text "default_locale") (.text "fr_FR"),
    .setTable (.text "author") (.map [(.text "columns", .text "born")]),
    .setDefault (.list []) (.text "lost"), .tableNames,
    .setDefault (.text "columns") (.text "made")]

theorem wellFormed_bookShop : WellFormed bookShop := by
  intro entry member
  simp only [bookShop, List.mem_cons, List.not_mem_nil, or_false] at member
  rcases member with rfl | rfl
  · exact .mapping (List.pairwise_singleton _ _)
  · exact .nothing

theorem permitted_bookRequests : ∀ request ∈ bookRequests, Permitted request := by
  simp only [bookRequests, List.forall_mem_cons, Permitted, true_and]
  exact ⟨.mapping (List.pairwise_singleton _ _), by simp⟩

/-- The locale that the table resets is the built-in one, though the default one was changed. -/
theorem optionsFor_afterAll_book :
    WellFormed bookShop ∧
      (∀ request ∈ bookRequests, Permitted request) ∧
      (bookShop.afterAll bookRequests).optionsFor (.text "book") =
        .ok ⟨.text Options.builtinNameFormat, .text "made", .bool true,
          .text Options.builtinLocale⟩ := by
  have overlaid := optionsFor_afterAll bookShop wellFormed_bookShop bookRequests
    permitted_bookRequests "book"
  have noKey (name : String) : ¬ (Value.list []).same (.text name) = true :=
    not_same_text_of_not_isKey (by simp [Value.isKey]) name
  have own : optionsAfter bookShop bookRequests "book" = [(.text "default_locale", .null)] := by
    simp [optionsAfter, latest, bookShop, bookRequests, optionsSet?, entriesIn, Entries.find?,
      List.findSome?_cons]
  refine ⟨wellFormed_bookShop, permitted_bookRequests, (overlaid.answer _).mpr ?_⟩
  rw [own]
  constructor <;>
    simp [deciding, nonNull, defaultAfter, latest, defaultSet?, bookShop, bookRequests, noKey,
      Entries.find?, Options.readOr, Options.columnsValue?, Options.columnsText?, Options.isOn,
      List.findSome?_cons, Except.map]

end DateGetters.Proofs.ConfigurationRuns
