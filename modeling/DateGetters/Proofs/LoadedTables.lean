import DateGetters.Proofs.ConfigurationShape
import DateGetters.Proofs.EntryLookup
import DateGetters.Proofs.OptionNormalForm
import Mathlib.Data.List.Nodup

/-!
# The tables of a loaded configuration

The tables of a configuration are kept under the texts of their keys in the
file.  If no two keys have the same text, every entry of the file is a table of
the configuration, in the order of the file and with its own options.

A key that is a text may be the text of another key that is none, of a number
for example.  Then the entries become one table, in the place of the first one
and with the options of the last one, while the log counts both.
-/

namespace DateGetters.Proofs.LoadedTables

open DateGetters.Config
open DateGetters.Proofs.ConfigurationShape
open DateGetters.Proofs.EntryLookup
open DateGetters.Proofs.OptionNormalForm
open DateGetters.Proofs.OptionReading
open DateGetters.Proofs.Outcomes

/-- The tables of a file are kept under these names, in the order of the file. -/
def NamedBy (tables : Entries) (names : List Value) : Prop :=
  List.Forall₂ (fun entry name => entry.1.textValue? = .ok name) tables names

/-! ## Tables under their names -/

theorem exact_of_textValue?
    {key name : Value} (named : key.textValue? = .ok name) :
    Exact name ∧ name.isKey = true := by
  rcases shows_of_textValue? named with ⟨content, shows⟩
  cases shows with
  | text _ =>
      exact ⟨inferInstance, rfl⟩
  | broken _ =>
      exact ⟨inferInstance, rfl⟩

theorem namedTables_cons_eq_ok_iff
    (found : Entries) (entry : Value × Value) (others named : Entries) :
    namedTables found (entry :: others) = .ok named ↔
      ∃ name, entry.1.textValue? = .ok name ∧
        namedTables (found.put name (.map ((mappingEntries? entry.2).getD []))) others =
          .ok named :=
  bind_eq_ok_iff _ _ _

theorem namedTables_cons_of_name
    {entry : Value × Value} {name : Value} (read : entry.1.textValue? = .ok name)
    (found others : Entries) :
    namedTables found (entry :: others) =
      namedTables (found.put name (.map ((mappingEntries? entry.2).getD []))) others := by
  rw [namedTables, read, ok_bind]

theorem namedTables_append_eq_ok_iff (found front back named : Entries) :
    namedTables found (front ++ back) = .ok named ↔
      ∃ middle, namedTables found front = .ok middle ∧ namedTables middle back = .ok named := by
  induction front generalizing found with
  | nil =>
      simp [namedTables]
  | cons entry others ih =>
      rw [List.cons_append, namedTables_cons_eq_ok_iff]
      simp only [namedTables_cons_eq_ok_iff, ih]
      constructor
      · rintro ⟨name, read, middle, before, after⟩
        exact ⟨middle, ⟨name, read, before⟩, after⟩
      · rintro ⟨middle, ⟨name, read, before⟩, after⟩
        exact ⟨name, read, middle, before, after⟩

/-- A table is not changed by entries that are kept under other names. -/
theorem find?_namedTables_other
    {found tables named : Entries} (renamed : namedTables found tables = .ok named)
    {name : Value} [Exact name] (other : ∀ entry ∈ tables, entry.1.textValue? ≠ .ok name) :
    named.find? name = found.find? name := by
  induction tables generalizing found with
  | nil =>
      rw [Except.ok.inj renamed]
  | cons entry others ih =>
      rcases (namedTables_cons_eq_ok_iff _ _ _ _).mp renamed with ⟨first, read, renamedOthers⟩
      rw [List.forall_mem_cons] at other
      have different : first ≠ name := by
        rintro rfl
        exact other.1 read
      rw [ih renamedOthers other.2, find?_put_other different]

/-- The last entry of a name decides which options the table has. -/
theorem find?_namedTables_last
    {front back named : Entries} {key options name : Value} {own : Entries}
    (renamed : namedTables [] (front ++ (key, options) :: back) = .ok named)
    (read : key.textValue? = .ok name) (stands : Stands IsNull options own)
    (last : ∀ entry ∈ back, entry.1.textValue? ≠ .ok name) :
    named.find? name = some (.map own) := by
  have exact := (exact_of_textValue? read).1
  rcases (namedTables_append_eq_ok_iff _ _ _ _).mp renamed with ⟨middle, -, after⟩
  rw [namedTables_cons_of_name read] at after
  rw [find?_namedTables_other after last, find?_put_self,
    (mappingEntries?_eq_some_iff options own).mpr stands.of_null, Option.getD_some]

/-! ## How many tables there are -/

theorem length_put_of_mem
    {entries : Entries} {name value : Value} [Exact name] (member : name ∈ entries.keys) :
    (entries.put name value).length = entries.length := by
  rw [Entries.length_put, if_pos (isSome_find?_iff.mpr member)]

theorem put_of_not_mem
    {entries : Entries} {name value : Value} [Exact name] (absent : name ∉ entries.keys) :
    entries.put name value = entries ++ [(name, value)] := by
  rw [← isSome_find?_iff, Option.not_isSome_iff_eq_none] at absent
  exact put_of_unfound absent

theorem keys_append_singleton (entries : Entries) (name value : Value) :
    Entries.keys (entries ++ [(name, value)]) = entries.keys ++ [name] :=
  List.map_append

/-- Every entry is one more table at most. -/
theorem length_namedTables_le
    {found tables named : Entries} (renamed : namedTables found tables = .ok named) :
    named.length ≤ found.length + tables.length := by
  induction tables generalizing found with
  | nil =>
      rw [Except.ok.inj renamed, List.length_nil, Nat.add_zero]
  | cons entry others ih =>
      rcases (namedTables_cons_eq_ok_iff _ _ _ _).mp renamed with ⟨name, -, renamedOthers⟩
      have bounded := ih renamedOthers
      rw [Entries.length_put] at bounded
      rw [List.length_cons]
      split at bounded <;> omega

/-- Tables of new and different names follow those that are there. -/
theorem keys_namedTables
    {found tables named : Entries} (renamed : namedTables found tables = .ok named)
    {names : List Value} (read : NamedBy tables names)
    (distinct : (found.keys ++ names).Nodup) :
    named.keys = found.keys ++ names := by
  induction read generalizing found with
  | nil =>
      rw [Except.ok.inj renamed, List.append_nil]
  | @cons entry name others rest readFirst readOthers ih =>
      have exact := (exact_of_textValue? readFirst).1
      have absent : name ∉ found.keys := by
        intro member
        exact (List.nodup_append.mp distinct).2.2 name member name List.mem_cons_self rfl
      rw [namedTables_cons_of_name readFirst, put_of_not_mem absent] at renamed
      rw [List.append_cons] at distinct ⊢
      rw [← keys_append_singleton] at distinct ⊢
      exact ih renamed distinct

/-- Only tables of different names are as many as their entries. -/
theorem nodup_of_length_namedTables
    {found tables named : Entries} (renamed : namedTables found tables = .ok named)
    {names : List Value} (read : NamedBy tables names)
    (distinct : found.keys.Nodup)
    (counted : named.length = found.length + tables.length) :
    (found.keys ++ names).Nodup := by
  induction read generalizing found with
  | nil =>
      rwa [List.append_nil]
  | @cons entry name others rest readFirst readOthers ih =>
      have exact := (exact_of_textValue? readFirst).1
      rw [namedTables_cons_of_name readFirst] at renamed
      have bounded := length_namedTables_le renamed
      rw [List.length_cons] at counted
      -- A name that is there already would leave one table too few.
      have absent : name ∉ found.keys := by
        intro member
        rw [length_put_of_mem member] at bounded
        omega
      rw [put_of_not_mem absent] at renamed
      rw [List.append_cons, ← keys_append_singleton]
      apply ih renamed
      · rw [keys_append_singleton, ← List.concat_eq_append]
        exact distinct.concat absent
      · rw [List.length_append, List.length_singleton]
        omega

/-! ## A loaded configuration -/

theorem stands_of_documentEntries
    {path : String} {document : Value} {entries : Entries}
    (read : documentEntries path document = .ok entries) :
    Stands IsBlank document entries := by
  rcases documentEntries_cases path document with ⟨others, stands, found⟩ | ⟨-, failed⟩
  · rw [found] at read
    rwa [← Except.ok.inj read]
  · rw [failed] at read
    cases read

theorem stands_of_sectionOf
    {path key : String} {entries own : Entries}
    (read : sectionOf path entries key = .ok own) :
    Stands IsBlank (contentUnder entries key) own := by
  rcases sectionOf_cases path entries key with ⟨others, stands, found⟩ | ⟨-, failed⟩
  · rw [found] at read
    rwa [← Except.ok.inj read]
  · rw [failed] at read
    cases read

theorem shaped_of_checkTables
    {path : String} {tables : Entries}
    (checked : checkTables path tables = .ok ()) :
    OptionsShaped tables := by
  rcases checkTables_cases path tables with ⟨shaped, -⟩ | ⟨entry, -, -, failed⟩
  · exact shaped
  · rw [failed, bind_eq_ok_iff] at checked
    rcases checked with ⟨name, -, refused⟩
    cases refused

/-- The entry of the log for a configuration, with the number of tables in its file. -/
def loadedEntry (path : String) (count : Nat) : LogEntry :=
  ⟨.debug, "Loaded behavior config from " ++ path ++ " (" ++ toString count ++ " tables)"⟩

/-- A document that is loaded leaves one entry in the log, with the number of tables in it. -/
theorem ofDocument_of_ok
    {path : String} {document : Value} {config : Config}
    (done : (ofDocument path document).outcome = .ok config) :
    ∃ defaults tables named, Sections IsBlank document defaults tables ∧ OptionsShaped tables ∧
      namedTables [] tables = .ok named ∧ config = ⟨defaults, named, some path⟩ ∧
      (ofDocument path document).log = [loadedEntry path tables.length] := by
  have stages := done
  simp only [outcome_ofDocument, bind_eq_ok_iff] at stages
  rcases stages with ⟨entries, whole, defaults, inDefaults, tables, inTables, _, checked, named,
    renamed, same⟩
  refine ⟨defaults, tables, named, ?_, shaped_of_checkTables checked, renamed,
    (Except.ok.inj same).symm, ?_⟩
  · exact ⟨entries, stands_of_documentEntries whole, stands_of_sectionOf inDefaults,
      stands_of_sectionOf inTables⟩
  · rw [ofDocument, liftM_of_ok whole, pure_bind, liftM_of_ok inDefaults, pure_bind,
      liftM_of_ok inTables, pure_bind, liftM_of_ok checked, pure_bind, liftM_of_ok renamed]
    rfl

theorem optionsFor_of_find?
    {config : Config} {name : Value} (isKey : name.isKey = true)
    {own : Entries} (found : config.tables.find? name = some (.map own)) :
    config.optionsFor name = Options.ofValue (.map (config.defaults.overlay own)) := by
  rw [optionsFor, if_pos isKey, mergedEntries, ownOptions, found, ofValue_map]
  rfl

/-- The name that an entry is kept under, and its options over the defaults. -/
def HasOwnOptions (config : Config) (defaults : Entries) (entry : Value × Value) : Prop :=
  ∃ name own, entry.1.textValue? = .ok name ∧ Stands IsNull entry.2 own ∧
    config.optionsFor name = Options.ofValue (.map (defaults.overlay own))

/-- What becomes of the tables in a file whose tables have these names. -/
structure Kept (config : Config) (defaults tables : Entries) (names : List Value) : Prop where
  count : config.tableNames.length = tables.length ↔ names.Nodup
  order : names.Nodup → config.tableNames = names
  options : names.Nodup → ∀ entry ∈ tables, HasOwnOptions config defaults entry
  /-- Of the entries of one name the last one has its options. -/
  last :
    ∀ front entry back, tables = front ++ entry :: back →
      (∀ later ∈ back, later.1.textValue? ≠ entry.1.textValue?) →
      HasOwnOptions config defaults entry

theorem hasOwnOptions_of_last
    {front back named : Entries} {entry : Value × Value}
    (renamed : namedTables [] (front ++ entry :: back) = .ok named)
    {own : Entries} (stands : Stands IsNull entry.2 own)
    (last : ∀ later ∈ back, later.1.textValue? ≠ entry.1.textValue?)
    (defaults : Entries) (source : Option String) :
    HasOwnOptions ⟨defaults, named, source⟩ defaults entry := by
  rcases (namedTables_append_eq_ok_iff _ _ _ _).mp renamed with ⟨middle, -, after⟩
  rcases (namedTables_cons_eq_ok_iff _ _ _ _).mp after with ⟨name, read, -⟩
  simp only [read] at last
  refine ⟨name, own, read, stands, ?_⟩
  exact optionsFor_of_find? (exact_of_textValue? read).2
    (find?_namedTables_last renamed read stands last)

theorem map_textValue?
    {tables : Entries} {names : List Value} (read : NamedBy tables names) :
    (tables.map fun entry => entry.1.textValue?) = names.map .ok := by
  rw [← List.forall₂_eq_eq_eq, List.forall₂_map_left_iff, List.forall₂_map_right_iff]
  exact read

theorem NamedBy.unique
    {tables : Entries} {names others : List Value}
    (read : NamedBy tables names) (readToo : NamedBy tables others) :
    names = others := by
  have injective : Function.Injective (Except.ok : Value → Outcome Value) :=
    fun _ _ => Except.ok.inj
  apply List.map_injective_iff.mpr injective
  rw [← map_textValue? read, ← map_textValue? readToo]

theorem different_of_nodup
    {front back : Entries} {entry : Value × Value} {names : List Value}
    (read : NamedBy (front ++ entry :: back) names) (distinct : names.Nodup) :
    ∀ later ∈ back, later.1.textValue? ≠ entry.1.textValue? := by
  have distinctNames : (names.map (Except.ok : Value → Outcome Value)).Nodup :=
    distinct.map fun _ _ => Except.ok.inj
  rw [← map_textValue? read, List.map_append, List.map_cons, List.nodup_append,
    List.nodup_cons] at distinctNames
  intro later member same
  apply distinctNames.2.1.1
  rw [← same]
  exact List.mem_map_of_mem member

theorem exists_names
    {found tables named : Entries} (renamed : namedTables found tables = .ok named) :
    ∃ names, NamedBy tables names := by
  induction tables generalizing found with
  | nil =>
      exact ⟨[], .nil⟩
  | cons entry others ih =>
      rcases (namedTables_cons_eq_ok_iff _ _ _ _).mp renamed with ⟨name, read, later⟩
      rcases ih later with ⟨names, readOthers⟩
      exact ⟨name :: names, .cons read readOthers⟩

theorem kept_of_namedTables
    {defaults tables named : Entries} (shaped : OptionsShaped tables)
    (renamed : namedTables [] tables = .ok named)
    {names : List Value} (read : NamedBy tables names) (source : Option String) :
    Kept ⟨defaults, named, source⟩ defaults tables names := by
  have lastOptions :
      ∀ front entry back, tables = front ++ entry :: back →
        (∀ later ∈ back, later.1.textValue? ≠ entry.1.textValue?) →
        HasOwnOptions ⟨defaults, named, source⟩ defaults entry := by
    rintro front entry back rfl last
    rcases shaped entry (List.mem_append_right front List.mem_cons_self) with ⟨own, stands⟩
    exact hasOwnOptions_of_last renamed stands last defaults source
  have inOrder (distinct : names.Nodup) : named.keys = names :=
    keys_namedTables renamed read distinct
  constructor
  case count =>
    constructor
    · intro counted
      rw [tableNames, Entries.keys, List.length_map] at counted
      apply nodup_of_length_namedTables renamed read List.nodup_nil
      rw [counted, List.length_nil, Nat.zero_add]
    · intro distinct
      rw [tableNames, inOrder distinct, read.length_eq]
  case order =>
    exact inOrder
  case options =>
    intro distinct entry member
    rcases List.append_of_mem member with ⟨front, back, rfl⟩
    exact lastOptions front entry back rfl (different_of_nodup read distinct)
  case last =>
    exact lastOptions

/--
Whatever reads the document in a file, the log of loading counts the entries of
the file.  They are the tables of the configuration, each with its own options
over the defaults, if no two of them have the same name, and only then.
-/
theorem load_kept
    {readDocument : ByteArray → Outcome Value} {files : Files} {given : Option String}
    {environment : Environment} {path : Path} {document : Value} {config : Config}
    (found : documentIn readDocument files given environment = .ok (path, document))
    (done : (loadWith readDocument files given environment).outcome = .ok config) :
    ∃ defaults tables names, Sections IsBlank document defaults tables ∧ NamedBy tables names ∧
      (loadWith readDocument files given environment).log =
        [loadedEntry path.text tables.length] ∧
      Kept config defaults tables names := by
  rw [loadWith_of_documentIn found] at done ⊢
  rcases ofDocument_of_ok done with ⟨defaults, tables, named, sections, shaped, renamed, rfl, log⟩
  rcases exists_names renamed with ⟨names, read⟩
  exact ⟨defaults, tables, names, sections, read, log,
    kept_of_namedTables shaped renamed read (some path.text)⟩

theorem textValue?_integer
    {number : Int} (writable : (Value.integer number).isWritable = true)
    {content : String} (written : (Value.integer number).toText = content) :
    (Value.integer number).textValue? = .ok (.text content) := by
  rw [Value.textValue?_of_unbroken (by simp), Value.toText?, if_pos writable, written]
  rfl

def libraryNames : List Value :=
  [.text "book", .text "7"]

theorem namedBy_library : NamedBy libraryTables libraryNames := by
  have seven : (Value.integer 7).textValue? = .ok (.text "7") :=
    textValue?_integer (by decide +kernel) (by decide +kernel)
  exact .cons (Value.textValue?_text _) (.cons seven .nil)

theorem nodup_libraryNames : libraryNames.Nodup := by
  simp [libraryNames]

/-- Two tables, one of which has a number for its key, are kept under two texts. -/
theorem load_kept_library :
    documentIn Yaml.valueOf (filesWith libraryText) (some "a.yaml") [] = .ok (onlyPath, library) ∧
      ∃ config, (load (filesWith libraryText) (some "a.yaml") []).outcome = .ok config ∧
        (load (filesWith libraryText) (some "a.yaml") []).log =
          [⟨.debug, "Loaded behavior config from a.yaml (2 tables)"⟩] ∧
        config.tableNames = libraryNames ∧
        ∀ entry ∈ libraryTables, HasOwnOptions config libraryDefaults entry := by
  have loadable := (loadable_iff_of_candid candid_library).mpr wellShaped_library
  rw [← exists_config_iff (verdict_ofDocument onlyPath.text library),
    ← loadWith_of_documentIn documentIn_library] at loadable
  rcases loadable with ⟨config, done⟩
  rcases load_kept documentIn_library done with ⟨defaults, tables, names, sections, read, log,
    kept⟩
  rcases sections_library.of_null.unique sections with ⟨rfl, rfl⟩
  rcases read.unique namedBy_library with rfl
  exact ⟨documentIn_library, config, done, log, kept.order nodup_libraryNames,
    kept.options nodup_libraryNames⟩

/-- Two tables whose keys, a number and a text, have the same text. -/
def sameTextText : String :=
  "defaults:\ntables:\n  1:\n    columns: made_on\n  \"1\":\n"

def sameTextTables : Entries :=
  [(.integer 1, .map [(.text "columns", .text "made_on")]), (.text "1", .null)]

def sameText : Value :=
  ofSections .null (.map sameTextTables)

theorem documentIn_sameText :
    documentIn Yaml.valueOf (filesWith sameTextText) (some "a.yaml") [] =
      .ok (onlyPath, sameText) :=
  documentIn_of_holds (by decide +kernel)

theorem namedTables_sameText :
    namedTables [] sameTextTables = .ok [(.text "1", .map [])] := by
  have one : (Value.integer 1).textValue? = .ok (.text "1") :=
    textValue?_integer (by decide +kernel) (by decide +kernel)
  rw [sameTextTables, namedTables, one, ok_bind, namedTables, Value.textValue?_text, ok_bind,
    namedTables]
  simp [Entries.put, mappingEntries?, Value.isTruthy]

theorem sections_sameText : Sections IsBlank sameText [] sameTextTables :=
  sections_ofSections (.absent rfl) (.mapping _)

theorem loadable_sameText : Loadable sameText := by
  refine ⟨[], sameTextTables, sections_sameText, ?_, ?_⟩
  · rw [OptionsShaped, sameTextTables, List.forall_mem_cons, List.forall_mem_singleton]
    exact ⟨⟨_, .mapping _⟩, ⟨[], .absent rfl⟩⟩
  · rw [NamesWritable]
    decide +kernel

/-- Of two tables with the same text for a name the first one is lost, and the log counts both. -/
theorem load_sameText :
    documentIn Yaml.valueOf (filesWith sameTextText) (some "a.yaml") [] = .ok (onlyPath, sameText) ∧
      ∃ config, (load (filesWith sameTextText) (some "a.yaml") []).outcome = .ok config ∧
        (load (filesWith sameTextText) (some "a.yaml") []).log =
          [⟨.debug, "Loaded behavior config from a.yaml (2 tables)"⟩] ∧
        config.tableNames = [.text "1"] ∧
        config.optionsFor (.text "1") = .ok Options.builtin ∧
        Options.ofValue (.map [(.text "columns", .text "made_on")]) =
          .ok { Options.builtin with columns := .text "made_on" } := by
  rcases (exists_config_iff (verdict_ofDocument onlyPath.text sameText)).mpr loadable_sameText with
    ⟨config, done⟩
  rw [load, loadWith_of_documentIn documentIn_sameText]
  rcases ofDocument_of_ok done with ⟨defaults, tables, named, sections, -, renamed, same, log⟩
  rcases sections_sameText.unique sections with ⟨rfl, rfl⟩
  rw [namedTables_sameText] at renamed
  rw [← Except.ok.inj renamed] at same
  refine ⟨documentIn_sameText, config, done, log, ?_, ?_, ?_⟩
  · rw [same]
    rfl
  · rw [same, optionsFor_of_find? rfl find?_cons_self]
    rfl
  · exact ofValue_of_columns (by simp) (Value.toText?_text _)

end DateGetters.Proofs.LoadedTables
