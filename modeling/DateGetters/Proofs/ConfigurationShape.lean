import DateGetters.Config.Load
import DateGetters.Proofs.Outcomes

/-!
# The shape of a configuration

A configuration is loaded from a document of a certain shape: a mapping with two
sections that are mappings, the second of which gives a mapping or null for the
options of each table.  Null stands for an empty mapping everywhere, and so does
the absence of a section.

For the document and its sections any other value that says nothing stands for
an empty mapping as well, an empty list for example.  It does not for the
options of a table.  Besides its shape, the names of the tables decide, which
must be written as texts.
-/

namespace DateGetters.Proofs.ConfigurationShape

open DateGetters.Config
open DateGetters.Proofs.Outcomes

/-! ## Shapes -/

def IsNull (value : Value) : Prop := value = .null

def IsBlank (value : Value) : Prop := value.isTruthy = false

/-- The entries of a mapping, or none for a value that counts as nothing. -/
inductive Stands (nothing : Value → Prop) : Value → Entries → Prop where
  | mapping (entries : Entries) : Stands nothing (.map entries) entries
  | absent {value : Value} (counts : nothing value) : Stands nothing value []

/-- What a mapping has under a text; what it does not have is null. -/
def contentUnder (entries : Entries) (key : String) : Value :=
  (entries.find? (.text key)).getD .null

/-- The entries in the two sections of a document. -/
def Sections (nothing : Value → Prop) (document : Value) (defaults tables : Entries) : Prop :=
  ∃ entries, Stands nothing document entries ∧
    Stands nothing (contentUnder entries defaultsKey) defaults ∧
    Stands nothing (contentUnder entries tablesKey) tables

/-- Tables each of which has a mapping or null for its options. -/
def OptionsShaped (tables : Entries) : Prop :=
  ∀ entry ∈ tables, ∃ own, Stands IsNull entry.2 own

def NamesWritable (tables : Entries) : Prop :=
  ∀ entry ∈ tables, entry.1.isWritable = true

/-- A document in which null is all that stands for an empty mapping. -/
def WellShaped (document : Value) : Prop :=
  ∃ defaults tables, Sections IsNull document defaults tables ∧ OptionsShaped tables

/-- A document from which a configuration is loaded. -/
def Loadable (document : Value) : Prop :=
  ∃ defaults tables, Sections IsBlank document defaults tables ∧
    OptionsShaped tables ∧ NamesWritable tables

/-- A value that says something, unless it is null or a mapping. -/
def Candid (value : Value) : Prop :=
  IsBlank value → IsNull value ∨ ∃ entries, value = .map entries

/-- A document of candid parts, whose tables have names that can be written. -/
structure CandidDocument (document : Value) : Prop where
  whole : Candid document
  sections :
    ∀ entries, document = .map entries →
      Candid (contentUnder entries defaultsKey) ∧ Candid (contentUnder entries tablesKey)
  names : ∀ defaults tables, Sections IsNull document defaults tables → NamesWritable tables

/--
What a document can be refused for: itself, one of its sections, the options of
a table, or the name of a table, which may be too long to be written.
-/
inductive Misshapen (path : String) (document : Value) : Fault → Prop where
  | whole (noEntries : ∀ entries, ¬ Stands IsBlank document entries) :
      Misshapen path document (.notMapping path)
  | inSection {entries : Entries} (whole : Stands IsBlank document entries)
      {key : String} (known : key = defaultsKey ∨ key = tablesKey)
      (noEntries : ∀ own, ¬ Stands IsBlank (contentUnder entries key) own) :
      Misshapen path document
        (.sectionNotMapping key path (contentUnder entries key).kindName)
  | options {defaults tables : Entries} (sections : Sections IsBlank document defaults tables)
      {entry : Value × Value} (member : entry ∈ tables)
      (noEntries : ∀ own, ¬ Stands IsNull entry.2 own)
      {name : String} (written : entry.1.toText? = .ok name) :
      Misshapen path document (.optionsNotMapping name path entry.2.kindName)
  | name {defaults tables : Entries} (sections : Sections IsBlank document defaults tables)
      {entry : Value × Value} (member : entry ∈ tables)
      (unwritable : ¬ entry.1.isWritable = true) :
      Misshapen path document (.tooManyDigits none)

/-- How loading a document ends. -/
inductive Verdict (path : String) (document : Value) : Outcome Config → Prop where
  | loaded {defaults tables named : Entries}
      (sections : Sections IsBlank document defaults tables)
      (shaped : OptionsShaped tables) (writable : NamesWritable tables)
      (renamed : namedTables [] tables = .ok named) :
      Verdict path document (.ok ⟨defaults, named, some path⟩)
  | refused {fault : Fault} (misshapen : Misshapen path document fault) :
      Verdict path document (.error fault)

/-! ## Stages of loading -/

theorem mappingEntries?_of_noMapping
    {value : Value} (noMapping : ∀ entries, value ≠ .map entries) :
    mappingEntries? value = if value.isTruthy then none else some [] := by
  cases value with
  | map entries =>
      exact absurd rfl (noMapping entries)
  | _ =>
      rfl

theorem mappingEntries?_eq_some_iff (value : Value) (entries : Entries) :
    mappingEntries? value = some entries ↔ Stands IsBlank value entries := by
  constructor
  · intro found
    by_cases mapping : ∃ present, value = .map present
    · rcases mapping with ⟨present, rfl⟩
      rw [← Option.some.inj found]
      exact .mapping present
    · rw [mappingEntries?_of_noMapping (not_exists.mp mapping)] at found
      split at found
      · cases found
      · next blank =>
          rw [← Option.some.inj found]
          exact .absent (Bool.eq_false_iff.mpr blank)
  · intro stands
    cases stands with
    | mapping _ =>
        rfl
    | absent blank =>
        by_cases mapping : ∃ present, value = .map present
        · rcases mapping with ⟨present, rfl⟩
          cases present with
          | nil =>
              rfl
          | cons entry others =>
              cases blank
        · rw [mappingEntries?_of_noMapping (not_exists.mp mapping), blank]
          rfl

theorem Stands.unique
    {value : Value} {entries others : Entries}
    (stands : Stands IsBlank value entries) (standsToo : Stands IsBlank value others) :
    others = entries := by
  rw [← mappingEntries?_eq_some_iff] at stands standsToo
  rw [stands] at standsToo
  exact (Option.some.inj standsToo).symm

theorem not_stands_of_none
    {value : Value} (none : mappingEntries? value = none) (entries : Entries) :
    ¬ Stands IsBlank value entries := by
  rw [← mappingEntries?_eq_some_iff, none]
  exact Option.some_ne_none entries ∘ Eq.symm

theorem documentEntries_cases (path : String) (document : Value) :
    (∃ entries, Stands IsBlank document entries ∧ documentEntries path document = .ok entries) ∨
      (∀ entries, ¬ Stands IsBlank document entries) ∧
        documentEntries path document = .error (.notMapping path) := by
  rw [documentEntries]
  cases found : mappingEntries? document with
  | none =>
      exact Or.inr ⟨not_stands_of_none found, rfl⟩
  | some entries =>
      exact Or.inl ⟨entries, (mappingEntries?_eq_some_iff _ _).mp found, rfl⟩

theorem sectionOf_cases (path : String) (entries : Entries) (key : String) :
    (∃ own, Stands IsBlank (contentUnder entries key) own ∧
        sectionOf path entries key = .ok own) ∨
      (∀ own, ¬ Stands IsBlank (contentUnder entries key) own) ∧
        sectionOf path entries key =
          .error (.sectionNotMapping key path (contentUnder entries key).kindName) := by
  rw [sectionOf, contentUnder]
  cases found : mappingEntries? ((entries.find? (.text key)).getD .null) with
  | none =>
      exact Or.inr ⟨not_stands_of_none found, rfl⟩
  | some own =>
      exact Or.inl ⟨own, (mappingEntries?_eq_some_iff _ _).mp found, rfl⟩

theorem checkTables_cons_of_shaped
    (path : String) (table : Value) {options : Value} {own : Entries} (others : Entries)
    (stands : Stands IsNull options own) :
    checkTables path ((table, options) :: others) = checkTables path others := by
  cases stands with
  | mapping _ =>
      rfl
  | absent null =>
      rw [null]
      rfl

theorem checkTables_cons_of_unshaped
    (path : String) (table : Value) {options : Value} (others : Entries)
    (noEntries : ∀ own, ¬ Stands IsNull options own) :
    checkTables path ((table, options) :: others) = (do
      let name ← table.toText?
      .error (.optionsNotMapping name path options.kindName)) := by
  cases options with
  | null =>
      exact absurd (.absent rfl) (noEntries [])
  | map own =>
      exact absurd (.mapping own) (noEntries own)
  | _ =>
      rfl

/-- The first table whose options are of another shape is refused. -/
theorem checkTables_cases (path : String) (tables : Entries) :
    OptionsShaped tables ∧ checkTables path tables = .ok () ∨
      ∃ entry ∈ tables, (∀ own, ¬ Stands IsNull entry.2 own) ∧
        checkTables path tables = (do
          let name ← entry.1.toText?
          .error (.optionsNotMapping name path entry.2.kindName)) := by
  induction tables with
  | nil =>
      exact Or.inl ⟨List.forall_mem_nil _, rfl⟩
  | cons entry others ih =>
      rcases entry with ⟨table, options⟩
      by_cases shaped : ∃ own, Stands IsNull options own
      · rcases shaped with ⟨own, stands⟩
        rw [checkTables_cons_of_shaped path table others stands]
        rcases ih with ⟨shapedOthers, checked⟩ | ⟨entry, member, refused⟩
        · exact Or.inl ⟨List.forall_mem_cons.mpr ⟨⟨own, stands⟩, shapedOthers⟩, checked⟩
        · exact Or.inr ⟨entry, List.mem_cons_of_mem _ member, refused⟩
      · have noEntries := not_exists.mp shaped
        exact Or.inr ⟨_, List.mem_cons_self, noEntries,
          checkTables_cons_of_unshaped path table others noEntries⟩

theorem namedTables_cases (found tables : Entries) :
    NamesWritable tables ∧ (∃ named, namedTables found tables = .ok named) ∨
      (∃ entry ∈ tables, ¬ entry.1.isWritable = true) ∧
        namedTables found tables = .error (.tooManyDigits none) := by
  induction tables generalizing found with
  | nil =>
      exact Or.inl ⟨List.forall_mem_nil _, found, rfl⟩
  | cons entry others ih =>
      rcases entry with ⟨table, options⟩
      rw [namedTables]
      rcases textValue?_cases table with ⟨writable, name, _, written, -⟩ | ⟨unwritable, failed⟩
      · rw [written, ok_bind]
        rcases ih (found.put name (.map ((mappingEntries? options).getD []))) with
          ⟨writableOthers, named⟩ | ⟨⟨entry, member, unwritable⟩, failed⟩
        · exact Or.inl ⟨List.forall_mem_cons.mpr ⟨writable, writableOthers⟩, named⟩
        · exact Or.inr ⟨⟨entry, List.mem_cons_of_mem _ member, unwritable⟩, failed⟩
      · rw [failed]
        exact Or.inr ⟨⟨_, List.mem_cons_self, unwritable⟩, rfl⟩

/-! ## The verdict -/

theorem Sections.unique
    {document : Value} {defaults tables otherDefaults otherTables : Entries}
    (sections : Sections IsBlank document defaults tables)
    (sectionsToo : Sections IsBlank document otherDefaults otherTables) :
    otherDefaults = defaults ∧ otherTables = tables := by
  rcases sections with ⟨entries, whole, inDefaults, inTables⟩
  rcases sectionsToo with ⟨others, wholeToo, inDefaultsToo, inTablesToo⟩
  have same := whole.unique wholeToo
  subst same
  exact ⟨inDefaults.unique inDefaultsToo, inTables.unique inTablesToo⟩

theorem outcome_ofDocument (path : String) (document : Value) :
    (ofDocument path document).outcome = (do
      let entries ← documentEntries path document
      let defaults ← sectionOf path entries defaultsKey
      let tables ← sectionOf path entries tablesKey
      checkTables path tables
      let named ← namedTables [] tables
      return ⟨defaults, named, some path⟩) := by
  simp only [ofDocument, Run.outcome_bind, Run.outcome_liftM]
  rfl

/-- Loading a document ends as its shape demands. -/
theorem verdict_ofDocument (path : String) (document : Value) :
    Verdict path document (ofDocument path document).outcome := by
  rw [outcome_ofDocument]
  rcases documentEntries_cases path document with ⟨entries, whole, read⟩ | ⟨noEntries, failed⟩
  swap
  · rw [failed]
    exact .refused (.whole noEntries)
  rw [read, ok_bind]
  rcases sectionOf_cases path entries defaultsKey with ⟨defaults, inDefaults, read⟩ |
    ⟨noEntries, failed⟩
  swap
  · rw [failed]
    exact .refused (.inSection whole (Or.inl rfl) noEntries)
  rw [read, ok_bind]
  rcases sectionOf_cases path entries tablesKey with ⟨tables, inTables, read⟩ |
    ⟨noEntries, failed⟩
  swap
  · rw [failed]
    exact .refused (.inSection whole (Or.inr rfl) noEntries)
  have sections : Sections IsBlank document defaults tables :=
    ⟨entries, whole, inDefaults, inTables⟩
  rw [read, ok_bind]
  rcases checkTables_cases path tables with ⟨shaped, checked⟩ | ⟨entry, member, noEntries, failed⟩
  swap
  · rw [failed, Value.toText?]
    split
    · next writable =>
        have written : entry.1.toText? = .ok entry.1.toText := if_pos writable
        exact .refused (.options sections member noEntries written)
    · next unwritable =>
        exact .refused (.name sections member unwritable)
  rw [checked, ok_bind]
  rcases namedTables_cases [] tables with ⟨writable, named, renamed⟩ |
    ⟨⟨entry, member, unwritable⟩, failed⟩
  · rw [renamed]
    exact .loaded sections shaped writable renamed
  · rw [failed]
    exact .refused (.name sections member unwritable)

theorem not_loadable_of_misshapen
    {path : String} {document : Value} {fault : Fault}
    (misshapen : Misshapen path document fault) :
    ¬ Loadable document := by
  rintro ⟨defaults, tables, sections, shaped, writable⟩
  have whole := sections
  rcases whole with ⟨entries, stands, inDefaults, inTables⟩
  cases misshapen with
  | whole noEntries =>
      exact noEntries entries stands
  | inSection otherWhole known noEntries =>
      rw [otherWhole.unique stands] at inDefaults inTables
      rcases known with rfl | rfl
      · exact noEntries defaults inDefaults
      · exact noEntries tables inTables
  | options otherSections member noEntries written =>
      rw [(sections.unique otherSections).2] at member
      rcases shaped _ member with ⟨own, standsOwn⟩
      exact noEntries own standsOwn
  | name otherSections member unwritable =>
      rw [(sections.unique otherSections).2] at member
      exact unwritable (writable _ member)

theorem exists_config_iff
    {path : String} {document : Value} {outcome : Outcome Config}
    (verdict : Verdict path document outcome) :
    (∃ config, outcome = .ok config) ↔ Loadable document := by
  cases verdict with
  | loaded sections shaped writable _ =>
      exact ⟨fun _ => ⟨_, _, sections, shaped, writable⟩, fun _ => ⟨_, rfl⟩⟩
  | refused misshapen =>
      exact ⟨nofun, fun loadable => absurd loadable (not_loadable_of_misshapen misshapen)⟩

/-! ## Candid documents -/

theorem Stands.of_null
    {value : Value} {entries : Entries}
    (stands : Stands IsNull value entries) :
    Stands IsBlank value entries := by
  cases stands with
  | mapping _ =>
      exact .mapping entries
  | absent null =>
      rw [null]
      exact .absent rfl

theorem Sections.of_null
    {document : Value} {defaults tables : Entries}
    (sections : Sections IsNull document defaults tables) :
    Sections IsBlank document defaults tables := by
  rcases sections with ⟨entries, whole, inDefaults, inTables⟩
  exact ⟨entries, whole.of_null, inDefaults.of_null, inTables.of_null⟩

theorem stands_iff_of_candid
    {value : Value} (candid : Candid value) (entries : Entries) :
    Stands IsBlank value entries ↔ Stands IsNull value entries := by
  constructor
  · intro stands
    cases stands with
    | mapping _ =>
        exact .mapping entries
    | absent blank =>
        rcases candid blank with null | ⟨present, rfl⟩
        · exact .absent null
        · cases present with
          | nil =>
              exact .mapping []
          | cons entry others =>
              cases blank
  · exact Stands.of_null

theorem candid_null : Candid .null :=
  fun _ => Or.inl rfl

theorem candid_map (entries : Entries) : Candid (.map entries) :=
  fun _ => Or.inr ⟨entries, rfl⟩

theorem sections_iff_of_candid
    {document : Value} (candid : CandidDocument document) (defaults tables : Entries) :
    Sections IsBlank document defaults tables ↔ Sections IsNull document defaults tables := by
  apply exists_congr
  intro entries
  rw [stands_iff_of_candid candid.whole]
  apply and_congr_right
  intro whole
  have parts : Candid (contentUnder entries defaultsKey) ∧
      Candid (contentUnder entries tablesKey) := by
    cases whole with
    | mapping _ =>
        exact candid.sections entries rfl
    | absent _ =>
        exact ⟨candid_null, candid_null⟩
  rw [stands_iff_of_candid parts.1, stands_iff_of_candid parts.2]

/-- Of candid documents the well-shaped ones are loaded. -/
theorem loadable_iff_of_candid
    {document : Value} (candid : CandidDocument document) :
    Loadable document ↔ WellShaped document := by
  constructor
  · rintro ⟨defaults, tables, sections, shaped, -⟩
    exact ⟨defaults, tables, (sections_iff_of_candid candid _ _).mp sections, shaped⟩
  · rintro ⟨defaults, tables, sections, shaped⟩
    exact ⟨defaults, tables, (sections_iff_of_candid candid _ _).mpr sections, shaped,
      candid.names defaults tables sections⟩

/-! ## Loading from files -/

/-- The path of the configuration that is found, and the document that is read from its file. -/
def documentIn (readDocument : ByteArray → Outcome Value) (files : Files) (given : Option String)
    (environment : Environment) : Outcome (Path × Value) := do
  let path ← Search.find files given environment
  let content ← files.read path
  let document ← readDocument content
  return (path, document)

section Loading

variable {readDocument : ByteArray → Outcome Value} {files : Files} {given : Option String}
  {environment : Environment} {path : Path} {document : Value}

theorem loadWith_of_documentIn
    (found : documentIn readDocument files given environment = .ok (path, document)) :
    loadWith readDocument files given environment = ofDocument path.text document := by
  simp only [documentIn, bind_eq_ok_iff] at found
  rcases found with ⟨_, located, content, read, _, parsed, same⟩
  rcases Prod.mk.inj (Except.ok.inj same) with ⟨rfl, rfl⟩
  rw [loadWith, liftM_of_ok located, pure_bind, liftM_of_ok read, pure_bind, liftM_of_ok parsed,
    pure_bind]

end Loading

/-! ## A file with a plain document -/

/-- A document with nothing but its two sections. -/
def ofSections (defaults tables : Value) : Value :=
  .map [(.text defaultsKey, defaults), (.text tablesKey, tables)]

theorem contentUnder_ofSections
    {defaults tables : Value} :
    contentUnder [(.text defaultsKey, defaults), (.text tablesKey, tables)] defaultsKey =
        defaults ∧
      contentUnder [(.text defaultsKey, defaults), (.text tablesKey, tables)] tablesKey =
        tables := by
  simp [contentUnder, Entries.find?, defaultsKey, tablesKey]

theorem sections_ofSections
    {nothing : Value → Prop} {defaults tables : Value} {inDefaults inTables : Entries}
    (standsDefaults : Stands nothing defaults inDefaults)
    (standsTables : Stands nothing tables inTables) :
    Sections nothing (ofSections defaults tables) inDefaults inTables := by
  refine ⟨_, .mapping _, ?_, ?_⟩
  · rwa [contentUnder_ofSections.1]
  · rwa [contentUnder_ofSections.2]

mutual

/-- Whether two values are the same one, made of null, integers, texts, lists and mappings only. -/
def identical (left right : Value) : Bool :=
  match left, right with
  | .null, .null => true
  | .integer first, .integer second => first == second
  | .text first, .text second => first == second
  | .list items, .list others => identicalItems items others
  | .map entries, .map others => identicalEntries entries others
  | _, _ => false

def identicalItems (left right : List Value) : Bool :=
  match left, right with
  | [], [] => true
  | first :: others, second :: more => identical first second && identicalItems others more
  | _, _ => false

def identicalEntries (left right : Entries) : Bool :=
  match left, right with
  | [], [] => true
  | (key, value) :: others, (secondKey, secondValue) :: more =>
    identical key secondKey && identical value secondValue && identicalEntries others more
  | _, _ => false

end

mutual

theorem eq_of_identical
    (left right : Value) (same : identical left right = true) :
    left = right := by
  unfold identical at same
  split at same
  · rfl
  · rw [eq_of_beq same]
  · rw [eq_of_beq same]
  · next items others =>
      rw [eq_of_identicalItems items others same]
  · next entries others =>
      rw [eq_of_identicalEntries entries others same]
  · cases same

theorem eq_of_identicalItems
    (left right : List Value) (same : identicalItems left right = true) :
    left = right := by
  unfold identicalItems at same
  split at same
  · rfl
  · next first others second more =>
      rw [Bool.and_eq_true] at same
      rw [eq_of_identical first second same.1, eq_of_identicalItems others more same.2]
  · cases same

theorem eq_of_identicalEntries
    (left right : Entries) (same : identicalEntries left right = true) :
    left = right := by
  unfold identicalEntries at same
  split at same
  · rfl
  · next key value others secondKey secondValue more =>
      rw [Bool.and_eq_true, Bool.and_eq_true] at same
      rw [eq_of_identical key secondKey same.1.1, eq_of_identical value secondValue same.1.2,
        eq_of_identicalEntries others more same.2]
  · cases same

end

/-- The path of the only file there is. -/
def onlyPath : Path := ⟨.relative, ["a.yaml"]⟩

def filesWith (content : String) : Files :=
  (Files.empty "/srv").put onlyPath (.file content.toUTF8)

/-- Whether a document is what the only file holds. -/
def holds (content : String) (document : Value) : Bool :=
  match documentIn Yaml.valueOf (filesWith content) (some "a.yaml") [] with
  | .ok (path, found) => path == onlyPath && identical found document
  | .error _ => false

theorem documentIn_of_holds
    {content : String} {document : Value}
    (held : holds content document = true) :
    documentIn Yaml.valueOf (filesWith content) (some "a.yaml") [] = .ok (onlyPath, document) := by
  unfold holds at held
  split at held
  · next path found read =>
      rw [Bool.and_eq_true] at held
      rw [read, eq_of_beq held.1, eq_of_identical found document held.2]
  · cases held

/-! ## The shape decides -/

/-- What becomes of a document that is found in a file. -/
structure Judged (path : String) (document : Value) (outcome : Outcome Config) : Prop where
  accepted : (∃ config, outcome = .ok config) ↔ Loadable document
  /-- Where null is the only value that stands for an empty mapping, the shape alone decides. -/
  wellShaped :
    CandidDocument document → ((∃ config, outcome = .ok config) ↔ WellShaped document)
  refused : ∀ fault, outcome = .error fault → Misshapen path document fault
  defaults :
    ∀ config, outcome = .ok config →
      ∃ entries, Stands IsBlank document entries ∧
        Stands IsBlank (contentUnder entries defaultsKey) config.defaults

/--
A document that is found in a file, whatever reads it, is loaded if and only if
it has the shape of a configuration, and is refused for what is misshapen
otherwise.
-/
theorem load_judged
    {readDocument : ByteArray → Outcome Value} {files : Files} {given : Option String}
    {environment : Environment} {path : Path} {document : Value}
    (found : documentIn readDocument files given environment = .ok (path, document)) :
    Judged path.text document (loadWith readDocument files given environment).outcome := by
  have verdict := verdict_ofDocument path.text document
  rw [← loadWith_of_documentIn found] at verdict
  have accepted := exists_config_iff verdict
  constructor
  case accepted =>
    exact accepted
  case wellShaped =>
    intro candid
    rw [accepted, loadable_iff_of_candid candid]
  case refused =>
    intro fault failed
    rw [failed] at verdict
    cases verdict with
    | refused misshapen =>
        exact misshapen
  case defaults =>
    intro config done
    rw [done] at verdict
    cases verdict with
    | loaded sections _ _ _ =>
        rcases sections with ⟨entries, whole, inDefaults, -⟩
        exact ⟨entries, whole, inDefaults⟩

/-- Defaults, and two tables of which one has null for its options. -/
def libraryText : String :=
  "defaults:\n  use_intl: 1\ntables:\n  book:\n  7:\n    columns: made_on\n"

def libraryDefaults : Entries :=
  [(.text "use_intl", .integer 1)]

def libraryTables : Entries :=
  [(.text "book", .null), (.integer 7, .map [(.text "columns", .text "made_on")])]

def library : Value :=
  ofSections (.map libraryDefaults) (.map libraryTables)

theorem documentIn_library :
    documentIn Yaml.valueOf (filesWith libraryText) (some "a.yaml") [] = .ok (onlyPath, library) :=
  documentIn_of_holds (by decide +kernel)

theorem sections_library : Sections IsNull library libraryDefaults libraryTables :=
  sections_ofSections (.mapping _) (.mapping _)

theorem wellShaped_library : WellShaped library := by
  refine ⟨_, _, sections_library, ?_⟩
  rw [OptionsShaped, libraryTables, List.forall_mem_cons, List.forall_mem_singleton]
  exact ⟨⟨[], .absent rfl⟩, ⟨_, .mapping _⟩⟩

theorem candid_library : CandidDocument library := by
  constructor
  case whole =>
    exact candid_map _
  case sections =>
    rintro _ ⟨⟩
    rw [contentUnder_ofSections.1, contentUnder_ofSections.2]
    exact ⟨candid_map _, candid_map _⟩
  case names =>
    intro defaults tables sections
    rw [(sections_library.of_null.unique sections.of_null).2, NamesWritable]
    decide +kernel

/-- A document is loaded in which one table has null for its options. -/
theorem load_judged_library :
    documentIn Yaml.valueOf (filesWith libraryText) (some "a.yaml") [] = .ok (onlyPath, library) ∧
      CandidDocument library ∧ WellShaped library ∧
      ∃ config, (load (filesWith libraryText) (some "a.yaml") []).outcome = .ok config ∧
        config.defaults = libraryDefaults := by
  have judged := load_judged documentIn_library
  rcases (judged.wellShaped candid_library).mpr wellShaped_library with ⟨config, done⟩
  refine ⟨documentIn_library, candid_library, wellShaped_library, config, done, ?_⟩
  rcases judged.defaults config done with ⟨entries, whole, inDefaults⟩
  rw [(Stands.mapping _).unique whole, contentUnder_ofSections.1] at inDefaults
  exact (Stands.mapping _).unique inDefaults

/-- A document whose defaults are an empty list. -/
def listOfDefaultsText : String :=
  "defaults: []\ntables:\n"

def listOfDefaults : Value :=
  ofSections (.list []) .null

theorem documentIn_listOfDefaults :
    documentIn Yaml.valueOf (filesWith listOfDefaultsText) (some "a.yaml") [] =
      .ok (onlyPath, listOfDefaults) :=
  documentIn_of_holds (by decide +kernel)

theorem not_wellShaped_listOfDefaults : ¬ WellShaped listOfDefaults := by
  rintro ⟨defaults, tables, ⟨entries, whole, inDefaults, -⟩, -⟩
  cases whole with
  | absent counts =>
      cases counts
  | mapping _ =>
      rw [contentUnder_ofSections.1] at inDefaults
      cases inDefaults with
      | absent counts =>
          cases counts

theorem loadable_listOfDefaults : Loadable listOfDefaults :=
  ⟨[], [], sections_ofSections (.absent rfl) (.absent rfl), List.forall_mem_nil _,
    List.forall_mem_nil _⟩

/-- A document is loaded although it does not have the shape of a configuration. -/
theorem load_listOfDefaults :
    documentIn Yaml.valueOf (filesWith listOfDefaultsText) (some "a.yaml") [] =
        .ok (onlyPath, listOfDefaults) ∧
      ¬ WellShaped listOfDefaults ∧
      ∃ config, (load (filesWith listOfDefaultsText) (some "a.yaml") []).outcome = .ok config := by
  refine ⟨documentIn_listOfDefaults, not_wellShaped_listOfDefaults, ?_⟩
  rw [load, loadWith_of_documentIn documentIn_listOfDefaults,
    exists_config_iff (verdict_ofDocument _ _)]
  exact loadable_listOfDefaults

end DateGetters.Proofs.ConfigurationShape
