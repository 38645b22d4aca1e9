import DateGetters.Template
import Mathlib.Data.List.Forall2

/-!
# Lines of a template and how they begin

How a line of a filled template begins is decided by the template alone wherever
the text in front of the first slot is long enough to tell.  For the beginnings
that matter it always is: exactly one line of a template begins a definition,
exactly one line further down reads the column, and every other line is empty or
indented.

These facts are checked on the characters of the templates, so the lines are
first spelled out.
-/

namespace DateGetters.Proofs.TemplateLines

open DateGetters.Template

/-! ## Lines spelled out -/

/-- A piece of a template's line with its text as characters. -/
inductive Part where
  | verbatim (characters : List Char)
  | slot (slot : Slot)
deriving DecidableEq, Repr

/-- What a part becomes when the slots are filled. -/
def fillPart (fillings : Fillings) : Part → List Char
  | .verbatim characters => characters
  | .slot slot => (fillings.textFor slot).toList

/-- What the parts of a line become when the slots are filled. -/
def fillParts (fillings : Fillings) (parts : List Part) : List Char :=
  parts.flatMap (fillPart fillings)

theorem fillParts_nil (fillings : Fillings) : fillParts fillings [] = [] := rfl

theorem fillParts_verbatim
    (fillings : Fillings) (characters : List Char) (parts : List Part) :
    fillParts fillings (.verbatim characters :: parts) =
      characters ++ fillParts fillings parts :=
  List.flatMap_cons

theorem fillParts_slot
    (fillings : Fillings) (slot : Slot) (parts : List Part) :
    fillParts fillings (.slot slot :: parts) =
      (fillings.textFor slot).toList ++ fillParts fillings parts :=
  List.flatMap_cons

/-- The parts of a line are its pieces, with the same characters. -/
inductive Spelled : List Piece → List Part → Prop where
  | nil : Spelled [] []
  | verbatim {content : String} {characters : List Char}
      {pieces : List Piece} {parts : List Part}
      (same : content.toList = characters)
      (others : Spelled pieces parts) :
      Spelled (.verbatim content :: pieces) (.verbatim characters :: parts)
  | slot {slot : Slot} {pieces : List Piece} {parts : List Part}
      (others : Spelled pieces parts) :
      Spelled (.slot slot :: pieces) (.slot slot :: parts)

theorem toList_fillLine
    {line : List Piece} {parts : List Part}
    (spelled : Spelled line parts)
    (fillings : Fillings) :
    (fillLine fillings line).toList = fillParts fillings parts := by
  induction spelled with
  | nil =>
      simp [fillLine, fillParts]
  | verbatim same _ ih =>
      simp only [fillLine, fillParts, String.toList_join, List.map_cons,
        List.flatMap_cons, fillPart] at ih ⊢
      rw [same, ih]
  | slot _ ih =>
      simp only [fillLine, fillParts, String.toList_join, List.map_cons,
        List.flatMap_cons, fillPart] at ih ⊢
      rw [ih]

/-! ## How a line begins -/

/-- The characters in front of the first slot of a line. -/
def opening : List Part → List Char
  | .verbatim characters :: _ => characters
  | _ => []

/-- Whether the opening of a line tells if the filled line has a given beginning. -/
def settles (beginning : List Char) : List Part → Bool
  | [] => true
  | [.verbatim _] => true
  | .verbatim characters :: _ =>
    beginning.length ≤ characters.length || !characters.isPrefixOf beginning
  | .slot _ :: _ => false

/-- Whether the opening of a line has a given beginning. -/
def opensWith (beginning : List Char) (parts : List Part) : Bool :=
  beginning.isPrefixOf (opening parts)

/-- A beginning is a prefix of more characters only if it is one of enough of them. -/
theorem prefix_append_iff
    {beginning characters more : List Char}
    (settled : beginning.length ≤ characters.length ∨ ¬ characters <+: beginning) :
    beginning <+: characters ++ more ↔ beginning <+: characters := by
  have front : characters <+: characters ++ more :=
    List.prefix_append characters more
  constructor
  · intro beginsWhole
    rcases settled with short | mismatch
    · exact List.prefix_of_prefix_length_le beginsWhole front short
    · rcases List.prefix_or_prefix_of_prefix beginsWhole front with
        within | beyond
      · exact within
      · exact absurd beyond mismatch
  · intro within
    exact within.trans front

/-- Where the opening tells how a line begins, filling the line does not change it. -/
theorem prefix_fillParts_iff
    {beginning : List Char} {parts : List Part}
    (fillings : Fillings)
    (settled : settles beginning parts = true) :
    beginning <+: fillParts fillings parts ↔ opensWith beginning parts = true := by
  rw [opensWith, List.isPrefixOf_iff_prefix]
  match parts with
  | [] =>
      rfl
  | [.verbatim characters] =>
      simp [fillParts, fillPart, opening]
  | .verbatim characters :: second :: rest =>
      apply prefix_append_iff
      simpa [settles, fillPart, ← List.isPrefixOf_iff_prefix] using settled
  | .slot _ :: _ =>
      simp [settles] at settled

/-! ## The lines of the two templates -/

/-- What every definition begins with. -/
def definitionOpening : String := "def "

/-- What the line that reads the column begins with. -/
def readingOpening : String := "    value = self."

/-- What every line of a body begins with. -/
def indentation : String := "    "

/-- The line of a template that begins the definition. -/
def definitionParts : TemplateKind → List Part
  | .basic =>
    [.verbatim definitionOpening.toList, .slot .methodName,
      .verbatim "(self, format=None):".toList]
  | .localeAware =>
    [.verbatim definitionOpening.toList, .slot .methodName,
      .verbatim "(self, format=None, locale=".toList, .slot .localeLiteral,
      .verbatim "):".toList]

/-- The line of a template that reads the column. -/
def readingParts : List Part :=
  [.verbatim readingOpening.toList, .slot .columnName]

/-- Whether a part holds no line feed of its own. -/
def isOneLine : Part → Bool
  | .verbatim characters => !characters.contains '\n'
  | .slot _ => true

/-- Whether a part can be written in a template's text: as text without braces, or as a slot that
the template declares. -/
def isWritable (kind : TemplateKind) : Part → Bool
  | .verbatim characters => !characters.contains '\x7b' && !characters.contains '\x7d'
  | .slot slot => (slots kind).contains slot

/-- What is known of the lines of a template. -/
structure Surveyed (kind : TemplateKind) (spelled : List (List Part)) : Prop where
  settled : ∀ parts ∈ spelled,
    settles definitionOpening.toList parts = true ∧
      settles readingOpening.toList parts = true ∧
        settles indentation.toList parts = true
  /-- One line begins the definition, and one behind it reads the column. -/
  marked :
    spelled.filter (fun parts =>
        opensWith definitionOpening.toList parts ||
          opensWith readingOpening.toList parts) =
      [definitionParts kind, readingParts]
  shape : ∀ parts ∈ spelled,
    parts = [] ∨ parts = [.verbatim []] ∨
      opensWith definitionOpening.toList parts = true ∨
        opensWith indentation.toList parts = true
  oneLine : ∀ parts ∈ spelled, ∀ part ∈ parts, isOneLine part = true
  writable : ∀ parts ∈ spelled, ∀ part ∈ parts, isWritable kind part = true

theorem toList_append_literals (first second : List Char) :
    (String.ofList first ++ String.ofList second).toList = first ++ second := by
  simp

/--
The lines of both templates can be spelled out and are as the survey says.  The
characters are found by unifying each literal with a list of characters, since
taking a literal apart by evaluation is slow.
-/
theorem exists_surveyed (kind : TemplateKind) :
    ∃ spelled, List.Forall₂ Spelled (lines kind) spelled ∧ Surveyed kind spelled := by
  cases kind
  all_goals
    apply Exists.intro
    apply And.intro
    · repeat' first
        | apply List.Forall₂.cons
        | apply List.Forall₂.nil
        | apply Spelled.nil
        | apply Spelled.verbatim
        | apply Spelled.slot
        | with_reducible exact String.toList_ofList
        | with_reducible exact toList_append_literals _ _
    · constructor <;> decide +kernel

/-! ## Filled lines -/

section Filled

variable {template : List (List Piece)} {spelled : List (List Part)}

theorem exists_parts_of_mem
    (written : List.Forall₂ Spelled template spelled)
    {line : List Piece}
    (member : line ∈ template) :
    ∃ parts ∈ spelled, Spelled line parts := by
  induction written with
  | nil =>
      exact absurd member List.not_mem_nil
  | cons first _ ih =>
      rcases List.mem_cons.mp member with rfl | later
      · exact ⟨_, List.mem_cons_self, first⟩
      · rcases ih later with ⟨parts, inSpelled, same⟩
        exact ⟨parts, List.mem_cons_of_mem _ inSpelled, same⟩

/-- A test of filled lines that is decided by their parts finds the lines whose parts pass. -/
theorem filter_fillLine
    (written : List.Forall₂ Spelled template spelled)
    (fillings : Fillings)
    {test : String → Bool} {passes : List Part → Bool}
    (decided : ∀ parts ∈ spelled, ∀ line : String,
      line.toList = fillParts fillings parts → test line = passes parts) :
    ((template.map (fillLine fillings)).filter test).map String.toList =
      (spelled.filter passes).map (fillParts fillings) := by
  induction written with
  | nil =>
      rfl
  | cons first others ih =>
      rw [List.forall_mem_cons] at decided
      have same := toList_fillLine first fillings
      rw [List.map_cons, List.filter_cons, List.filter_cons, decided.1 _ same]
      split
      · rw [List.map_cons, List.map_cons, ih decided.2, same]
      · exact ih decided.2

end Filled

section Reading

variable {kind : TemplateKind} {fillings : Fillings} {line : String}

/-- A line begins as its opening does, where the opening tells. -/
theorem startsWith_of_parts
    {parts : List Part} {beginning : String}
    (same : line.toList = fillParts fillings parts)
    (settled : settles beginning.toList parts = true) :
    line.startsWith beginning = opensWith beginning.toList parts := by
  rw [Bool.eq_iff_iff, String.startsWith_string_iff, same]
  exact prefix_fillParts_iff fillings settled

theorem exists_parts_of_filledLine
    (member : line ∈ filledLines kind fillings) :
    ∃ spelled, Surveyed kind spelled ∧
      ∃ parts ∈ spelled, line.toList = fillParts fillings parts := by
  rcases exists_surveyed kind with ⟨spelled, written, surveyed⟩
  rcases List.mem_map.mp member with ⟨pieces, inTemplate, rfl⟩
  rcases exists_parts_of_mem written inTemplate with ⟨parts, inSpelled, same⟩
  exact ⟨spelled, surveyed, parts, inSpelled, toList_fillLine same fillings⟩

theorem filledLines_ne_nil (kind : TemplateKind) (fillings : Fillings) :
    filledLines kind fillings ≠ [] := by
  cases kind <;> simp [filledLines, lines, basicLines, localeAwareLines]

/-- A filled line is empty, begins the definition or is indented. -/
theorem filledLine_shape
    (member : line ∈ filledLines kind fillings) :
    line = "" ∨ line.startsWith definitionOpening = true ∨
      line.startsWith indentation = true := by
  rcases exists_parts_of_filledLine member with ⟨spelled, surveyed, parts, inSpelled, same⟩
  rcases surveyed.settled parts inSpelled with ⟨settlesDefinition, -, settlesIndentation⟩
  rw [startsWith_of_parts same settlesDefinition,
    startsWith_of_parts same settlesIndentation]
  rcases surveyed.shape parts inSpelled with rfl | rfl | opens
  · exact Or.inl (String.toList_inj.mp same)
  · exact Or.inl (String.toList_inj.mp same)
  · exact Or.inr opens

/-- Filled lines are lines: a line feed can only come from what the slots are filled with. -/
theorem newline_not_mem_filledLine
    (free : ∀ slot, '\n' ∉ (fillings.textFor slot).toList)
    (member : line ∈ filledLines kind fillings) :
    '\n' ∉ line.toList := by
  rcases exists_parts_of_filledLine member with ⟨spelled, surveyed, parts, inSpelled, same⟩
  rw [same]
  intro inLine
  rcases List.mem_flatMap.mp inLine with ⟨part, inParts, inPart⟩
  have oneLine := surveyed.oneLine parts inSpelled part inParts
  cases part with
  | verbatim characters =>
      simp only [isOneLine, List.contains_eq_mem, Bool.not_eq_true',
        decide_eq_false_iff_not] at oneLine
      exact oneLine inPart
  | slot slot =>
      exact free slot inPart

end Reading

end DateGetters.Proofs.TemplateLines
