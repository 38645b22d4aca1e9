import DateGetters.Proofs.GeneratedBlock
import DateGetters.Proofs.JoinedLists

/-!
# What the locale options can change

Two runs of generation whose options differ in the switch between the templates
and in the default locale only select the same columns and name the same
getters.  They fail alike, or both succeed; and they warn of the same names.

The source of a getter is a line that begins the definition and a body behind
it.  The body holds no locale, and the line holds one in the locale-aware
template only, in one place.  So the locale shows there and nowhere else.
-/

namespace DateGetters.Proofs.LocaleInfluence

open DateGetters.Proofs.GeneratedBlock
open DateGetters.Proofs.GenerationTrace
open DateGetters.Proofs.GetterRendering
open DateGetters.Proofs.JoinedLists
open DateGetters.Proofs.Outcomes
open DateGetters.Proofs.TemplateLines
open DateGetters.Template

variable {σ : Type} [Schema σ]

/-! ## The source of a getter -/

/-- The slots of a line. -/
def slotsIn (line : List Piece) : List Slot :=
  line.filterMap fun
    | .verbatim _ => none
    | .slot slot => some slot

/-- A line is filled with the texts of its own slots and no others. -/
theorem fillLine_congr
    {first second : Fillings} {line : List Piece}
    (same : ∀ slot ∈ slotsIn line, first.textFor slot = second.textFor slot) :
    fillLine first line = fillLine second line := by
  rw [fillLine, fillLine]
  apply congrArg
  apply List.map_congr_left
  intro piece member
  cases piece with
  | verbatim content =>
      rfl
  | slot slot =>
      exact same slot (List.mem_filterMap.mpr ⟨_, member, rfl⟩)

/-- The lines behind the one that begins the definition. -/
def bodyLines (kind : TemplateKind) : List (List Piece) :=
  (lines kind).drop 2

/-- What stands behind the line that begins the definition of a getter. -/
def body (kind : TemplateKind) (getter : Getter) : String :=
  "\n".intercalate ((bodyLines kind).map (fillLine (getter.fillings "")))

theorem literal_not_mem_slotsIn_bodyLines (kind : TemplateKind) :
    ∀ line ∈ bodyLines kind, .localeLiteral ∉ slotsIn line := by
  cases kind <;> decide +kernel

theorem map_fillLine_bodyLines
    (kind : TemplateKind) (literal : String) (getter : Getter) :
    (bodyLines kind).map (fillLine (getter.fillings literal)) =
      (bodyLines kind).map (fillLine (getter.fillings "")) := by
  apply List.map_congr_left
  intro line member
  apply fillLine_congr
  intro slot used
  cases slot with
  | methodName =>
      rfl
  | columnName =>
      rfl
  | localeLiteral =>
      exact absurd used (literal_not_mem_slotsIn_bodyLines kind line member)

/-- The line of a template that begins the definition. -/
def definitionLine : TemplateKind → List Piece
  | .basic => [.verbatim definitionOpening, .slot .methodName, .verbatim "(self, format=None):"]
  | .localeAware =>
    [.verbatim definitionOpening, .slot .methodName,
      .verbatim "(self, format=None, locale=", .slot .localeLiteral, .verbatim "):"]

/-- The line of a template that reads the column. -/
def readingLine : List Piece :=
  [.verbatim readingOpening, .slot .columnName]

theorem lines_eq (kind : TemplateKind) :
    lines kind = [] :: definitionLine kind :: bodyLines kind := by
  have front : (lines kind).take 2 = [[], definitionLine kind] := by
    cases kind <;> rfl
  rw [← List.take_append_drop 2 (lines kind), front]
  rfl

theorem fillLine_definitionLine
    (kind : TemplateKind) (literal : String) (getter : Getter) :
    fillLine (getter.fillings literal) (definitionLine kind) =
      definition kind literal getter := by
  cases kind with
  | basic =>
      simp only [fillLine, definitionLine, definition, parameters_basic, List.map_cons,
        List.map_nil, String.join_cons, String.join_nil, Getter.textFor_methodName,
        String.append_assoc, String.append_empty]
  | localeAware =>
      simp only [fillLine, definitionLine, definition, parameters_localeAware, List.map_cons,
        List.map_nil, String.join_cons, String.join_nil, Getter.textFor_methodName,
        Getter.textFor_localeLiteral, String.append_assoc, String.append_empty]

theorem fillLine_readingLine (getter : Getter) :
    fillLine (getter.fillings "") readingLine = reading getter := by
  simp [fillLine, readingLine, reading]

theorem bodyLines_ne_nil (kind : TemplateKind) : bodyLines kind ≠ [] := by
  cases kind <;> decide +kernel

/-- The source of a getter is the line of its definition, behind a line feed, and the body. -/
theorem source_eq (kind : TemplateKind) (literal : String) (getter : Getter) :
    getter.source kind literal =
      "\ndef " ++ getter.methodName ++ parameters literal kind ++ "\n" ++ body kind getter := by
  have opening : "\ndef " = "\n" ++ definitionOpening := by
    rfl
  have bodySome : (bodyLines kind).map (fillLine (getter.fillings "")) ≠ [] := by
    simpa using bodyLines_ne_nil kind
  have emptyLine : fillLine (getter.fillings literal) [] = "" := by
    rfl
  rw [Getter.source, fill, filledLines, lines_eq, List.map_cons, List.map_cons,
    fillLine_definitionLine, map_fillLine_bodyLines, String.intercalate_cons_cons,
    String.intercalate_cons_of_ne_nil bodySome, ← body, emptyLine, definition, opening]
  simp only [String.empty_append, String.append_assoc]

/-- One line of a body reads the column, with lines in front of it and behind it. -/
theorem exists_bodyLines_eq (kind : TemplateKind) :
    ∃ front back, front ≠ [] ∧ back ≠ [] ∧ bodyLines kind = front ++ readingLine :: back := by
  have inside : readingLine ∈ bodyLines kind := by
    cases kind <;> decide +kernel
  have notFirst : (bodyLines kind).head? ≠ some readingLine := by
    cases kind <;> decide +kernel
  have notLast : (bodyLines kind).getLast? ≠ some readingLine := by
    cases kind <;> decide +kernel
  rcases List.append_of_mem inside with ⟨front, back, split⟩
  rw [split] at notFirst notLast
  refine ⟨front, back, ?_, ?_, split⟩
  · rintro rfl
    exact notFirst rfl
  · rintro rfl
    exact notLast List.getLast?_concat

theorem exists_body_eq (kind : TemplateKind) (getter : Getter) :
    ∃ front back, body kind getter =
      front ++ "\n    value = self." ++ getter.columnName ++ "\n" ++ back := by
  have opening : "\n    value = self." = "\n" ++ readingOpening := by
    rfl
  rcases exists_bodyLines_eq kind with ⟨front, back, frontSome, backSome, split⟩
  have filledFront : front.map (fillLine (getter.fillings "")) ≠ [] := by
    simpa using frontSome
  have filledBack : back.map (fillLine (getter.fillings "")) ≠ [] := by
    simpa using backSome
  refine ⟨"\n".intercalate (front.map (fillLine (getter.fillings ""))),
    "\n".intercalate (back.map (fillLine (getter.fillings ""))), ?_⟩
  rw [body, split, List.map_append, List.map_cons, fillLine_readingLine, reading, opening,
    String.intercalate_append_of_ne_nil filledFront (List.cons_ne_nil _ _),
    String.intercalate_cons_of_ne_nil filledBack]
  simp only [String.append_assoc]

/-! ## What a fragment carries -/

/-- A fragment that defines the method of a getter and reads its column. -/
structure Carries (getter : Getter) (fragment : String) : Prop where
  definition :
    ∃ rest, fragment = "\ndef " ++ getter.methodName ++ "(self, format=None" ++ rest
  reading :
    ∃ front back, fragment =
      front ++ "\n    value = self." ++ getter.columnName ++ "\n" ++ back

theorem exists_parameters_eq (kind : TemplateKind) (literal : String) :
    ∃ rest, parameters literal kind = "(self, format=None" ++ rest := by
  cases kind with
  | basic =>
      exact ⟨"):", rfl⟩
  | localeAware =>
      have opening : "(self, format=None, locale=" = "(self, format=None" ++ ", locale=" := by
        rfl
      refine ⟨", locale=" ++ literal ++ "):", ?_⟩
      rw [parameters_localeAware, opening]
      simp only [String.append_assoc]

theorem carries_source (kind : TemplateKind) (literal : String) (getter : Getter) :
    Carries getter (getter.source kind literal) where
  definition := by
    rcases exists_parameters_eq kind literal with ⟨rest, split⟩
    refine ⟨rest ++ "\n" ++ body kind getter, ?_⟩
    rw [source_eq, split]
    simp only [String.append_assoc]
  reading := by
    rcases exists_body_eq kind getter with ⟨front, back, split⟩
    refine ⟨"\ndef " ++ getter.methodName ++ parameters literal kind ++ "\n" ++ front, back, ?_⟩
    rw [source_eq, split]
    simp only [String.append_assoc]

/-- The source of a getter that takes no locale is the same with any literal. -/
theorem source_basic (literal other : String) (getter : Getter) :
    getter.source .basic literal = getter.source .basic other := by
  rw [source_eq, source_eq, parameters_basic, parameters_basic]

/-- What stands in front of the literal in the source of a locale-aware getter. -/
def beforeLiteral (getter : Getter) : String :=
  "\ndef " ++ getter.methodName ++ "(self, format=None, locale="

/-- What stands behind the literal in the source of a locale-aware getter. -/
def afterLiteral (getter : Getter) : String :=
  "):" ++ "\n" ++ body .localeAware getter

theorem source_localeAware (literal : String) (getter : Getter) :
    getter.source .localeAware literal =
      beforeLiteral getter ++ literal ++ afterLiteral getter := by
  rw [source_eq, parameters_localeAware, beforeLiteral, afterLiteral]
  simp only [String.append_assoc]

/-! ## Two runs -/

/-- The fragments that a run renders for its getters, and the text that they are joined to. -/
structure Fragments (table : σ) (options : Options) (columns : List Column)
    (getters : List Getter) (fragments : List String) (text : String) : Prop where
  selection : SelectedGetters table options columns getters
  rendered : (columnGetters options columns).outcome = .ok fragments
  joined : text = "\n".intercalate fragments
  carried : List.Forall₂ Carries getters fragments

theorem forall₂_carries
    (kind : TemplateKind) (literal : String) (getters : List Getter) :
    List.Forall₂ Carries getters (getters.map (Getter.source kind literal)) := by
  rw [List.forall₂_map_right_iff, List.forall₂_same]
  intro getter _
  exact carries_source kind literal getter

/-- The fragments of a text are the sources of the getters. -/
theorem fragments_of_selected
    {table : σ} {options : Options} {columns : List Column} {getters : List Getter}
    (chosen : SelectedGetters table options columns getters) :
    Fragments table options columns getters
      (getters.map (Getter.source (.ofOption options.useLocale)
        (localeLiteral options.defaultLocale)))
      (block (.ofOption options.useLocale) (localeLiteral options.defaultLocale) getters) where
  selection := chosen
  rendered := by
    rw [outcome_columnGetters, (mapM_eq_ok_iff _ _ _).mpr chosen.named]
    rfl
  joined := rfl
  carried := forall₂_carries _ _ getters

/-! ### Without a locale -/

theorem renderGetter_basic (methodName columnName literal other : Value) :
    renderGetter .basic methodName columnName literal =
      renderGetter .basic methodName columnName other := by
  have same : fill .basic ⟨methodName.toText, columnName.toText, literal.toText⟩ =
      fill .basic ⟨methodName.toText, columnName.toText, other.toText⟩ :=
    source_basic literal.toText other.toText ⟨methodName.toText, columnName.toText⟩
  simp only [renderGetter, same]

theorem ofOption_of_off
    {useLocale : Value}
    (off : useLocale.isTruthy = false) :
    TemplateKind.ofOption useLocale = .basic := by
  rw [TemplateKind.ofOption, off]
  rfl

theorem ofOption_of_on
    {useLocale : Value}
    (on : useLocale.isTruthy = true) :
    TemplateKind.ofOption useLocale = .localeAware := by
  rw [TemplateKind.ofOption, on]
  rfl

section WithoutLocale

variable {nameFormat columns useLocale otherUse locale otherLocale : Value}

theorem columnGetter_of_off
    (off : useLocale.isTruthy = false) (otherOff : otherUse.isTruthy = false)
    (column : Column) :
    columnGetter ⟨nameFormat, columns, useLocale, locale⟩ column =
      columnGetter ⟨nameFormat, columns, otherUse, otherLocale⟩ column := by
  simp only [columnGetter, ofOption_of_off off, ofOption_of_off otherOff]
  apply congrArg (bind _)
  ext methodName
  exact renderGetter_basic _ _ _ _

theorem generate_of_off
    (table : σ)
    (off : useLocale.isTruthy = false) (otherOff : otherUse.isTruthy = false) :
    generate table ⟨nameFormat, columns, useLocale, locale⟩ =
      generate table ⟨nameFormat, columns, otherUse, otherLocale⟩ := by
  have sameKind : TemplateKind.ofOption useLocale = TemplateKind.ofOption otherUse := by
    rw [ofOption_of_off off, ofOption_of_off otherOff]
  exact generate_congr rfl rfl rfl sameKind (columnGetter_of_off off otherOff)

end WithoutLocale

/-! ### The law -/

/-- What two runs have in common whose options differ in the locale options only. -/
structure SameButLocale (table : σ) (first second : Options) : Prop where
  /-- Both fail with the same fault, or both succeed. -/
  faults :
    ∀ fault, (generate table first).outcome = .error fault ↔
      (generate table second).outcome = .error fault
  warnings :
    warningsIn (generate table first).log = warningsIn (generate table second).log
  /-- Where no getter takes a locale, the two runs are the same. -/
  withoutLocale :
    first.useLocale.isTruthy = false → second.useLocale.isTruthy = false →
      generate table first = generate table second
  /-- The fragments of the two texts are for the same getters.  Where all of these take a locale,
  the fragments differ in its literal only. -/
  fragments :
    ∀ text other, (generate table first).outcome = .ok text →
      (generate table second).outcome = .ok other →
        ∃ columns getters fragments others,
          Fragments table first columns getters fragments text ∧
            Fragments table second columns getters others other ∧
            (first.useLocale.isTruthy = true → second.useLocale.isTruthy = true →
              fragments = getters.map (fun getter => beforeLiteral getter ++
                  localeLiteral first.defaultLocale ++ afterLiteral getter) ∧
                others = getters.map (fun getter => beforeLiteral getter ++
                  localeLiteral second.defaultLocale ++ afterLiteral getter))

/-- The getters that a table and options call for do not depend on the locale options. -/
theorem selected_otherLocale
    (table : σ) (nameFormat columns useLocale otherUse locale otherLocale : Value) :
    Getter.selected table ⟨nameFormat, columns, useLocale, locale⟩ =
      Getter.selected table ⟨nameFormat, columns, otherUse, otherLocale⟩ := rfl

theorem outcome_generate_eq_error_iff
    (table : σ) (options : Options) (fault : Fault) :
    (generate table options).outcome = .error fault ↔
      Getter.selected table options = .error fault := by
  rw [outcome_generate]
  cases Getter.selected table options with
  | error first =>
      simp [Except.map]
  | ok getters =>
      exact ⟨nofun, nofun⟩

theorem map_source_localeAware (literal : String) (getters : List Getter) :
    getters.map (Getter.source .localeAware literal) =
      getters.map fun getter => beforeLiteral getter ++ literal ++ afterLiteral getter := by
  apply List.map_congr_left
  intro getter _
  exact source_localeAware literal getter

/--
Options that differ in the switch between the templates and in the default
locale only give runs that differ in the templates and the literal only.
-/
theorem generate_sameButLocale
    (table : σ) (nameFormat columns useLocale otherUse locale otherLocale : Value) :
    SameButLocale table ⟨nameFormat, columns, useLocale, locale⟩
      ⟨nameFormat, columns, otherUse, otherLocale⟩ where
  faults fault := by
    rw [outcome_generate_eq_error_iff, outcome_generate_eq_error_iff,
      selected_otherLocale table nameFormat columns useLocale otherUse locale otherLocale]
  warnings := by
    cases checked : NameFormat.validate nameFormat with
    | error fault =>
        rw [generate_of_invalid checked, generate_of_invalid checked]
    | ok valid =>
        rw [warningsIn_generate table checked, warningsIn_generate table checked]
  withoutLocale off otherOff := generate_of_off table off otherOff
  fragments text other done otherDone := by
    rcases (generate_eq_ok_iff _ _ _).mp done with ⟨-, selected, getters, chosen, rfl⟩
    rcases (generate_eq_ok_iff _ _ _).mp otherDone with
      ⟨-, otherSelected, otherGetters, otherChosen, rfl⟩
    have sameChoice : SelectedGetters table ⟨nameFormat, columns, otherUse, otherLocale⟩
        selected getters := ⟨chosen.selection, chosen.named⟩
    have sameGetters := sameChoice.unique otherChosen
    subst sameGetters
    refine ⟨selected, otherGetters, _, _, fragments_of_selected chosen,
      fragments_of_selected sameChoice, ?_⟩
    intro on otherOn
    rw [ofOption_of_on on, ofOption_of_on otherOn]
    constructor
    · exact map_source_localeAware _ _
    · exact map_source_localeAware _ _

end DateGetters.Proofs.LocaleInfluence
