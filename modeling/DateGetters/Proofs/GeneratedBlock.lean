import DateGetters.Proofs.ColumnSelection
import DateGetters.Proofs.GetterRendering
import DateGetters.Proofs.LiteralParts
import DateGetters.Proofs.TemplateLines
import DateGetters.Proofs.TextPieces

/-!
# Reading a generated block back

A generated block is cut into lines.  If the names that went into it hold no
line feed and no getter's name holds a parenthesis, the lines that begin a
definition and those that read a column alternate, and they give back the names
of the getters and of their columns in order.  The locale has no influence on
where lines begin and end, since its literal stands on one line.
-/

namespace DateGetters.Proofs.GeneratedBlock

open DateGetters.Proofs.ColumnSelection
open DateGetters.Proofs.GetterRendering
open DateGetters.Proofs.LiteralParts
open DateGetters.Proofs.TemplateLines
open DateGetters.Proofs.TextPieces

/-! ## Lines that matter -/

/-- Whether a line begins a definition. -/
def isDefinition (line : String) : Bool :=
  line.startsWith definitionOpening

/-- Whether a line reads a column. -/
def isReading (line : String) : Bool :=
  line.startsWith readingOpening

/-- Whether a line tells something of a getter. -/
def isMarked (line : String) : Bool :=
  isDefinition line || isReading line

/-- The text between the opening of a definition and the first parenthesis. -/
def methodNameIn (line : String) : String :=
  String.ofList ((line.toList.drop definitionOpening.length).takeWhile (· ≠ '('))

/-- The text behind the opening of a line that reads a column. -/
def columnNameIn (line : String) : String :=
  String.ofList (line.toList.drop readingOpening.length)

/-- The parameters of a getter, with the colon that ends their line. -/
def parameters (literal : String) : TemplateKind → String
  | .basic => "(self, format=None):"
  | .localeAware => "(self, format=None, locale=" ++ literal ++ "):"

theorem parameters_basic (literal : String) :
    parameters literal .basic = "(self, format=None):" := rfl

theorem parameters_localeAware (literal : String) :
    parameters literal .localeAware =
      "(self, format=None, locale=" ++ literal ++ "):" := rfl

/-- The line that begins the definition of a getter. -/
def definition (kind : TemplateKind) (literal : String) (getter : Getter) : String :=
  definitionOpening ++ getter.methodName ++ parameters literal kind

/-- The line in which a getter reads its column. -/
def reading (getter : Getter) : String :=
  readingOpening ++ getter.columnName

/-- The two lines of each getter that tell its name and that of its column. -/
def markedLines (kind : TemplateKind) (literal : String) (getters : List Getter) :
    List String :=
  getters.flatMap fun getter => [definition kind literal getter, reading getter]

/-- A getter whose names can be told from the lines of its source. -/
structure Clean (getter : Getter) : Prop where
  columnName : '\n' ∉ getter.columnName.toList
  methodName : '\n' ∉ getter.methodName.toList
  noParenthesis : '(' ∉ getter.methodName.toList

/-- What the lines of a block of getters are. -/
structure Decoded (kind : TemplateKind) (literal : String) (getters : List Getter)
    (lines : List String) : Prop where
  shape : ∀ line ∈ lines,
    line = "" ∨ line.startsWith "def " = true ∨ line.startsWith "    " = true
  /-- Definitions and readings alternate: one of each for every getter. -/
  alternating : lines.filter isMarked = markedLines kind literal getters
  count : (lines.filter isDefinition).length = getters.length
  methodNames :
    (lines.filter isDefinition).map methodNameIn = getters.map Getter.methodName
  signatures :
    kind = .localeAware →
      lines.filter isDefinition = getters.map fun getter =>
        "def " ++ getter.methodName ++ "(self, format=None, locale=" ++ literal ++ "):"
  columnNames :
    (lines.filter isReading).map columnNameIn = getters.map Getter.columnName

/-! ## The lines of one getter -/

/-- The lines of a getter's source. -/
def getterLines (kind : TemplateKind) (literal : String) (getter : Getter) :
    List String :=
  Template.filledLines kind (getter.fillings literal)

theorem fillParts_definition
    (kind : TemplateKind) (literal : String) (getter : Getter) :
    fillParts (getter.fillings literal) (definitionParts kind) =
      (definition kind literal getter).toList := by
  cases kind with
  | basic =>
      rw [definitionParts, fillParts_verbatim, fillParts_slot, fillParts_verbatim,
        fillParts_nil, Getter.textFor_methodName, definition, parameters_basic,
        String.toList_append, String.toList_append, List.append_assoc,
        List.append_nil]
  | localeAware =>
      rw [definitionParts, fillParts_verbatim, fillParts_slot, fillParts_verbatim,
        fillParts_slot, fillParts_verbatim, fillParts_nil, Getter.textFor_methodName,
        Getter.textFor_localeLiteral, definition, parameters_localeAware,
        String.toList_append, String.toList_append, String.toList_append,
        String.toList_append, List.append_assoc, List.append_assoc, List.append_nil]

theorem fillParts_reading (literal : String) (getter : Getter) :
    fillParts (getter.fillings literal) readingParts = (reading getter).toList := by
  rw [readingParts, fillParts_verbatim, fillParts_slot, fillParts_nil,
    Getter.textFor_columnName, reading, String.toList_append, List.append_nil]

/-- Of the lines of a getter, one begins the definition and a later one reads the column. -/
theorem filter_getterLines
    (kind : TemplateKind) (literal : String) (getter : Getter) :
    (getterLines kind literal getter).filter isMarked =
      [definition kind literal getter, reading getter] := by
  rcases exists_surveyed kind with ⟨spelled, written, surveyed⟩
  have found :
      ((getterLines kind literal getter).filter isMarked).map String.toList =
        (spelled.filter fun parts => opensWith definitionOpening.toList parts ||
          opensWith readingOpening.toList parts).map
            (fillParts (getter.fillings literal)) := by
    apply filter_fillLine written
    intro parts member line same
    rcases surveyed.settled parts member with ⟨settlesDefinition, settlesReading, -⟩
    rw [isMarked, isDefinition, isReading, startsWith_of_parts same settlesDefinition,
      startsWith_of_parts same settlesReading]
  rw [surveyed.marked] at found
  apply List.map_injective_iff.mpr fun _ _ => String.toList_injective
  rw [found, List.map_cons, List.map_cons, List.map_nil,
    fillParts_definition, fillParts_reading]
  rfl

/-! ## What the two marked lines tell -/

theorem isDefinition_definition
    (kind : TemplateKind) (literal : String) (getter : Getter) :
    isDefinition (definition kind literal getter) = true := by
  rw [isDefinition, String.startsWith_string_iff, definition, String.append_assoc,
    String.toList_append]
  exact List.prefix_append _ _

theorem isReading_reading (getter : Getter) : isReading (reading getter) = true := by
  rw [isReading, String.startsWith_string_iff, reading, String.toList_append]
  exact List.prefix_append _ _

theorem isReading_definition
    (kind : TemplateKind) (literal : String) (getter : Getter) :
    isReading (definition kind literal getter) = false := by
  have same := (fillParts_definition kind literal getter).symm
  cases kind
  all_goals
    rw [isReading, startsWith_of_parts same (by decide +kernel)]
    decide +kernel

theorem isDefinition_reading (getter : Getter) :
    isDefinition (reading getter) = false := by
  have same := (fillParts_reading "" getter).symm
  rw [isDefinition, startsWith_of_parts same (by decide +kernel)]
  decide +kernel

theorem exists_parameters (kind : TemplateKind) (literal : String) :
    ∃ others, (parameters literal kind).toList = '(' :: others := by
  cases kind with
  | basic =>
      rw [parameters_basic]
      exact ⟨_, by with_reducible exact String.toList_ofList⟩
  | localeAware =>
      have opening : ∃ others,
          "(self, format=None, locale=".toList = '(' :: others :=
        ⟨_, by with_reducible exact String.toList_ofList⟩
      rcases opening with ⟨others, spelled⟩
      rw [parameters_localeAware, String.toList_append, String.toList_append, spelled]
      exact ⟨_, rfl⟩

theorem methodNameIn_definition
    (kind : TemplateKind) (literal : String)
    {getter : Getter}
    (noParenthesis : '(' ∉ getter.methodName.toList) :
    methodNameIn (definition kind literal getter) = getter.methodName := by
  rcases exists_parameters kind literal with ⟨others, spelled⟩
  have stops : (getter.methodName.toList ++ '(' :: others).takeWhile (· ≠ '(') =
      getter.methodName.toList := by
    rw [List.takeWhile_append_of_pos]
    · simp
    · intro character member
      have different : character ≠ '(' := by
        rintro rfl
        exact noParenthesis member
      simpa using different
  rw [methodNameIn, definition, String.append_assoc, String.toList_append,
    List.drop_left' String.length_toList, String.toList_append, spelled, stops,
    String.ofList_toList]

theorem columnNameIn_reading (getter : Getter) :
    columnNameIn (reading getter) = getter.columnName := by
  rw [columnNameIn, reading, String.toList_append, List.drop_left' String.length_toList,
    String.ofList_toList]

/-! ## The lines of a block -/

section Block

variable {kind : TemplateKind} {literal : String} {getters : List Getter}

theorem newline_not_mem_getterLine
    {getter : Getter} {line : String}
    (oneLine : '\n' ∉ literal.toList)
    (clean : Clean getter)
    (member : line ∈ getterLines kind literal getter) :
    '\n' ∉ line.toList := by
  apply newline_not_mem_filledLine _ member
  intro slot
  cases slot with
  | methodName =>
      exact clean.methodName
  | columnName =>
      exact clean.columnName
  | localeLiteral =>
      exact oneLine

/-- The lines of a block of getters are the lines of the getters. -/
theorem split_block
    (nonempty : getters ≠ [])
    (oneLine : '\n' ∉ literal.toList)
    (clean : ∀ getter ∈ getters, Clean getter) :
    Text.split '\n' (block kind literal getters) =
      getters.flatMap (getterLines kind literal) := by
  have groupsNonempty :
      ∀ group ∈ getters.map (getterLines kind literal), group ≠ [] := by
    intro group member
    rcases List.mem_map.mp member with ⟨getter, -, rfl⟩
    exact filledLines_ne_nil kind _
  have joined : block kind literal getters =
      (String.singleton '\n').intercalate (getters.flatMap (getterLines kind literal)) := by
    rw [List.flatMap_def, ← intercalate_intercalate groupsNonempty, List.map_map]
    rfl
  rw [joined]
  apply split_intercalate
  · intro none
    rcases List.exists_mem_of_ne_nil getters nonempty with ⟨getter, member⟩
    exact filledLines_ne_nil kind _ (List.flatMap_eq_nil_iff.mp none getter member)
  · intro line member
    rcases List.mem_flatMap.mp member with ⟨getter, inGetters, inLines⟩
    exact newline_not_mem_getterLine oneLine (clean getter inGetters) inLines

theorem split_block_nil (kind : TemplateKind) (literal : String) :
    Text.split '\n' (block kind literal []) = [""] := rfl

theorem isMarked_empty : isMarked "" = false := by
  decide +kernel

/-- Of the lines of a block, two are marked for every getter. -/
theorem filter_isMarked_block
    (kind : TemplateKind)
    (oneLine : '\n' ∉ literal.toList)
    (clean : ∀ getter ∈ getters, Clean getter) :
    (Text.split '\n' (block kind literal getters)).filter isMarked =
      markedLines kind literal getters := by
  cases getters with
  | nil =>
      rw [split_block_nil, List.filter_cons, isMarked_empty]
      rfl
  | cons first others =>
      rw [split_block (List.cons_ne_nil first others) oneLine clean,
        List.filter_flatMap, markedLines]
      congr 1
      funext getter
      exact filter_getterLines kind literal getter

theorem shape_block
    (oneLine : '\n' ∉ literal.toList)
    (clean : ∀ getter ∈ getters, Clean getter)
    {line : String}
    (member : line ∈ Text.split '\n' (block kind literal getters)) :
    line = "" ∨ line.startsWith "def " = true ∨ line.startsWith "    " = true := by
  cases getters with
  | nil =>
      rw [split_block_nil, List.mem_singleton] at member
      exact Or.inl member
  | cons first others =>
      rw [split_block (List.cons_ne_nil first others) oneLine clean] at member
      rcases List.mem_flatMap.mp member with ⟨getter, -, inLines⟩
      exact filledLine_shape inLines

/-! ## Decoding -/

/-- A test of marked lines that picks one line of each getter. -/
theorem filter_of_marked
    {lines : List String} {test : String → Bool} {pick : Getter → String}
    (marked : lines.filter isMarked = markedLines kind literal getters)
    (finer : ∀ line, test line = true → isMarked line = true)
    (picked : ∀ getter,
      [definition kind literal getter, reading getter].filter test = [pick getter]) :
    lines.filter test = getters.map pick := by
  have twice : lines.filter test = (lines.filter isMarked).filter test := by
    rw [List.filter_filter]
    apply List.filter_congr
    intro line _
    cases found : test line with
    | true =>
        rw [finer line found]
        rfl
    | false =>
        rfl
  rw [twice, marked, markedLines, List.filter_flatMap, List.map_eq_flatMap]
  congr 1
  funext getter
  exact picked getter

theorem filter_isDefinition_of_marked
    {lines : List String}
    (marked : lines.filter isMarked = markedLines kind literal getters) :
    lines.filter isDefinition = getters.map (definition kind literal) := by
  apply filter_of_marked marked
  · intro line found
    rw [isMarked, found, Bool.true_or]
  · intro getter
    simp only [List.filter_cons, isDefinition_definition, isDefinition_reading,
      List.filter_nil, if_true, Bool.false_eq_true, if_false]

theorem filter_isReading_of_marked
    {lines : List String}
    (marked : lines.filter isMarked = markedLines kind literal getters) :
    lines.filter isReading = getters.map reading := by
  apply filter_of_marked marked
  · intro line found
    rw [isMarked, found, Bool.or_true]
  · intro getter
    simp only [List.filter_cons, isReading_definition, isReading_reading,
      List.filter_nil, if_true, Bool.false_eq_true, if_false]

/-- The lines of a block of clean getters tell what the getters are. -/
theorem decoded_block
    (kind : TemplateKind)
    (oneLine : '\n' ∉ literal.toList)
    (clean : ∀ getter ∈ getters, Clean getter) :
    Decoded kind literal getters (Text.split '\n' (block kind literal getters)) := by
  have marked := filter_isMarked_block kind oneLine clean
  have definitions := filter_isDefinition_of_marked marked
  have readings := filter_isReading_of_marked marked
  constructor
  case shape =>
    intro line member
    exact shape_block oneLine clean member
  case alternating =>
    exact marked
  case count =>
    rw [definitions, List.length_map]
  case methodNames =>
    rw [definitions, List.map_map]
    apply List.map_congr_left
    intro getter member
    exact methodNameIn_definition kind literal (clean getter member).noParenthesis
  case signatures =>
    rintro rfl
    rw [definitions]
    apply List.map_congr_left
    intro getter _
    rw [definition, parameters_localeAware, ← String.append_assoc, ← String.append_assoc]
    rfl
  case columnNames =>
    rw [readings, List.map_map]
    apply List.map_congr_left
    intro getter _
    exact columnNameIn_reading getter

end Block

/-- The lines determine the getters. -/
theorem Decoded.unique
    {kind otherKind : TemplateKind} {literal otherLiteral : String}
    {getters otherGetters : List Getter} {lines : List String}
    (decoded : Decoded kind literal getters lines)
    (otherDecoded : Decoded otherKind otherLiteral otherGetters lines) :
    otherGetters = getters := by
  have methodNames : otherGetters.map Getter.methodName = getters.map Getter.methodName := by
    rw [← decoded.methodNames, otherDecoded.methodNames]
  have columnNames : otherGetters.map Getter.columnName = getters.map Getter.columnName := by
    rw [← decoded.columnNames, otherDecoded.columnNames]
  have pairs (some : List Getter) :
      some = (some.map Getter.methodName).zipWith Getter.mk (some.map Getter.columnName) := by
    rw [List.zipWith_map, List.zipWith_self, List.map_id']
  rw [pairs otherGetters, methodNames, columnNames, ← pairs getters]

/--
A generated text is a block of the getters of the selected columns.  Where these
are clean the text tells what they are, so no other clean getters give the same
text, whatever the table and the options they come from.
-/
theorem generate_decoded
    {σ : Type} [Schema σ]
    (table : σ) (options : Options) (text : String)
    (done : (generate table options).outcome = .ok text) :
    ∃ columns getters,
      SelectedGetters table options columns getters ∧
        ((∀ getter ∈ getters, Clean getter) →
          Decoded (.ofOption options.useLocale) (localeLiteral options.defaultLocale)
              getters (Text.split '\n' text) ∧
            ∀ {τ : Type} [Schema τ] (other : τ) (otherOptions : Options)
              (otherColumns : List Column) (otherGetters : List Getter),
              (generate other otherOptions).outcome = .ok text →
                SelectedGetters other otherOptions otherColumns otherGetters →
                  (∀ getter ∈ otherGetters, Clean getter) →
                    otherGetters = getters) := by
  rcases (generate_eq_ok_iff table options text).mp done with
    ⟨-, columns, getters, chosen, rfl⟩
  refine ⟨columns, getters, chosen, ?_⟩
  intro clean
  have decoded := decoded_block (.ofOption options.useLocale)
    (newline_not_mem_localeLiteral options.defaultLocale) clean
  constructor
  · exact decoded
  · intro τ _ other otherOptions otherColumns otherGetters otherDone otherChosen otherClean
    rcases (generate_eq_ok_iff other otherOptions _).mp otherDone with
      ⟨-, someColumns, someGetters, someChosen, same⟩
    have sameGetters := otherChosen.unique someChosen
    subst sameGetters
    have otherDecoded := decoded_block (.ofOption otherOptions.useLocale)
      (newline_not_mem_localeLiteral otherOptions.defaultLocale) otherClean
    rw [← same] at otherDecoded
    exact decoded.unique otherDecoded

/-- A table of two temporal columns. -/
def paintings : Table :=
  ⟨.text "paintings", [
    ⟨.text "made", .text "date", .text "Made"⟩,
    ⟨.text "sold at", .text "TIMESTAMP", .text "SoldAt"⟩]⟩

/-- Options with a locale of two lines. -/
def brokenLocale : Options :=
  ⟨.text "get%s", .null, .bool true, .text "de\nDE"⟩

/-- The getters of the table. -/
def paintingGetters : List Getter :=
  [⟨"getMade", "made"⟩, ⟨"getSoldAt", "sold at"⟩]

theorem selectedGetters_paintings :
    SelectedGetters paintings brokenLocale paintings.columns paintingGetters where
  selection := by
    have textual : ∀ column ∈ paintings.columns, IsTextual column := by
      simp [paintings, IsTextual]
    have temporal : ∀ column ∈ paintings.columns, isTemporal column = true :=
      List.all_eq_true.mp (by decide +kernel)
    have all : paintings.columns.filter isTemporal = paintings.columns :=
      List.filter_eq_self.mpr temporal
    rw [brokenLocale, columns_of_silent _ rfl]
    exact (temporal_of_textual textual).trans (congrArg _ all)
  named := by
    have made : NameFormat.fill "get%s" "Made" = "getMade" := by
      decide +kernel
    have soldAt : NameFormat.fill "get%s" "SoldAt" = "getSoldAt" := by
      decide +kernel
    refine .cons ?_ (.cons ?_ .nil)
    · rw [Getter.ofColumn, brokenLocale, NameFormat.methodName_text, made]
      rfl
    · rw [Getter.ofColumn, brokenLocale, NameFormat.methodName_text, soldAt]
      rfl

theorem clean_paintingGetters : ∀ getter ∈ paintingGetters, Clean getter := by
  rw [paintingGetters, List.forall_mem_cons, List.forall_mem_singleton]
  constructor
  · constructor <;> decide
  · constructor <;> decide

/-- The locale of two lines is on one line, so both getters are read back, in their order. -/
theorem generate_decoded_paintings :
    (generate paintings brokenLocale).outcome =
        .ok (block .localeAware (localeLiteral (.text "de\nDE")) paintingGetters) ∧
      (∀ getter ∈ paintingGetters, Clean getter) ∧
      Decoded .localeAware (localeLiteral (.text "de\nDE")) paintingGetters
        (Text.split '\n'
          (block .localeAware (localeLiteral (.text "de\nDE")) paintingGetters)) := by
  have done := (generate_eq_ok_iff paintings brokenLocale _).mpr
    ⟨rfl, _, _, selectedGetters_paintings, rfl⟩
  rcases generate_decoded paintings brokenLocale _ done with
    ⟨columns, getters, chosen, read⟩
  have sameGetters := selectedGetters_paintings.unique chosen
  subst sameGetters
  exact ⟨done, clean_paintingGetters, (read clean_paintingGetters).1⟩

end DateGetters.Proofs.GeneratedBlock
