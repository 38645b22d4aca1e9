import DateGetters.Proofs.TemplateLines

/-!
# Filling the slots of a template

The braces in a template's text are those around the names of the slots that it
declares.  So reading the text meets no stray brace and no unknown name, and it
becomes the text with every slot replaced and all else kept.

What stands in a slot's place is not read again: a getter is the same whether
its slots are filled at once or one after another, in any order.
-/

namespace DateGetters.Proofs.SlotFilling

open DateGetters.Proofs.TemplateLines
open DateGetters.Template

/-! ## Texts with slots in braces -/

/-- A character that is neither of the braces. -/
def IsPlain (character : Char) : Prop :=
  character ≠ '\x7b' ∧ character ≠ '\x7d'

/-- A text whose braces stand around declared slots, and the text with these slots replaced. -/
inductive Replaced (kind : TemplateKind) (fillings : Fillings) :
    List Char → List Char → Prop where
  | nil : Replaced kind fillings [] []
  | kept {character : Char} {rest replaced : List Char}
      (plain : IsPlain character)
      (others : Replaced kind fillings rest replaced) :
      Replaced kind fillings (character :: rest) (character :: replaced)
  | slot {slot : Slot} {rest replaced : List Char}
      (declared : slot ∈ slots kind)
      (others : Replaced kind fillings rest replaced) :
      Replaced kind fillings ('\x7b' :: (slotName slot).toList ++ '\x7d' :: rest)
        ((fillings.textFor slot).toList ++ replaced)

section Reading

variable {kind : TemplateKind} {fillings : Fillings}

theorem exists_slotName (slot : Slot) :
    ∃ first others, (slotName slot).toList = first :: others ∧
      IsPlain first ∧ ∀ character ∈ others, IsPlain character := by
  cases slot
  all_goals
    refine ⟨_, _, String.toList_ofList, ?_⟩
    simp [IsPlain]

theorem slotNamed?_of_declared
    {slot : Slot} (declared : slot ∈ slots kind) :
    slotNamed? kind (slotName slot).toList = some slot := by
  cases kind <;> cases slot <;> revert declared <;> decide

/-! ### Steps of the reader -/

theorem scan?_plain
    {character : Char} (plain : IsPlain character)
    (rest : List Char) :
    scan? .outside (character :: rest) =
      (scan? .outside rest).map (.character character :: ·) := by
  rw [scan?, if_neg plain.1, if_neg plain.2]

/-- A name is read to its end, behind what was read of it before. -/
theorem scan?_naming
    {name : List Char} (plain : ∀ character ∈ name, IsPlain character)
    (reversed rest : List Char) :
    scan? (.naming reversed) (name ++ '\x7d' :: rest) =
      (scan? .outside rest).map (.named (reversed.reverse ++ name) :: ·) := by
  induction name generalizing reversed with
  | nil =>
      simp [scan?]
  | cons character others ih =>
      rw [List.forall_mem_cons] at plain
      rw [List.cons_append, scan?, if_neg plain.1.2, if_neg plain.1.1, ih plain.2,
        List.reverse_cons, List.append_assoc, List.singleton_append]

theorem scan?_slot (slot : Slot) (rest : List Char) :
    scan? .outside ('\x7b' :: (slotName slot).toList ++ '\x7d' :: rest) =
      (scan? .outside rest).map (.named (slotName slot).toList :: ·) := by
  rcases exists_slotName slot with ⟨first, others, named, plainFirst, plainOthers⟩
  have opened : scan? .outside ('\x7b' :: first :: others ++ '\x7d' :: rest) =
      scan? (.naming [first]) (others ++ '\x7d' :: rest) := by
    rw [List.cons_append, List.cons_append, scan?, if_pos rfl, scan?, if_neg plainFirst.1,
      if_neg plainFirst.2]
  rw [named, opened, scan?_naming plainOthers]
  rfl

theorem format?_plain
    {character : Char} (plain : IsPlain character)
    (rest : List Char) :
    format? kind fillings (character :: rest) =
      (format? kind fillings rest).map (character :: ·) := by
  rw [format?, format?, scan?_plain plain]
  cases scan? .outside rest <;> rfl

theorem format?_slot
    {slot : Slot} (declared : slot ∈ slots kind)
    (rest : List Char) :
    format? kind fillings ('\x7b' :: (slotName slot).toList ++ '\x7d' :: rest) =
      (format? kind fillings rest).map ((fillings.textFor slot).toList ++ ·) := by
  rw [format?, format?, scan?_slot]
  cases scan? .outside rest with
  | none =>
      rfl
  | some elements =>
      simp only [Option.map_some, Option.bind_some, expand?, slotNamed?_of_declared declared]
      cases expand? kind fillings elements <;> rfl

/-- Where braces stand around declared slots only, reading and filling give the replaced text. -/
theorem format?_of_replaced
    {text replaced : List Char}
    (replacing : Replaced kind fillings text replaced) :
    format? kind fillings text = some replaced := by
  induction replacing with
  | nil =>
      rfl
  | kept plain _ ih =>
      rw [format?_plain plain, ih]
      rfl
  | slot declared _ ih =>
      rw [format?_slot declared, ih]
      rfl

/-- What is put into a slot is not read again, though it may look like a slot. -/
example :
    format? .basic ⟨"\x7bcolumn_name\x7d", "\x7b", "None"⟩
        "\x7bmethod_name\x7d.\x7bcolumn_name\x7d".toList =
      some "\x7bcolumn_name\x7d.\x7b".toList := by
  decide

end Reading

/-! ## Pieces as they are written -/

/-- What a piece becomes when the slots are filled. -/
def fillPiece (fillings : Fillings) : Piece → List Char
  | .verbatim content => content.toList
  | .slot slot => (fillings.textFor slot).toList

/-- A piece that leaves no brace in a template's text but those of a declared slot. -/
inductive Writable (kind : TemplateKind) : Piece → Prop where
  | verbatim {content : String}
      (plain : ∀ character ∈ content.toList, IsPlain character) :
      Writable kind (.verbatim content)
  | slot {slot : Slot}
      (declared : slot ∈ slots kind) :
      Writable kind (.slot slot)

section Writing

variable {kind : TemplateKind} {fillings : Fillings}

theorem Replaced.append_plain
    {characters : List Char} (plain : ∀ character ∈ characters, IsPlain character)
    {rest replaced : List Char} (others : Replaced kind fillings rest replaced) :
    Replaced kind fillings (characters ++ rest) (characters ++ replaced) := by
  induction characters with
  | nil =>
      exact others
  | cons character more ih =>
      rw [List.forall_mem_cons] at plain
      exact .kept plain.1 (ih plain.2)

theorem replaced_sourceOf
    {pieces : List Piece} (writable : ∀ piece ∈ pieces, Writable kind piece) :
    Replaced kind fillings (sourceOf pieces) (pieces.flatMap (fillPiece fillings)) := by
  induction pieces with
  | nil =>
      exact .nil
  | cons piece others ih =>
      rw [List.forall_mem_cons] at writable
      have replacedOthers := ih writable.2
      cases writable.1 with
      | verbatim plain =>
          exact replacedOthers.append_plain plain
      | slot declared =>
          have replaced := Replaced.slot declared replacedOthers
          simpa [sourceOf, sourceOfPiece, fillPiece] using replaced

end Writing

/-! ## Joined lists -/

theorem mem_of_mem_intercalate
    {α : Type} {separator : List α} {lists : List (List α)} {item : α}
    (member : item ∈ separator.intercalate lists) :
    item ∈ separator ∨ ∃ list ∈ lists, item ∈ list := by
  induction lists with
  | nil =>
      exact absurd member List.not_mem_nil
  | cons list others ih =>
      cases others with
      | nil =>
          rw [List.intercalate_singleton] at member
          exact Or.inr ⟨list, List.mem_cons_self, member⟩
      | cons second more =>
          rw [List.intercalate_cons_cons, List.mem_append, List.mem_append] at member
          rcases member with (inList | inSeparator) | later
          · exact Or.inr ⟨list, List.mem_cons_self, inList⟩
          · exact Or.inl inSeparator
          · rcases ih later with inSeparator | ⟨other, inOthers, inOther⟩
            · exact Or.inl inSeparator
            · exact Or.inr ⟨other, List.mem_cons_of_mem _ inOthers, inOther⟩

theorem flatMap_intercalate
    {α β : Type} (change : α → List β) (separator : List α) (lists : List (List α)) :
    (separator.intercalate lists).flatMap change =
      (separator.flatMap change).intercalate (lists.map (·.flatMap change)) := by
  induction lists with
  | nil =>
      rfl
  | cons list others ih =>
      cases others with
      | nil =>
          simp
      | cons second more =>
          rw [List.intercalate_cons_cons, List.map_cons, List.map_cons,
            List.intercalate_cons_cons, ← List.map_cons, ← ih]
          simp

/-! ## The pieces of the two templates -/

theorem writable_of_spelled
    {kind : TemplateKind} {line : List Piece} {parts : List Part}
    (spelled : Spelled line parts)
    (writable : ∀ part ∈ parts, isWritable kind part = true) :
    ∀ piece ∈ line, Writable kind piece := by
  induction spelled with
  | nil =>
      intro piece member
      exact absurd member List.not_mem_nil
  | verbatim same _ ih =>
      rw [List.forall_mem_cons] at writable ⊢
      refine ⟨.verbatim ?_, ih writable.2⟩
      have braceless := writable.1
      rw [← same] at braceless
      simp only [isWritable, Bool.and_eq_true, Bool.not_eq_true', List.contains_eq_mem,
        decide_eq_false_iff_not] at braceless
      intro character member
      exact ⟨ne_of_mem_of_not_mem member braceless.1, ne_of_mem_of_not_mem member braceless.2⟩
  | slot _ ih =>
      rw [List.forall_mem_cons] at writable ⊢
      exact ⟨.slot (List.contains_iff_mem.mp writable.1), ih writable.2⟩

theorem writable_of_mem_pieces
    {kind : TemplateKind} {piece : Piece}
    (member : piece ∈ pieces kind) :
    Writable kind piece := by
  rcases mem_of_mem_intercalate member with lineFeed | ⟨line, inTemplate, inLine⟩
  · rw [List.mem_singleton.mp lineFeed]
    apply Writable.verbatim
    simp [IsPlain]
  · rcases exists_surveyed kind with ⟨spelled, written, surveyed⟩
    rcases exists_parts_of_mem written inTemplate with ⟨parts, inSpelled, same⟩
    exact writable_of_spelled same (surveyed.writable parts inSpelled) piece inLine

theorem toList_fillLine_eq_flatMap (fillings : Fillings) (line : List Piece) :
    (fillLine fillings line).toList = line.flatMap (fillPiece fillings) := by
  rw [fillLine, String.toList_join, List.flatMap_map]
  apply List.flatMap_congr
  intro piece _
  cases piece <;> rfl

theorem toList_fill (kind : TemplateKind) (fillings : Fillings) :
    (fill kind fillings).toList = (pieces kind).flatMap (fillPiece fillings) := by
  rw [fill, filledLines, String.toList_intercalate, pieces, flatMap_intercalate, List.map_map]
  congr 1
  apply List.map_congr_left
  intro line _
  exact toList_fillLine_eq_flatMap fillings line

/-! ## One slot after another -/

/-- Put a slot's text wherever the slot stands, and leave the other pieces as they are. -/
def fillSlot (fillings : Fillings) (pieces : List Piece) (slot : Slot) : List Piece :=
  pieces.map fun piece => if piece = .slot slot then .verbatim (fillings.textFor slot) else piece

section Filling

variable (fillings : Fillings)

/-- Filling one slot does not change what becomes of the pieces in the end. -/
theorem fillPiece_fillSlot (pieces : List Piece) (slot : Slot) :
    (fillSlot fillings pieces slot).flatMap (fillPiece fillings) =
      pieces.flatMap (fillPiece fillings) := by
  rw [fillSlot, List.flatMap_map]
  congr 1
  funext piece
  split_ifs with same
  · rw [same]
    rfl
  · rfl

theorem fillPiece_foldl_fillSlot (order : List Slot) (pieces : List Piece) :
    (order.foldl (fillSlot fillings) pieces).flatMap (fillPiece fillings) =
      pieces.flatMap (fillPiece fillings) := by
  induction order generalizing pieces with
  | nil =>
      rfl
  | cons slot others ih =>
      rw [List.foldl_cons, ih, fillPiece_fillSlot]

/-- A slot that is filled is gone, and no slot is new. -/
theorem mem_of_mem_fillSlot
    {fillings : Fillings} {pieces : List Piece} {slot other : Slot}
    (member : .slot other ∈ fillSlot fillings pieces slot) :
    .slot other ∈ pieces ∧ other ≠ slot := by
  rcases List.mem_map.mp member with ⟨piece, inPieces, became⟩
  split_ifs at became with same
  rw [became] at inPieces same
  exact ⟨inPieces, fun equal => same (congrArg Piece.slot equal)⟩

theorem mem_of_mem_foldl_fillSlot
    {fillings : Fillings} {order : List Slot} {pieces : List Piece} {slot : Slot}
    (member : .slot slot ∈ order.foldl (fillSlot fillings) pieces) :
    .slot slot ∈ pieces ∧ slot ∉ order := by
  induction order generalizing pieces with
  | nil =>
      exact ⟨member, List.not_mem_nil⟩
  | cons first others ih =>
      rcases ih member with ⟨left, notLater⟩
      rcases mem_of_mem_fillSlot left with ⟨inPieces, notFirst⟩
      exact ⟨inPieces, List.not_mem_cons_of_ne_of_not_mem notFirst notLater⟩

/-- Pieces without slots are written as what becomes of them. -/
theorem sourceOf_of_no_slot
    {pieces : List Piece} (none : ∀ slot, .slot slot ∉ pieces) :
    sourceOf pieces = pieces.flatMap (fillPiece fillings) := by
  apply List.flatMap_congr
  intro piece member
  cases piece with
  | verbatim content =>
      rfl
  | slot slot =>
      exact absurd member (none slot)

end Filling

/-! ## Filled templates -/

section Templates

variable (kind : TemplateKind) (fillings : Fillings)

theorem replaced_source : Replaced kind fillings (source kind) (fill kind fillings).toList := by
  rw [toList_fill]
  exact replaced_sourceOf fun _ => writable_of_mem_pieces

/-- A template's text is read without a fault, and its slots are filled. -/
theorem format?_source :
    format? kind fillings (source kind) = some (fill kind fillings).toList :=
  format?_of_replaced (replaced_source kind fillings)

theorem replaced_source_iff (text : List Char) :
    Replaced kind fillings (source kind) text ↔ text = (fill kind fillings).toList := by
  constructor
  · intro replacing
    have read := format?_of_replaced replacing
    rw [format?_source] at read
    exact (Option.some.inj read).symm
  · rintro rfl
    exact replaced_source kind fillings

/-- Once every declared slot has had its turn, the template is filled. -/
theorem sourceOf_foldl_fillSlot
    {order : List Slot} (covering : slots kind ⊆ order) :
    sourceOf (order.foldl (fillSlot fillings) (pieces kind)) = (fill kind fillings).toList := by
  have none : ∀ slot, .slot slot ∉ order.foldl (fillSlot fillings) (pieces kind) := by
    intro slot member
    rcases mem_of_mem_foldl_fillSlot member with ⟨inTemplate, notFilled⟩
    cases writable_of_mem_pieces inTemplate with
    | slot declared =>
        exact notFilled (covering declared)
  rw [sourceOf_of_no_slot fillings none, fillPiece_foldl_fillSlot, toList_fill]

end Templates

/-- A getter is the text of a template with its slots filled. -/
structure Filled (kind : TemplateKind) (fillings : Fillings) (getter : String) : Prop where
  /-- The text of the template is read, and every name in it is that of a declared slot. -/
  read : format? kind fillings (source kind) = some getter.toList
  /-- Every slot is replaced by its text as it is, and nothing else is. -/
  replaced : ∀ text, Replaced kind fillings (source kind) text ↔ text = getter.toList
  /-- The slots may be filled one after another, in any order in which each has its turn. -/
  anyOrder : ∀ order : List Slot, slots kind ⊆ order →
    sourceOf (order.foldl (fillSlot fillings) (pieces kind)) = getter.toList

theorem outcome_renderGetter (kind : TemplateKind) (methodName columnName literal : Value) :
    (renderGetter kind methodName columnName literal).outcome =
      .ok (fill kind ⟨methodName.toText, columnName.toText, literal.toText⟩) := rfl

/--
Rendering never fails, whatever the texts for the slots are: the text of a
template is read without a fault, and the getter is that text with these texts
in the places of the slots.
-/
theorem renderGetter_filled (kind : TemplateKind) (methodName columnName literal : String) :
    ∃ getter,
      (renderGetter kind (.text methodName) (.text columnName) (.text literal)).outcome =
          .ok getter ∧
        Filled kind ⟨methodName, columnName, literal⟩ getter := by
  refine ⟨fill kind ⟨methodName, columnName, literal⟩, outcome_renderGetter kind _ _ _, ?_⟩
  constructor
  case read =>
    exact format?_source kind _
  case replaced =>
    exact replaced_source_iff kind _
  case anyOrder =>
    intro order covering
    exact sourceOf_foldl_fillSlot kind _ covering

end DateGetters.Proofs.SlotFilling
