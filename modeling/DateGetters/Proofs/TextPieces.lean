import DateGetters.Text.Blank
import DateGetters.Text.Pieces
import Mathlib.Data.List.TakeWhile

/-!
# Pieces and what was joined

Cutting undoes joining: parts that are free of the separator are got back from
what the separator joins them to.  The other way round, no piece holds the
separator, and every character of a piece was there before the cut.
-/

namespace DateGetters.Proofs.TextPieces

open DateGetters.Text

variable {α : Type} [DecidableEq α]

/-! ## Cutting what was joined -/

/-- The pieces in front of a separator and those behind it are cut apart from each other. -/
theorem pieces_append
    (separator : α) (front back : List α) :
    pieces separator (front ++ separator :: back) =
      pieces separator front ++ pieces separator back := by
  induction front with
  | nil =>
      simp [pieces]
  | cons character others ih =>
      by_cases same : character = separator
      · simp only [List.cons_append, pieces, same, if_true, ih]
      · cases cut : pieces separator others with
        | nil =>
            exact absurd cut (pieces_ne_nil separator others)
        | cons first more =>
            simp only [List.cons_append, pieces, same, if_false, ih, cut]

theorem pieces_of_not_mem
    {separator : α} {part : List α}
    (free : separator ∉ part) :
    pieces separator part = [part] := by
  induction part with
  | nil =>
      rfl
  | cons character others ih =>
      rw [List.mem_cons, not_or] at free
      have different : character ≠ separator := Ne.symm free.1
      simp only [pieces, different, if_false, ih free.2]

theorem pieces_append_separator
    {separator : α} {part : List α}
    (free : separator ∉ part)
    (rest : List α) :
    pieces separator (part ++ separator :: rest) =
      part :: pieces separator rest := by
  rw [pieces_append, pieces_of_not_mem free, List.singleton_append]

/-- Parts without the separator are the pieces of what the separator joins them to. -/
theorem pieces_intercalate
    {separator : α} {parts : List (List α)}
    (nonempty : parts ≠ [])
    (free : ∀ part ∈ parts, separator ∉ part) :
    pieces separator ([separator].intercalate parts) = parts := by
  induction parts with
  | nil =>
      exact absurd rfl nonempty
  | cons part others ih =>
      rw [List.forall_mem_cons] at free
      cases others with
      | nil =>
          simpa using pieces_of_not_mem free.1
      | cons second more =>
          have cut := ih (List.cons_ne_nil second more) free.2
          rw [List.intercalate_cons_cons, List.append_assoc, List.singleton_append,
            pieces_append_separator free.1, cut]

/-- Texts without a character are the pieces of what that character joins them to. -/
theorem split_intercalate
    {separator : Char} {parts : List String}
    (nonempty : parts ≠ [])
    (free : ∀ part ∈ parts, separator ∉ part.toList) :
    Text.split separator ((String.singleton separator).intercalate parts) = parts := by
  have charactersFree : ∀ part ∈ parts.map String.toList, separator ∉ part := by
    intro part member
    rcases List.mem_map.mp member with ⟨text, inParts, rfl⟩
    exact free text inParts
  have charactersNonempty : parts.map String.toList ≠ [] := by
    simpa using nonempty
  rw [Text.split, String.toList_intercalate, String.toList_singleton,
    pieces_intercalate charactersNonempty charactersFree, List.map_map]
  simp [Function.comp_def]

theorem split_append
    (separator : Char) (front back : String) :
    Text.split separator (front ++ String.singleton separator ++ back) =
      Text.split separator front ++ Text.split separator back := by
  rw [Text.split, String.toList_append, String.toList_append, String.toList_singleton,
    List.append_assoc, List.singleton_append, pieces_append, List.map_append]
  rfl

/-- Joining what groups of texts are joined to is joining all texts of the groups. -/
theorem intercalate_intercalate
    {separator : String} {groups : List (List String)}
    (nonempty : ∀ group ∈ groups, group ≠ []) :
    separator.intercalate (groups.map separator.intercalate) =
      separator.intercalate groups.flatten := by
  induction groups with
  | nil =>
      rfl
  | cons group others ih =>
      rw [List.forall_mem_cons] at nonempty
      cases others with
      | nil =>
          simp
      | cons second more =>
          have othersNonempty : (second :: more).flatten ≠ [] := by
            simp [nonempty.2 second List.mem_cons_self]
          have othersJoined : (second :: more).map separator.intercalate ≠ [] := by
            simp
          rw [List.map_cons, List.flatten_cons,
            String.intercalate_cons_of_ne_nil othersJoined, ih nonempty.2,
            String.intercalate_append_of_ne_nil nonempty.1 othersNonempty]

/-! ## The pieces of a text -/

/-- A piece holds nothing but characters of the text, and not the separator. -/
theorem mem_of_mem_piece
    {separator : α} {characters piece : List α}
    (cut : piece ∈ pieces separator characters)
    {character : α}
    (member : character ∈ piece) :
    character ∈ characters ∧ character ≠ separator := by
  induction characters generalizing piece with
  | nil =>
      rw [pieces_nil, List.mem_singleton] at cut
      rw [cut] at member
      exact absurd member List.not_mem_nil
  | cons first others ih =>
      by_cases same : first = separator
      · simp only [pieces, same, if_true, List.mem_cons] at cut
        rcases cut with rfl | later
        · exact absurd member List.not_mem_nil
        · rcases ih later member with ⟨inOthers, different⟩
          exact ⟨List.mem_cons_of_mem _ inOthers, different⟩
      · cases cutOthers : pieces separator others with
        | nil =>
            exact absurd cutOthers (pieces_ne_nil separator others)
        | cons second more =>
            simp only [pieces, same, if_false, cutOthers, List.mem_cons] at cut
            rw [cutOthers] at ih
            rcases cut with rfl | later
            · rcases List.mem_cons.mp member with rfl | inSecond
              · exact ⟨List.mem_cons_self, same⟩
              · rcases ih List.mem_cons_self inSecond with ⟨inOthers, different⟩
                exact ⟨List.mem_cons_of_mem _ inOthers, different⟩
            · rcases ih (List.mem_cons_of_mem _ later) member with ⟨inOthers, different⟩
              exact ⟨List.mem_cons_of_mem _ inOthers, different⟩

/-! ## Trimming -/

theorem trimChars_of_blank
    {characters : List Char}
    (blank : ∀ character ∈ characters, isBlank character = true) :
    trimChars characters = [] := by
  have dropped : trimFront characters = [] :=
    List.dropWhile_eq_nil_iff.mpr blank
  rw [trimChars, dropped]
  rfl

/-- Blanks around characters are trimmed away. -/
theorem trimChars_padded
    {front back : List Char}
    (blankFront : ∀ character ∈ front, isBlank character = true)
    (blankBack : ∀ character ∈ back, isBlank character = true)
    (characters : List Char) :
    trimChars (front ++ characters ++ back) = trimChars characters := by
  have droppedFront : trimFront (front ++ characters ++ back) =
      trimFront (characters ++ back) := by
    rw [trimFront, List.append_assoc, List.dropWhile_append_of_pos blankFront]
    rfl
  by_cases blank : ∀ character ∈ characters, isBlank character = true
  · rw [trimChars, droppedFront, ← trimChars, trimChars_of_blank blank]
    exact trimChars_of_blank (List.forall_mem_append.mpr ⟨blank, blankBack⟩)
  · have kept : (trimFront characters).isEmpty = false := by
      rw [List.isEmpty_eq_false_iff, trimFront, ne_eq, List.dropWhile_eq_nil_iff]
      exact blank
    have blankReversed : ∀ character ∈ back.reverse, isBlank character = true := by
      simpa using blankBack
    have split : trimFront (characters ++ back) = trimFront characters ++ back := by
      rw [trimFront, List.dropWhile_append, ← trimFront, kept]
      rfl
    rw [trimChars, droppedFront, split, List.reverse_append, trimFront,
      List.dropWhile_append_of_pos blankReversed]
    rfl

/-- What is trimmed away are blanks in front and blanks behind. -/
theorem exists_padding (characters : List Char) :
    ∃ front back,
      (∀ character ∈ front, isBlank character = true) ∧
        (∀ character ∈ back, isBlank character = true) ∧
        characters = front ++ trimChars characters ++ back := by
  have blankTaken (others : List Char) :
      ∀ character ∈ others.takeWhile isBlank, isBlank character = true := by
    intro character member
    exact List.mem_takeWhile_imp member
  refine ⟨characters.takeWhile isBlank,
    ((trimFront characters).reverse.takeWhile isBlank).reverse,
    blankTaken characters, ?_, ?_⟩
  · intro character member
    exact blankTaken _ character (List.mem_reverse.mp member)
  · rw [trimChars, List.append_assoc, ← List.reverse_append, trimFront,
      trimFront, List.takeWhile_append_dropWhile, List.reverse_reverse,
      List.takeWhile_append_dropWhile]

theorem isBlank_of_mem_head?_trimFront
    {characters : List Char} {character : Char}
    (first : character ∈ (trimFront characters).head?) :
    isBlank character = false := by
  have kept := List.head?_dropWhile_not isBlank characters
  rw [← trimFront, Option.mem_def.mp first] at kept
  exact kept

/-- A trimmed text does not begin with a blank. -/
theorem isBlank_of_mem_head?_trimChars
    {characters : List Char} {character : Char}
    (first : character ∈ (trimChars characters).head?) :
    isBlank character = false := by
  have suffix : trimFront (trimFront characters).reverse <:+ (trimFront characters).reverse :=
    List.dropWhile_suffix isBlank
  have front : trimChars characters <+: trimFront characters := by
    rw [trimChars, ← List.reverse_suffix, List.reverse_reverse]
    exact suffix
  rcases front with ⟨rest, joined⟩
  have firstOfFront : character ∈ (trimFront characters).head? := by
    rw [← joined, List.head?_append, Option.mem_def.mp first]
    rfl
  exact isBlank_of_mem_head?_trimFront firstOfFront

/-- A trimmed text does not end with a blank. -/
theorem isBlank_of_mem_getLast?_trimChars
    {characters : List Char} {character : Char}
    (last : character ∈ (trimChars characters).getLast?) :
    isBlank character = false := by
  rw [trimChars, List.getLast?_reverse] at last
  exact isBlank_of_mem_head?_trimFront last

/-- A text that is not blank at either end is not changed by trimming. -/
theorem trimChars_of_ends
    {characters : List Char}
    (front : ∀ character ∈ characters.head?, isBlank character = false)
    (back : ∀ character ∈ characters.getLast?, isBlank character = false) :
    trimChars characters = characters := by
  have keepsFront : trimFront characters = characters := by
    cases characters with
    | nil =>
        rfl
    | cons first others =>
        exact List.dropWhile_cons_of_neg (by simp [front first rfl])
  have keepsBack : trimFront characters.reverse = characters.reverse := by
    cases reversed : characters.reverse with
    | nil =>
        rfl
    | cons last others =>
        have isLast : characters.getLast? = some last := by
          rw [← List.head?_reverse, reversed]
          rfl
        exact List.dropWhile_cons_of_neg (by simp [back last isLast])
  rw [trimChars, keepsFront, keepsBack, List.reverse_reverse]

/-- A text without blanks at its ends. -/
structure Bare (text : String) : Prop where
  front : ∀ character ∈ text.toList.head?, isBlank character = false
  back : ∀ character ∈ text.toList.getLast?, isBlank character = false

theorem Bare.trim_eq {text : String} (bare : Bare text) : trim text = text := by
  rw [trim, trimChars_of_ends bare.front bare.back, String.ofList_toList]

theorem bare_trim (text : String) : Bare (trim text) where
  front := by
    intro character first
    rw [toList_trim] at first
    exact isBlank_of_mem_head?_trimChars first
  back := by
    intro character last
    rw [toList_trim] at last
    exact isBlank_of_mem_getLast?_trimChars last

end DateGetters.Proofs.TextPieces
