/-!
# Pieces of a text

Cutting a text, or any list, at a separator.  `pieces` always gives at least one piece, one more
than there are separators, and joining the pieces with the separator gives back what was cut.
-/

namespace DateGetters.Text

variable {α : Type} [DecidableEq α]

/-- The pieces between the occurrences of a separator, one more than there are occurrences. -/
def pieces (separator : α) : List α → List (List α)
  | [] => [[]]
  | character :: rest =>
    if character = separator then
      [] :: pieces separator rest
    else
      match pieces separator rest with
      | [] => [[character]]
      | first :: others => (character :: first) :: others

def split (separator : Char) (text : String) : List String :=
  (pieces separator text.toList).map String.ofList

@[simp]
theorem pieces_nil (separator : α) : pieces separator [] = [[]] := rfl

theorem pieces_ne_nil (separator : α) (characters : List α) :
    pieces separator characters ≠ [] := by
  cases characters with
  | nil => simp
  | cons character rest =>
    unfold pieces
    split
    · simp
    · split <;> simp

/-- A text is cut into one piece more than it holds separators. -/
theorem length_pieces (separator : α) (characters : List α) :
    (pieces separator characters).length = characters.count separator + 1 := by
  induction characters with
  | nil => rfl
  | cons character rest ih =>
    unfold pieces
    split
    · next same => simp [same, ih]
    · next other =>
      have different : (character == separator) = false := by simp [other]
      split
      · next none => exact absurd none (pieces_ne_nil separator rest)
      · next first others cut =>
        rw [cut] at ih
        simpa [List.count_cons, different] using ih

/-- Joining the pieces with the separator gives back the characters that were cut. -/
theorem intercalate_pieces (separator : α) (characters : List α) :
    [separator].intercalate (pieces separator characters) = characters := by
  induction characters with
  | nil => rfl
  | cons character rest ih =>
    unfold pieces
    split
    · next same =>
      cases cut : pieces separator rest with
      | nil => exact absurd cut (pieces_ne_nil separator rest)
      | cons first others =>
        rw [cut] at ih
        simp [same, ih]
    · split
      · next none => exact absurd none (pieces_ne_nil separator rest)
      · next first others cut =>
        rw [cut] at ih
        cases others with
        | nil => simpa using ih
        | cons second more => simpa using ih

end DateGetters.Text
