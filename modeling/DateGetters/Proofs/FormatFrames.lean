import DateGetters.Proofs.GenerationOutcome

/-!
# Formats with one frame

A format with exactly one frame is valid, and the identifier of a column takes
its place between front and back as it is, whatever it holds.  All other formats
are refused with the number of their frames.
-/

namespace DateGetters.Proofs.FormatFrames

open DateGetters.Proofs.GenerationOutcome
open DateGetters.Proofs.Placeholders

theorem checked_text (format : String) :
    NameFormat.checked (.text format) =
      if NameFormat.occurrences format.toList = 1 then .ok (.text format)
      else .error (.invalidFormat (.text format)
        (.integer (NameFormat.occurrences format.toList))) := by
  rw [NameFormat.checked, validate_text]
  split <;> rfl

/-- What becomes of a format with a number of frames. -/
inductive Checked (format : String) : Nat → Outcome Value → Prop where
  /-- A format with one frame is handed back, and identifiers take their place in that frame. -/
  | valid (front back : String)
      (only : frames format = {(front, back)})
      (filled : ∀ identifier : String,
        NameFormat.methodName (.text format) (.text identifier) =
          .ok (front ++ identifier ++ back))
      (separated : ∀ first second : String,
        NameFormat.methodName (.text format) (.text first) =
            NameFormat.methodName (.text format) (.text second) ↔
          first = second) :
      Checked format 1 (.ok (.text format))
  | invalid {count : Nat}
      (notOne : count ≠ 1) :
      Checked format count (.error (.invalidFormat (.text format) (.integer count)))

theorem methodName_eq_iff
    {format : String}
    (valid : NameFormat.occurrences format.toList = 1)
    (first second : String) :
    NameFormat.methodName (.text format) (.text first) =
        NameFormat.methodName (.text format) (.text second) ↔
      first = second := by
  rw [NameFormat.methodName_text, NameFormat.methodName_text, Except.ok.injEq]
  exact (fill_injective valid).eq_iff

/--
The number of frames of a format is the number of its placeholders, and a check
of the format goes by this number.
-/
theorem checked_frames (format : String) :
    ∃ count : Nat,
      (frames format).encard = count ∧
        NameFormat.count (.text format) = .ok count ∧
        Checked format count (NameFormat.checked (.text format)) := by
  refine ⟨_, encard_frames format, NameFormat.count_text format, ?_⟩
  rw [checked_text]
  by_cases valid : NameFormat.occurrences format.toList = 1
  · rcases exists_only_frame valid with ⟨⟨front, back⟩, only⟩
    rw [if_pos valid, valid]
    refine .valid front back only ?_ (methodName_eq_iff valid)
    intro identifier
    rw [NameFormat.methodName_text, fill_of_frames only]
  · rw [if_neg valid]
    exact .invalid valid

end DateGetters.Proofs.FormatFrames
