import DateGetters.Naming
import Mathlib.Data.Set.Card

/-!
# Placeholders of a format

A frame of a format is what stands in front of a placeholder and behind it.  Two
placeholders never overlap, so a format has as many frames as a scan from left
to right counts placeholders.

A replacement takes the place of the first placeholder as it is.  Where there is
only one, it stands between the front and the back of the only frame, so
different replacements give different texts.
-/

namespace DateGetters.Proofs.Placeholders

/-! ## Frames of characters -/

/-- The ways to cut characters into a front, a placeholder and a back. -/
def frameChars (format : List Char) : Set (List Char × List Char) :=
  {frame | format = frame.1 ++ '%' :: 's' :: frame.2}

theorem mem_frameChars (format front back : List Char) :
    (front, back) ∈ frameChars format ↔ format = front ++ '%' :: 's' :: back :=
  Iff.rfl

/-- A frame with more characters at its front. -/
def extend (characters : List Char) (frame : List Char × List Char) : List Char × List Char :=
  (characters ++ frame.1, frame.2)

theorem extend_injective (characters : List Char) : Function.Injective (extend characters) := by
  rintro ⟨front, back⟩ ⟨otherFront, otherBack⟩ same
  simpa [extend] using same

theorem frameChars_nil : frameChars [] = ∅ := by
  rw [Set.eq_empty_iff_forall_notMem]
  rintro ⟨front, back⟩ cut
  simp [mem_frameChars] at cut

/-- Apart from the frame with nothing in front, the first character is in front of every frame. -/
theorem mem_frameChars_cons
    {character : Char} {rest front back : List Char}
    (cut : (front, back) ∈ frameChars (character :: rest)) :
    (front = [] ∧ character = '%' ∧ rest = 's' :: back) ∨
      (front, back) ∈ extend [character] '' frameChars rest := by
  rw [mem_frameChars] at cut
  cases front with
  | nil =>
      rw [List.nil_append, List.cons.injEq] at cut
      exact Or.inl ⟨rfl, cut⟩
  | cons first others =>
      rw [List.cons_append, List.cons.injEq] at cut
      rcases cut with ⟨rfl, cutRest⟩
      exact Or.inr ⟨(others, back), cutRest, rfl⟩

theorem extend_mem_frameChars
    (characters : List Char) {rest : List Char}
    {frame : List Char × List Char}
    (cut : frame ∈ frameChars rest) :
    extend characters frame ∈ frameChars (characters ++ rest) := by
  rw [extend, mem_frameChars, (mem_frameChars rest frame.1 frame.2).mp cut, List.append_assoc]

theorem frameChars_cons
    {character : Char} {rest : List Char}
    (other : ∀ back, character = '%' → rest = 's' :: back → False) :
    frameChars (character :: rest) = extend [character] '' frameChars rest := by
  ext ⟨front, back⟩
  constructor
  · intro cut
    rcases mem_frameChars_cons cut with ⟨-, percent, letter⟩ | later
    · exact (other back percent letter).elim
    · exact later
  · rintro ⟨frame, cut, extended⟩
    rw [← extended]
    exact extend_mem_frameChars [character] cut

/-- A placeholder at the beginning has one frame, and all others have it in front. -/
theorem frameChars_placeholder (rest : List Char) :
    frameChars ('%' :: 's' :: rest) =
      insert ([], rest) (extend ['%', 's'] '' frameChars rest) := by
  have inLetter : frameChars ('s' :: rest) = extend ['s'] '' frameChars rest := by
    apply frameChars_cons
    intro back percent
    cases percent
  ext ⟨front, back⟩
  constructor
  · intro cut
    rcases mem_frameChars_cons cut with ⟨rfl, -, letter⟩ | later
    · rw [(List.cons.inj letter).2]
      exact Set.mem_insert _ _
    · rw [inLetter, ← Set.image_comp] at later
      exact Set.mem_insert_of_mem _ later
  · rintro (first | ⟨frame, cut, extended⟩)
    · cases first
      rfl
    · rw [← extended]
      exact extend_mem_frameChars ['%', 's'] cut

theorem encard_frameChars (format : List Char) :
    (frameChars format).encard = NameFormat.occurrences format := by
  fun_induction NameFormat.occurrences format with
  | case1 rest ih =>
      -- The scan goes on behind the placeholder: none begins with the letter that ends this one.
      have notLater : ([], rest) ∉ extend ['%', 's'] '' frameChars rest := by
        rintro ⟨frame, -, extended⟩
        cases extended
      rw [frameChars_placeholder, Set.encard_insert_of_notMem notLater,
        (extend_injective _).encard_image, ih]
      rfl
  | case2 character rest other ih =>
      rw [frameChars_cons other, (extend_injective _).encard_image, ih]
  | case3 =>
      rw [frameChars_nil, Set.encard_empty]
      rfl

/-! ## Frames of texts -/

/-- What stands in front of a placeholder of a format and behind it. -/
def frames (format : String) : Set (String × String) :=
  {frame | format = frame.1 ++ "%s" ++ frame.2}

theorem mem_frames (format front back : String) :
    (front, back) ∈ frames format ↔ format = front ++ "%s" ++ back :=
  Iff.rfl

theorem mem_frames_iff (format front back : String) :
    (front, back) ∈ frames format ↔ (front.toList, back.toList) ∈ frameChars format.toList := by
  rw [mem_frames, mem_frameChars, ← String.toList_inj, String.toList_append,
    String.toList_append, List.append_assoc]
  rfl

theorem encard_frames (format : String) :
    (frames format).encard = NameFormat.occurrences format.toList := by
  have injective : Function.Injective (Prod.map String.toList String.toList) :=
    Function.Injective.prodMap (fun _ _ => String.toList_injective)
      (fun _ _ => String.toList_injective)
  have characters :
      Prod.map String.toList String.toList '' frames format = frameChars format.toList := by
    ext ⟨front, back⟩
    constructor
    · rintro ⟨⟨frontText, backText⟩, cut, written⟩
      rw [← written]
      exact (mem_frames_iff format frontText backText).mp cut
    · intro cut
      refine ⟨(String.ofList front, String.ofList back), ?_, by simp⟩
      rw [mem_frames_iff, String.toList_ofList, String.toList_ofList]
      exact cut
  rw [← injective.encard_image, characters, encard_frameChars]

/-! ## Filling a format -/

/-- A format with a placeholder has a front and a back that every replacement leaves as they are. -/
theorem exists_frame
    {format : List Char}
    (holds : NameFormat.occurrences format ≠ 0) :
    ∃ front back, ∀ replacement,
      NameFormat.fillChars replacement format = front ++ replacement ++ back := by
  fun_induction NameFormat.occurrences format with
  | case1 rest _ =>
      exact ⟨[], rest, fun replacement => rfl⟩
  | case2 character rest other ih =>
      rcases ih holds with ⟨front, back, framed⟩
      refine ⟨character :: front, back, ?_⟩
      intro replacement
      rw [NameFormat.fillChars, framed]
      · rfl
      · exact other
  | case3 =>
      exact absurd rfl holds

/-- A valid format gives different names to different identifiers. -/
theorem fill_injective
    {format : String}
    (valid : NameFormat.occurrences format.toList = 1) :
    Function.Injective (NameFormat.fill format) := by
  have holds : NameFormat.occurrences format.toList ≠ 0 := by
    omega
  rcases exists_frame holds with ⟨front, back, framed⟩
  intro first second same
  have sameCharacters : front ++ first.toList ++ back = front ++ second.toList ++ back := by
    rw [← framed, ← framed]
    exact String.ofList_injective same
  rw [List.append_cancel_right_eq, List.append_cancel_left_eq] at sameCharacters
  exact String.toList_injective sameCharacters

theorem fillChars_placeholder (format : List Char) :
    NameFormat.fillChars ['%', 's'] format = format := by
  fun_induction NameFormat.fillChars ['%', 's'] format with
  | case1 rest =>
      rfl
  | case2 character rest other ih =>
      rw [ih]
  | case3 =>
      rfl

/-- Where there is only one frame, a replacement stands between its front and its back. -/
theorem fill_of_frames
    {format front back : String}
    (only : frames format = {(front, back)})
    (replacement : String) :
    NameFormat.fill format replacement = front ++ replacement ++ back := by
  have holds : NameFormat.occurrences format.toList ≠ 0 := by
    intro none
    have counted := encard_frames format
    rw [only, none, Set.encard_singleton] at counted
    exact absurd counted (by simp)
  rcases exists_frame holds with ⟨frontChars, backChars, framed⟩
  have cut : (String.ofList frontChars, String.ofList backChars) ∈ frames format := by
    have whole := framed ['%', 's']
    rw [fillChars_placeholder] at whole
    rw [mem_frames_iff, mem_frameChars, String.toList_ofList, String.toList_ofList, whole,
      List.append_assoc]
    rfl
  rw [only, Set.mem_singleton_iff, Prod.mk.injEq] at cut
  rcases cut with ⟨rfl, rfl⟩
  rw [NameFormat.fill, framed, ← String.toList_inj]
  simp [String.toList_append]

theorem exists_only_frame
    {format : String}
    (valid : NameFormat.occurrences format.toList = 1) :
    ∃ frame, frames format = {frame} := by
  have one : (frames format).encard = 1 := by
    rw [encard_frames, valid]
    rfl
  exact Set.encard_eq_one.mp one

/-- A replacement stands between any front and back of a format with one placeholder. -/
theorem fill_of_frame
    {front back : String}
    (valid : NameFormat.occurrences (front ++ "%s" ++ back).toList = 1)
    (replacement : String) :
    NameFormat.fill (front ++ "%s" ++ back) replacement = front ++ replacement ++ back := by
  rcases exists_only_frame valid with ⟨frame, only⟩
  have cut : (front, back) ∈ frames (front ++ "%s" ++ back) :=
    (mem_frames _ front back).mpr rfl
  rw [only, Set.mem_singleton_iff] at cut
  rw [← cut] at only
  exact fill_of_frames only replacement

end DateGetters.Proofs.Placeholders
