import DateGetters.Proofs.ColumnSelection
import Mathlib.Data.List.Induction

/-!
# Names and their repetitions

An option lists names between commas, and the names that it asks for are the
different ones among them.  A name repeats if it stands among those before it.
Two options with a comma between them list the names of the first and then
those of the second; which of the latter repeat depends on the former only
through membership.

Blanks around a name do not matter, so that names may be written in many ways
that list the same names.
-/

namespace DateGetters.Proofs.RequestedNames

open DateGetters.Proofs.ColumnSelection
open DateGetters.Proofs.TextPieces
open DateGetters.Selection

theorem namesIn_append (front back : String) :
    namesIn (front ++ "," ++ back) = namesIn front ++ namesIn back := by
  have cut : Text.split ',' (front ++ "," ++ back) =
      Text.split ',' front ++ Text.split ',' back :=
    split_append ',' front back
  rw [namesIn, cut, List.map_append]
  rfl

theorem append_comma_ne_empty (front back : String) : front ++ "," ++ back ≠ "" := by
  intro empty
  have characters : (front ++ "," ++ back).toList = "".toList := congrArg String.toList empty
  simp [String.toList_append] at characters

/-! ## Different names -/

/-- First occurrences differ from each other and from all that was seen before. -/
theorem nodup_firsts (seen names : List String) :
    (firsts seen names).Nodup ∧ ∀ name ∈ firsts seen names, name ∉ seen := by
  induction names generalizing seen with
  | nil =>
      simp [firsts]
  | cons name others ih =>
      by_cases known : seen.contains name = true
      · simp only [firsts, known, if_true]
        exact ih seen
      · rcases ih (name :: seen) with ⟨distinct, unseen⟩
        simp only [firsts, known, Bool.false_eq_true, if_false]
        constructor
        · refine List.nodup_cons.mpr ⟨?_, distinct⟩
          intro again
          exact unseen name again List.mem_cons_self
        · refine List.forall_mem_cons.mpr ⟨?_, ?_⟩
          · simpa using known
          · intro other member inSeen
            exact unseen other member (List.mem_cons_of_mem name inSeen)

/-- Names that differ from each other are all kept. -/
theorem eraseDups_of_nodup
    {names : List String}
    (distinct : names.Nodup) :
    names.eraseDups = names := by
  induction names with
  | nil =>
      rfl
  | cons name others ih =>
      rw [List.nodup_cons] at distinct
      have othersKept : others.filter (fun other => !other == name) = others := by
        rw [List.filter_eq_self]
        intro other member
        have different : other ≠ name := ne_of_mem_of_not_mem member distinct.1
        simpa using different
      rw [List.eraseDups_cons, othersKept, ih distinct.2]

theorem nodup_requestedNames (option : String) : (requestedNames option).Nodup := by
  rw [requestedNames, ← firsts_nil]
  exact (nodup_firsts [] (namesIn option)).1

theorem requestedNames_ne_nil (option : String) : requestedNames option ≠ [] := by
  intro none
  rcases List.exists_mem_of_ne_nil _ (namesIn_ne_nil option) with ⟨name, member⟩
  have requested : name ∈ requestedNames option := List.mem_eraseDups.mpr member
  rw [none] at requested
  exact absurd requested List.not_mem_nil

section TwoOptions

variable {front back : String}

/-- The names of a second option are asked for too if none of them is in the first. -/
theorem requestedNames_append_of_disjoint
    (disjoint : ∀ name ∈ namesIn front, name ∉ namesIn back) :
    requestedNames (front ++ "," ++ back) =
      requestedNames front ++ requestedNames back := by
  have allKept : (namesIn back).removeAll (namesIn front) = namesIn back := by
    rw [List.removeAll, List.filter_eq_self]
    intro name member
    have absent : name ∉ namesIn front := fun earlier => disjoint name earlier member
    simpa using absent
  rw [requestedNames, namesIn_append, List.eraseDups_append, allKept]
  rfl

/-- A second option adds nothing if the first one has all of its names. -/
theorem requestedNames_append_of_subset
    (subset : ∀ name ∈ namesIn back, name ∈ namesIn front) :
    requestedNames (front ++ "," ++ back) = requestedNames front := by
  have noneKept : (namesIn back).removeAll (namesIn front) = [] := by
    rw [List.removeAll, List.filter_eq_nil_iff]
    intro name member
    simpa using subset name member
  rw [requestedNames, namesIn_append, List.eraseDups_append, noneKept,
    List.eraseDups_nil, List.append_nil]
  rfl

end TwoOptions

/-! ## Repeated names -/

/-- Which names repeat depends on what is among those seen, not on how often or where. -/
theorem repeats_congr
    {seen known : List String}
    (same : ∀ name, name ∈ seen ↔ name ∈ known)
    (names : List String) :
    repeats seen names = repeats known names := by
  induction names generalizing seen known with
  | nil =>
      rfl
  | cons name others ih =>
      have sameTest : seen.contains name = known.contains name := by
        simp only [List.contains_eq_mem, same]
      have sameMore : ∀ other, other ∈ name :: seen ↔ other ∈ name :: known := by
        intro other
        rw [List.mem_cons, List.mem_cons, same]
      simp only [repeats, sameTest, ih same, ih sameMore]

theorem repeats_cons (seen : List String) (name : String) (others : List String) :
    repeats seen (name :: others) =
      (if name ∈ seen then [name] else []) ++ repeats (name :: seen) others := by
  by_cases known : name ∈ seen
  · have sameSeen : ∀ other, other ∈ seen ↔ other ∈ name :: seen := by
      intro other
      rw [List.mem_cons, iff_or_self]
      rintro rfl
      exact known
    rw [repeats, if_pos (List.contains_iff_mem.mpr known), if_pos known,
      repeats_congr sameSeen]
    rfl
  · rw [repeats, if_neg (mt List.contains_iff_mem.mp known), if_neg known]
    rfl

theorem repeats_append (seen front back : List String) :
    repeats seen (front ++ back) = repeats seen front ++ repeats (front ++ seen) back := by
  induction front generalizing seen with
  | nil =>
      rfl
  | cons name others ih =>
      -- What was seen before the second list is in another order here, which does not matter.
      have sameSeen : ∀ other, other ∈ others ++ name :: seen ↔ other ∈ name :: others ++ seen := by
        intro other
        simp only [List.mem_append, List.mem_cons, List.cons_append]
        tauto
      rw [List.cons_append, repeats_cons, repeats_cons, ih, repeats_congr sameSeen,
        List.append_assoc]

/-- Names that were all seen before repeat, all of them. -/
theorem repeats_of_seen
    {seen names : List String}
    (known : ∀ name ∈ names, name ∈ seen) :
    repeats seen names = names := by
  induction names with
  | nil =>
      rfl
  | cons name others ih =>
      rw [List.forall_mem_cons] at known
      have inSeen : seen.contains name = true := by
        simpa using known.1
      simp only [repeats, inSeen, if_true, ih known.2]

/-- The names that stand among those before them, in their order. -/
def repeatedNames (names : List String) : List String :=
  (names.zipIdx.filter fun entry => entry.1 ∈ names.take entry.2).map Prod.fst

theorem repeatedNames_append_singleton (names : List String) (name : String) :
    repeatedNames (names ++ [name]) =
      repeatedNames names ++ if name ∈ names then [name] else [] := by
  have sameBefore : names.zipIdx.filter (fun entry => entry.1 ∈ (names ++ [name]).take entry.2) =
      names.zipIdx.filter fun entry => entry.1 ∈ names.take entry.2 := by
    apply List.filter_congr
    rintro ⟨other, place⟩ member
    have inside : place ≤ names.length := by
      have bounds := List.mem_zipIdx member
      omega
    rw [List.take_append_of_le_length inside]
  rw [repeatedNames, List.zipIdx_append, List.filter_append, List.map_append, sameBefore]
  by_cases known : name ∈ names <;> simp [repeatedNames, known]

theorem repeats_nil (names : List String) : repeats [] names = repeatedNames names := by
  induction names using List.reverseRecOn with
  | nil =>
      rfl
  | append_singleton others name ih =>
      rw [repeats_append, repeatedNames_append_singleton, ih, List.append_nil]
      by_cases known : name ∈ others <;> simp [repeats, known]

/-- A name is asked for or repeats an earlier one. -/
theorem length_firsts_add_length_repeats (seen names : List String) :
    (firsts seen names).length + (repeats seen names).length = names.length := by
  induction names generalizing seen with
  | nil =>
      rfl
  | cons name others ih =>
      by_cases known : seen.contains name = true
      · simp only [firsts, repeats, known, if_true, List.length_cons]
        rw [← ih seen, Nat.add_assoc]
      · simp only [firsts, repeats, known, Bool.false_eq_true, if_false, List.length_cons]
        rw [← ih (name :: seen), Nat.add_right_comm]

/-- Names that differ from each other do not repeat. -/
theorem repeats_of_nodup
    {names : List String}
    (distinct : names.Nodup) :
    repeats [] names = [] := by
  have counted := length_firsts_add_length_repeats [] names
  rw [firsts_nil, eraseDups_of_nodup distinct, Nat.add_eq_left] at counted
  exact List.length_eq_zero_iff.mp counted

/-! ## Names with blanks around them -/

/-- What a name is written as: the name itself with any blanks in front of it and behind it. -/
inductive Padded (name : String) : String → Prop where
  | around (front back : String)
      (blankFront : ∀ character ∈ front.toList, Text.isBlank character = true)
      (blankBack : ∀ character ∈ back.toList, Text.isBlank character = true) :
      Padded name (front ++ name ++ back)

namespace Padded

variable {name piece : String}

theorem refl (name : String) : Padded name name := by
  have padded : Padded name ("" ++ name ++ "") := .around "" "" (by simp) (by simp)
  simpa using padded

theorem trim_eq (padded : Padded name piece) : Text.trim piece = Text.trim name := by
  cases padded with
  | around front back blankFront blankBack =>
      rw [Text.trim, String.toList_append, String.toList_append,
        trimChars_padded blankFront blankBack]
      rfl

/-- The comma is not blank, so that there is none in the padding. -/
theorem comma_not_mem
    (padded : Padded name piece)
    (free : ',' ∉ name.toList) :
    ',' ∉ piece.toList := by
  have notBlank : Text.isBlank ',' = false := by
    decide
  cases padded with
  | around front back blankFront blankBack =>
      rw [String.toList_append, String.toList_append, List.mem_append, List.mem_append]
      rintro ((inFront | inName) | inBack)
      · rw [blankFront _ inFront] at notBlank
        cases notBlank
      · exact free inName
      · rw [blankBack _ inBack] at notBlank
        cases notBlank

end Padded

section PaddedLists

variable {names pieces : List String}

theorem comma_not_mem_of_padded
    (padded : List.Forall₂ Padded names pieces)
    (free : ∀ name ∈ names, ',' ∉ name.toList) :
    ∀ piece ∈ pieces, ',' ∉ piece.toList := by
  induction padded with
  | nil =>
      simp
  | cons first _ ih =>
      rw [List.forall_mem_cons] at free ⊢
      exact ⟨first.comma_not_mem free.1, ih free.2⟩

theorem map_trim_of_padded
    (padded : List.Forall₂ Padded names pieces) :
    pieces.map Text.trim = names.map Text.trim := by
  induction padded with
  | nil =>
      rfl
  | cons first _ ih =>
      rw [List.map_cons, List.map_cons, first.trim_eq, ih]

/-- The names in a list of padded names are the names without their padding. -/
theorem namesIn_of_padded
    (padded : List.Forall₂ Padded names pieces)
    (nonempty : names ≠ [])
    (free : ∀ name ∈ names, ',' ∉ name.toList) :
    namesIn (",".intercalate pieces) = names.map Text.trim := by
  have piecesNonempty : pieces ≠ [] := by
    rintro rfl
    exact nonempty (List.forall₂_nil_right_iff.mp padded)
  have cut : Text.split ',' (",".intercalate pieces) = pieces :=
    split_intercalate piecesNonempty (comma_not_mem_of_padded padded free)
  rw [namesIn, cut, map_trim_of_padded padded]

end PaddedLists

end DateGetters.Proofs.RequestedNames
