import DateGetters.Proofs.TextPieces
import DateGetters.Text.CaseRange
import DateGetters.Text.Codes
import DateGetters.Text.Upper
import Mathlib.Data.List.Basic

/-!
# Case mapping done twice

A case table is closed if the code points that its letters become are
characters, none of them blank and none of them a letter of the table again.
Mapping a text by a closed table twice is mapping it once, and a text without
blanks at its ends keeps ends without blanks.

The table of capitals is closed.  It has more than a thousand letters, so sets
of code points are written as numbers whose bits are their members, and such
numbers are compared as a whole.
-/

namespace DateGetters.Proofs.CaseMapping

open DateGetters.Text
open DateGetters.Proofs.TextPieces

/-! ## Sets of code points as numbers -/

/-- The number whose bits are the given code points. -/
def mask : List Nat → Nat
  | [] => 0
  | code :: others => 1 <<< code ||| mask others

/-- The number whose bits are the code points between two others, ends included. -/
def span (low high : Nat) : Nat :=
  (1 <<< (high + 1 - low) - 1) <<< low

/-- The number whose bits are the code points in any of some spans. -/
def spans : List (Nat × Nat) → Nat
  | [] => 0
  | ends :: others => span ends.1 ends.2 ||| spans others

theorem testBit_mask_iff (codes : List Nat) (code : Nat) :
    (mask codes).testBit code = true ↔ code ∈ codes := by
  induction codes with
  | nil =>
      simp [mask]
  | cons first others ih =>
      simp only [mask, Nat.testBit_or, Bool.or_eq_true, Nat.one_shiftLeft, Nat.testBit_two_pow,
        decide_eq_true_eq, List.mem_cons, ih]
      rw [eq_comm]

theorem testBit_span_iff (low high code : Nat) :
    (span low high).testBit code = true ↔ low ≤ code ∧ code ≤ high := by
  simp only [span, Nat.one_shiftLeft, Nat.testBit_shiftLeft, Nat.testBit_two_pow_sub_one,
    Bool.and_eq_true, decide_eq_true_eq]
  omega

theorem testBit_spans_iff (runs : List (Nat × Nat)) (code : Nat) :
    (spans runs).testBit code = true ↔
      ∃ ends ∈ runs, ends.1 ≤ code ∧ code ≤ ends.2 := by
  induction runs with
  | nil =>
      simp [spans]
  | cons first others ih =>
      simp only [spans, Nat.testBit_or, Bool.or_eq_true, testBit_span_iff, ih,
        List.mem_cons, exists_eq_or_imp]

/-- A member of a set has no bit in a number that has no bit in common with the set. -/
theorem testBit_of_apart
    {codes : List Nat} {excluded code : Nat}
    (apart : mask codes &&& excluded = 0)
    (member : code ∈ codes) :
    excluded.testBit code = false := by
  have common := Nat.testBit_and (mask codes) excluded code
  rw [apart, Nat.zero_testBit, (testBit_mask_iff codes code).mpr member,
    Bool.true_and] at common
  exact common.symm

theorem lt_of_mask_lt
    {codes : List Nat} {limit code : Nat}
    (bounded : mask codes < 1 <<< limit)
    (member : code ∈ codes) :
    code < limit := by
  rw [← Nat.not_le]
  intro beyond
  rw [Nat.one_shiftLeft] at bounded
  have wider := Nat.pow_le_pow_right Nat.two_pos beyond
  have bit := Nat.testBit_lt_two_pow (bounded.trans_le wider)
  rw [(testBit_mask_iff codes code).mpr member] at bit
  cases bit

/-! ## The letters of a table and what they become -/

/-- The code points of a range. -/
def members (range : CaseRange) : List Nat :=
  List.range' range.first ((range.last - range.first) / range.stride + 1) range.stride

/-- The code points that a table changes. -/
def letters (table : CaseTable) : List Nat :=
  table.ranges.flatMap members ++ table.expansions.map Prod.fst

/-- The code points that letters of a table become. -/
def images (table : CaseTable) : List Nat :=
  (table.ranges.flatMap fun range => (members range).map range.image) ++
    table.expansions.flatMap Prod.snd

theorem mem_members_of_contains
    {range : CaseRange} {code : Nat}
    (contained : range.contains code = true) :
    code ∈ members range := by
  simp only [CaseRange.contains, Bool.and_eq_true, decide_eq_true_eq,
    beq_iff_eq] at contained
  rcases contained with ⟨⟨above, below⟩, aligned⟩
  rw [members, List.mem_range']
  refine ⟨(code - range.first) / range.stride, ?_, ?_⟩
  · have within : (code - range.first) / range.stride ≤
        (range.last - range.first) / range.stride :=
      Nat.div_le_div_right (Nat.sub_le_sub_right below range.first)
    exact Nat.lt_succ_of_le within
  · have steps := Nat.mod_add_div (code - range.first) range.stride
    rw [aligned, Nat.zero_add] at steps
    rw [steps, Nat.add_sub_cancel' above]

/-- A code point that a table does not change stands for itself. -/
theorem codes_of_not_letter
    {table : CaseTable} {code : Nat}
    (notLetter : code ∉ letters table) :
    table.codes code = [code] := by
  rw [letters, List.mem_append, not_or] at notLetter
  have unranged : table.ranges.find? (·.contains code) = none := by
    rw [List.find?_eq_none]
    intro range member contained
    exact notLetter.1
      (List.mem_flatMap.mpr ⟨range, member, mem_members_of_contains contained⟩)
  have unexpanded : table.expansions.lookup code = none := by
    rw [List.lookup_eq_none_iff]
    intro expansion member
    rw [bne_iff_ne]
    rintro rfl
    exact notLetter.2 (List.mem_map_of_mem member)
  rw [CaseTable.codes, unranged, unexpanded]

/-- The ways in which a table maps a code point. -/
inductive Mapped (table : CaseTable) (code : Nat) : List Nat → Prop where
  | shifted {range : CaseRange}
      (member : range ∈ table.ranges)
      (contained : range.contains code = true) :
      Mapped table code [range.image code]
  | expanded {several : List Nat}
      (member : (code, several) ∈ table.expansions) :
      Mapped table code several
  | kept : Mapped table code [code]

theorem mapped_codes (table : CaseTable) (code : Nat) :
    Mapped table code (table.codes code) := by
  cases found : table.ranges.find? (·.contains code) with
  | some range =>
      have contained : range.contains code = true :=
        List.find?_some (p := fun range : CaseRange => range.contains code) found
      rw [CaseTable.codes, found]
      exact .shifted (List.mem_of_find?_eq_some found) contained
  | none =>
      cases looked : table.expansions.lookup code with
      | some several =>
          rcases List.lookup_eq_some_iff.mp looked with ⟨before, after, split, -⟩
          have member : (code, several) ∈ table.expansions := by
            rw [split]
            exact List.mem_append_right before List.mem_cons_self
          rw [CaseTable.codes, found, looked]
          exact .expanded member
      | none =>
          rw [CaseTable.codes, found, looked]
          exact .kept

/-- What a code point becomes is that code point alone, or images of letters. -/
theorem Mapped.eq_or_images
    {table : CaseTable} {code : Nat} {mapped : List Nat}
    (how : Mapped table code mapped) :
    mapped = [code] ∨ ∀ image ∈ mapped, image ∈ images table := by
  cases how with
  | shifted member contained =>
      right
      rw [List.forall_mem_singleton, images, List.mem_append]
      exact Or.inl (List.mem_flatMap.mpr
        ⟨_, member, List.mem_map_of_mem (mem_members_of_contains contained)⟩)
  | expanded member =>
      right
      intro image inMapped
      rw [images, List.mem_append]
      exact Or.inr (List.mem_flatMap.mpr ⟨_, member, inMapped⟩)
  | kept =>
      exact Or.inl rfl

theorem toNat_ofNat
    {code : Nat}
    (character : isCharacter code = true) :
    (Char.ofNat code).toNat = code := by
  have valid : code.isValidChar := by
    simp only [isCharacter, Bool.or_eq_true, Bool.and_eq_true,
      decide_eq_true_eq] at character
    simp only [Nat.isValidChar]
    omega
  rw [Char.ofNat, dif_pos valid]
  rfl

/-! ## Closed tables -/

/-- A table whose letters become characters that it does not change and that are not blank. -/
structure Closed (table : CaseTable) : Prop where
  unchanged : ∀ image ∈ images table, image ∉ letters table
  character : ∀ image ∈ images table, isCharacter image = true
  shown : ∀ image ∈ images table, isBlank (Char.ofNat image) = false
  nonempty : ∀ expansion ∈ table.expansions, expansion.2 ≠ []

/-- The halves of surrogate pairs, and the blanks. -/
def excludedRuns : List (Nat × Nat) := [
  (0xD800, 0xDFFF), (0x09, 0x0D), (0x1C, 0x20), (0x85, 0x85), (0xA0, 0xA0), (0x1680, 0x1680),
  (0x2000, 0x200A), (0x2028, 0x2029), (0x202F, 0x202F), (0x205F, 0x205F), (0x3000, 0x3000)]

/-- Closedness in terms of numbers. -/
theorem closed_of_apart
    {table : CaseTable}
    (unchanged : mask (images table) &&& mask (letters table) = 0)
    (allowed : mask (images table) &&& spans excludedRuns = 0)
    (bounded : mask (images table) < 1 <<< 0x110000)
    (nonempty : ∀ expansion ∈ table.expansions, expansion.2 ≠ []) :
    Closed table := by
  have notExcluded {image : Nat} (member : image ∈ images table) :
      ∀ ends ∈ excludedRuns, ¬ (ends.1 ≤ image ∧ image ≤ ends.2) := by
    intro ends inRuns within
    have bit := testBit_of_apart allowed member
    rw [(testBit_spans_iff excludedRuns image).mpr ⟨ends, inRuns, within⟩] at bit
    cases bit
  have character {image : Nat} (member : image ∈ images table) :
      isCharacter image = true := by
    have below : image < 0x110000 := lt_of_mask_lt bounded member
    have notHalf := notExcluded member (0xD800, 0xDFFF) (by decide)
    simp only [isCharacter, Bool.or_eq_true, Bool.and_eq_true, decide_eq_true_eq]
    omega
  refine ⟨?_, fun image => character, ?_, nonempty⟩
  · intro image member isLetter
    have bit := testBit_of_apart unchanged member
    rw [(testBit_mask_iff (letters table) image).mpr isLetter] at bit
    cases bit
  · intro image member
    have outside := notExcluded member
    have code := toNat_ofNat (character member)
    simp only [excludedRuns, List.forall_mem_cons] at outside
    rw [← Bool.not_eq_true, isBlank]
    simp only [code, Bool.or_eq_true, Bool.and_eq_true, decide_eq_true_eq, beq_iff_eq]
    omega

/-! ## Mapping by a closed table -/

section Mapping

variable {table : CaseTable} (closed : Closed table)

include closed

theorem chars_ne_nil (character : Char) : table.chars character ≠ [] := by
  have how := mapped_codes table character.toNat
  rw [CaseTable.chars, ne_eq, List.map_eq_nil_iff]
  generalize table.codes character.toNat = mapped at how ⊢
  cases how with
  | shifted =>
      exact List.cons_ne_nil _ _
  | expanded member =>
      exact closed.nonempty _ member
  | kept =>
      exact List.cons_ne_nil _ _

/-- What a character becomes is that character alone, or images of letters. -/
theorem chars_eq_or_images (character : Char) :
    table.chars character = [character] ∨
      ∀ other ∈ table.chars character, other.toNat ∈ images table := by
  rcases (mapped_codes table character.toNat).eq_or_images with same | images
  · left
    rw [CaseTable.chars, same, List.map_singleton, Char.ofNat_toNat]
  · right
    intro other member
    rcases List.mem_map.mp member with ⟨image, inCodes, rfl⟩
    rw [toNat_ofNat (closed.character image (images image inCodes))]
    exact images image inCodes

/-- What a character becomes is not changed any more. -/
theorem chars_of_mem_chars
    {character other : Char}
    (member : other ∈ table.chars character) :
    table.chars other = [other] := by
  rcases chars_eq_or_images closed character with same | images
  · rw [same, List.mem_singleton] at member
    rw [member, same]
  · have notLetter := closed.unchanged _ (images other member)
    rw [CaseTable.chars, codes_of_not_letter notLetter, List.map_singleton,
      Char.ofNat_toNat]

theorem isBlank_of_mem_chars
    {character other : Char}
    (shown : isBlank character = false)
    (member : other ∈ table.chars character) :
    isBlank other = false := by
  rcases chars_eq_or_images closed character with same | images
  · rw [same, List.mem_singleton] at member
    rw [member, shown]
  · rw [← Char.ofNat_toNat other]
    exact closed.shown _ (images other member)

/-- Mapping a text twice is mapping it once. -/
theorem apply_apply (text : String) : table.apply (table.apply text) = table.apply text := by
  have again : (text.toList.flatMap table.chars).flatMap table.chars =
      text.toList.flatMap table.chars := by
    rw [List.flatMap_assoc]
    apply List.flatMap_congr
    intro character _
    calc
      (table.chars character).flatMap table.chars =
          (table.chars character).flatMap fun other => [other] := by
        apply List.flatMap_congr
        intro other member
        exact chars_of_mem_chars closed member
      _ = table.chars character :=
        List.flatMap_singleton' _
  simp only [CaseTable.apply, String.toList_ofList, again]

theorem isBlank_of_mem_head?_flatMap
    {characters : List Char}
    (front : ∀ character ∈ characters.head?, isBlank character = false) :
    ∀ other ∈ (characters.flatMap table.chars).head?, isBlank other = false := by
  cases characters with
  | nil =>
      simp
  | cons first others =>
      intro other member
      rw [List.flatMap_cons,
        List.head?_append_of_ne_nil _ (chars_ne_nil closed first)] at member
      exact isBlank_of_mem_chars closed (front first rfl) (List.mem_of_mem_head? member)

theorem isBlank_of_mem_getLast?_flatMap
    {characters : List Char}
    (back : ∀ character ∈ characters.getLast?, isBlank character = false) :
    ∀ other ∈ (characters.flatMap table.chars).getLast?, isBlank other = false := by
  rcases List.eq_nil_or_concat' characters with rfl | ⟨others, last, rfl⟩
  · simp
  · intro other member
    rw [List.flatMap_append, List.flatMap_singleton,
      List.getLast?_append_of_ne_nil _ (chars_ne_nil closed last)] at member
    exact isBlank_of_mem_chars closed (back last (by simp)) (List.mem_of_getLast? member)

/-- Where a trimmed text is mapped, nothing is left to trim. -/
theorem trim_apply_trim (text : String) :
    trim (table.apply (trim text)) = table.apply (trim text) := by
  have front : ∀ other ∈ ((trimChars text.toList).flatMap table.chars).head?,
      isBlank other = false :=
    isBlank_of_mem_head?_flatMap closed fun _ => isBlank_of_mem_head?_trimChars
  have back : ∀ other ∈ ((trimChars text.toList).flatMap table.chars).getLast?,
      isBlank other = false :=
    isBlank_of_mem_getLast?_flatMap closed fun _ => isBlank_of_mem_getLast?_trimChars
  rw [CaseTable.apply, toList_trim, trim, String.toList_ofList,
    trimChars_of_ends front back]

end Mapping

/-! ## Capitals -/

theorem closed_upperTable : Closed upperTable :=
  closed_of_apart (by decide +kernel) (by decide +kernel) (by decide +kernel)
    (by decide +kernel)

/-- A text in capitals has no letters left that have capitals. -/
theorem upper_upper (text : String) : upper (upper text) = upper text :=
  apply_apply closed_upperTable text

theorem trim_upper_trim (text : String) :
    trim (upper (trim text)) = upper (trim text) :=
  trim_apply_trim closed_upperTable text

end DateGetters.Proofs.CaseMapping
