import DateGetters.Proofs.RequestedNames
import Mathlib.Data.List.Nodup

/-!
# A text as a list of names

The commas of a text cut it into pieces, and a piece without the blanks at its
ends is a name.  Names are noted in order: a name that is new is added behind
those noted before, and of any other the log takes a warning.  What is noted in
the end are the first occurrences of the names, in their order.

Noted names hold no comma and have no blank at their ends, so that a list of
them, joined by commas, is read as these names again.
-/

namespace DateGetters.Proofs.ListedNames

open DateGetters.Proofs.ColumnSelection
open DateGetters.Proofs.Outcomes
open DateGetters.Proofs.RequestedNames
open DateGetters.Proofs.TextPieces
open DateGetters.Selection

/-! ## Pieces and names -/

/-- The pieces of a text between its commas. -/
structure Cut (option : String) (pieces : List String) : Prop where
  nonempty : pieces ≠ []
  joined : ",".intercalate pieces = option
  free : ∀ piece ∈ pieces, ',' ∉ piece.toList

theorem cut_split (option : String) : Cut option (Text.split ',' option) where
  nonempty := by
    simp [Text.split, Text.pieces_ne_nil]
  joined := by
    apply String.toList_injective
    rw [String.toList_intercalate, Text.split, List.map_map]
    simpa [Function.comp_def] using Text.intercalate_pieces ',' option.toList
  free := by
    intro piece member inPiece
    rcases List.mem_map.mp member with ⟨characters, cut, rfl⟩
    rw [String.toList_ofList] at inPiece
    exact (mem_of_mem_piece cut inPiece).2 rfl

/-- What a piece names. -/
structure Names (piece name : String) : Prop where
  padded : Padded name piece
  bare : Bare name

theorem mem_of_mem_trim
    {piece : String} {character : Char}
    (member : character ∈ (Text.trim piece).toList) :
    character ∈ piece.toList := by
  rcases exists_padding piece.toList with ⟨front, back, -, -, whole⟩
  rw [Text.toList_trim] at member
  rw [whole]
  exact List.mem_append_left back (List.mem_append_right front member)

theorem names_trim (piece : String) : Names piece (Text.trim piece) where
  padded := by
    rcases exists_padding piece.toList with ⟨front, back, blankFront, blankBack, whole⟩
    have same : piece = String.ofList front ++ Text.trim piece ++ String.ofList back := by
      apply String.toList_injective
      simpa [String.toList_append] using whole
    have padded : Padded (Text.trim piece)
        (String.ofList front ++ Text.trim piece ++ String.ofList back) :=
      .around _ _ (by simpa using blankFront) (by simpa using blankBack)
    rwa [← same] at padded
  bare := bare_trim piece

/-! ## Noting names in order -/

/-- The different ones among listed names, in the order of their first occurrences. -/
structure FirstOccurrences (listed names : List String) : Prop where
  distinct : names.Nodup
  members : ∀ name, name ∈ names ↔ name ∈ listed
  ordered : names.Pairwise fun first second => listed.idxOf first < listed.idxOf second

namespace FirstOccurrences

variable {listed names : List String}

theorem nil : FirstOccurrences [] [] where
  distinct := List.nodup_nil
  members := fun _ => Iff.rfl
  ordered := List.Pairwise.nil

theorem ordered_append
    (noted : FirstOccurrences listed names) (more : List String) :
    names.Pairwise fun first second =>
      (listed ++ more).idxOf first < (listed ++ more).idxOf second := by
  refine noted.ordered.imp_of_mem ?_
  intro first second firstNoted secondNoted before
  rw [List.idxOf_append_of_mem ((noted.members first).mp firstNoted),
    List.idxOf_append_of_mem ((noted.members second).mp secondNoted)]
  exact before

/-- A name that was listed before adds nothing. -/
theorem append_known
    (noted : FirstOccurrences listed names)
    {name : String} (known : name ∈ listed) :
    FirstOccurrences (listed ++ [name]) names where
  distinct := noted.distinct
  members := by
    intro other
    rw [noted.members, List.mem_append, List.mem_singleton]
    exact ⟨Or.inl, fun either => either.elim id fun same => same ▸ known⟩
  ordered := noted.ordered_append [name]

/-- A name that is new is noted behind all others. -/
theorem append_new
    (noted : FirstOccurrences listed names)
    {name : String} (isNew : name ∉ listed) :
    FirstOccurrences (listed ++ [name]) (names ++ [name]) where
  distinct := by
    have unnoted : name ∉ names := mt (noted.members name).mp isNew
    rw [← List.concat_eq_append]
    exact noted.distinct.concat unnoted
  members := by
    intro other
    rw [List.mem_append, List.mem_append, noted.members]
  ordered := by
    rw [List.pairwise_append]
    refine ⟨noted.ordered_append [name], List.pairwise_singleton _ _, ?_⟩
    intro other member last isLast
    rw [List.mem_singleton] at isLast
    subst isLast
    have inListed := (noted.members other).mp member
    rw [List.idxOf_append_of_mem inListed, List.idxOf_append_of_notMem isNew]
    have before := List.idxOf_lt_length_of_mem inListed
    omega

end FirstOccurrences

theorem firsts_append_singleton (listed : List String) (name : String) :
    firsts [] (listed ++ [name]) =
      firsts [] listed ++ if name ∈ listed then [] else [name] := by
  rw [firsts_nil, firsts_nil, List.eraseDups_append]
  by_cases known : name ∈ listed
  · simp [List.removeAll, known]
  · have kept : [name].removeAll listed = [name] := by
      simp [List.removeAll, known]
    rw [kept, if_neg known, eraseDups_of_nodup (List.nodup_singleton name)]

/-- Noting the listed names in order leaves their first occurrences. -/
theorem firstOccurrences_firsts (listed : List String) :
    FirstOccurrences listed (firsts [] listed) := by
  -- From the end: the names that were listed earlier are what a new one is compared with.
  induction listed using List.reverseRecOn with
  | nil =>
      exact .nil
  | append_singleton earlier name noted =>
      rw [firsts_append_singleton]
      by_cases known : name ∈ earlier
      · rw [if_pos known, List.append_nil]
        exact noted.append_known known
      · rw [if_neg known]
        exact noted.append_new known

/-! ## Reading a list of names -/

theorem namesIn_intercalate
    {names : List String}
    (nonempty : names ≠ [])
    (free : ∀ name ∈ names, ',' ∉ name.toList)
    (bare : ∀ name ∈ names, Bare name) :
    namesIn (",".intercalate names) = names := by
  have cut : Text.split ',' (",".intercalate names) = names :=
    split_intercalate nonempty free
  have unchanged : ∀ name ∈ names, Text.trim name = id name := by
    intro name member
    exact (bare name member).trim_eq
  rw [namesIn, cut, List.map_congr_left unchanged, List.map_id]

theorem split_of_nodup
    {option : String}
    (distinct : (namesIn option).Nodup) :
    Selection.split (.text option) = ⟨[], .ok (namesIn option)⟩ := by
  rw [split_text, repeats_of_nodup distinct, firsts_nil, eraseDups_of_nodup distinct]
  rfl

theorem mem_of_mem_repeats
    {names : List String} {name : String}
    (again : name ∈ repeats [] names) :
    name ∈ names := by
  rw [repeats_nil, repeatedNames] at again
  rcases List.mem_map.mp again with ⟨entry, member, rfl⟩
  exact List.fst_mem_of_mem_zipIdx (List.mem_of_mem_filter member)

/-- How a text is read as a list of names, and what is logged. -/
structure Reading (option : String) (names : List String) (log : List LogEntry) : Prop where
  /-- What is noted are the first occurrences of what the pieces of the text name. -/
  noted : ∃ pieces listed, Cut option pieces ∧ List.Forall₂ Names pieces listed ∧
    FirstOccurrences listed names
  nonempty : names ≠ []
  free : ∀ name ∈ names, ',' ∉ name.toList
  bare : ∀ name ∈ names, Bare name
  /-- All that is logged are warnings about names that are noted. -/
  warnings : ∀ entry ∈ log, entry.level = .warning ∧ ∃ name ∈ names, entry = repetitionEntry name
  /-- Every piece, of which there is one more than commas, is noted or warned of. -/
  counted : log.length + names.length = option.toList.count ',' + 1

theorem reading_split (option : String) :
    Reading option (firsts [] (namesIn option))
      ((repeats [] (namesIn option)).map repetitionEntry) := by
  have cut := cut_split option
  have noted := firstOccurrences_firsts (namesIn option)
  have trimmed : ∀ name ∈ firsts [] (namesIn option),
      ∃ piece ∈ Text.split ',' option, Text.trim piece = name := by
    intro name member
    exact List.mem_map.mp ((noted.members name).mp member)
  constructor
  case noted =>
    refine ⟨_, _, cut, ?_, noted⟩
    rw [namesIn, List.forall₂_map_right_iff, List.forall₂_same]
    intro piece _
    exact names_trim piece
  case nonempty =>
    rw [firsts_nil]
    exact requestedNames_ne_nil option
  case free =>
    intro name member inName
    rcases trimmed name member with ⟨piece, inPieces, rfl⟩
    exact cut.free piece inPieces (mem_of_mem_trim inName)
  case bare =>
    intro name member
    rcases trimmed name member with ⟨piece, -, rfl⟩
    exact bare_trim piece
  case warnings =>
    intro entry member
    rcases List.mem_map.mp member with ⟨name, again, rfl⟩
    exact ⟨rfl, name, (noted.members name).mpr (mem_of_mem_repeats again), rfl⟩
  case counted =>
    have pieces := Text.length_pieces ',' option.toList
    have counted := length_firsts_add_length_repeats [] (namesIn option)
    rw [namesIn, List.length_map, Text.split, List.length_map, pieces] at counted
    rw [List.length_map, Nat.add_comm]
    exact counted

/--
Every text is read as a list of names: the first occurrences of what its pieces
name, with one warning for each of the other pieces.  Joined by commas, these
names are read as themselves without any warning.
-/
theorem split_first_occurrences (option : String) :
    ∃ names log,
      Selection.split (.text option) = ⟨log, .ok names⟩ ∧
        Reading option names log ∧
        Selection.split (.text (",".intercalate names)) = ⟨[], .ok names⟩ := by
  have read := reading_split option
  have again := namesIn_intercalate read.nonempty read.free read.bare
  have distinct := (firstOccurrences_firsts (namesIn option)).distinct
  refine ⟨_, _, split_text option, read, ?_⟩
  rw [← again] at distinct
  rw [split_of_nodup distinct, again]

end DateGetters.Proofs.ListedNames
