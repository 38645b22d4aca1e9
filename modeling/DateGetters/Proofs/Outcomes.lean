import DateGetters.Fault
import Mathlib.Data.List.Forall2

/-!
# Outcomes in sequence

An outcome made of parts succeeds if and only if its parts do, one after the
other.  A list of items is worked through in order, so it succeeds if and only
if each of its items does.

Reading a value as a text succeeds if and only if the value can be written.
-/

namespace DateGetters.Proofs.Outcomes

variable {α β : Type}

theorem ok_bind (value : α) (next : α → Outcome β) :
    (Except.ok value : Outcome α) >>= next = next value := rfl

theorem bind_eq_ok_iff
    (first : Outcome α) (next : α → Outcome β) (value : β) :
    (first >>= next) = .ok value ↔
      ∃ middle, first = .ok middle ∧ next middle = .ok value := by
  cases first with
  | error fault =>
      simp [bind, Except.bind]
  | ok middle =>
      simp [bind, Except.bind]

theorem bind_eq_error_iff
    (first : Outcome α) (next : α → Outcome β) (fault : Fault) :
    (first >>= next) = .error fault ↔
      first = .error fault ∨ ∃ middle, first = .ok middle ∧ next middle = .error fault := by
  cases first with
  | error early =>
      simp [bind, Except.bind]
  | ok middle =>
      simp [bind, Except.bind]

theorem map_eq_error_iff
    (outcome : Outcome α) (change : α → β) (fault : Fault) :
    outcome.map change = .error fault ↔ outcome = .error fault := by
  cases outcome <;> simp [Except.map]

theorem map_eq_ok_iff
    (outcome : Outcome α) (change : α → β) (value : β) :
    outcome.map change = .ok value ↔
      ∃ unchanged, outcome = .ok unchanged ∧ change unchanged = value := by
  cases outcome with
  | error fault =>
      simp [Except.map]
  | ok unchanged =>
      simp [Except.map]

theorem exists_map_eq_ok_iff (outcome : Outcome α) (change : α → β) :
    (∃ value, outcome.map change = .ok value) ↔ ∃ unchanged, outcome = .ok unchanged := by
  cases outcome with
  | error fault =>
      simp [Except.map]
  | ok unchanged =>
      simp [Except.map]

theorem eq_ok_of_toOption
    {outcome : Outcome α} {value : α}
    (given : outcome.toOption = some value) :
    outcome = .ok value := by
  cases outcome with
  | error fault =>
      cases given
  | ok other =>
      rw [Option.some.inj given]

/-- An outcome that gives a value is a run that logs nothing and gives it. -/
theorem liftM_of_ok
    {outcome : Outcome α} {value : α}
    (done : outcome = .ok value) :
    (liftM outcome : Logged α) = pure value := by
  rw [done]
  rfl

/-! ## Values as texts -/

/-- A value that is a text, perhaps with half of a surrogate pair, and what it shows as. -/
inductive Shows : Value → String → Prop where
  | text (content : String) : Shows (.text content) content
  | broken (codes : List Nat) : Shows (.brokenText codes) (String.ofList (Text.mended codes))

theorem textValue?_cases (value : Value) :
    value.isWritable = true ∧ (∃ read content, value.textValue? = .ok read ∧ Shows read content) ∨
      ¬ value.isWritable = true ∧ value.textValue? = .error (.tooManyDigits none) := by
  by_cases broken : ∃ codes, value = .brokenText codes
  · rcases broken with ⟨codes, rfl⟩
    exact Or.inl ⟨by simp [Value.isWritable], _, _, rfl, .broken codes⟩
  · rw [Value.textValue?_of_unbroken (not_exists.mp broken), Value.toText?]
    split
    · next writable =>
        exact Or.inl ⟨writable, _, _, rfl, .text _⟩
    · next unwritable =>
        exact Or.inr ⟨unwritable, rfl⟩

/-- What a value is read as is a text again. -/
theorem shows_of_textValue?
    {value read : Value} (done : value.textValue? = .ok read) :
    ∃ content, Shows read content := by
  rcases textValue?_cases value with ⟨-, other, content, given, shows⟩ | ⟨-, failed⟩
  · rw [given] at done
    rw [← Except.ok.inj done]
    exact ⟨content, shows⟩
  · rw [failed] at done
    cases done

theorem exists_textValue?_iff (value : Value) :
    (∃ read, value.textValue? = .ok read) ↔ value.isWritable = true := by
  rcases textValue?_cases value with ⟨writable, read, _, given, -⟩ | ⟨unwritable, failed⟩
  · exact ⟨fun _ => writable, fun _ => ⟨read, given⟩⟩
  · rw [failed]
    constructor
    · rintro ⟨read, done⟩
      cases done
    · intro writable
      exact absurd writable unwritable

/-! ## Lists of items -/

/-- A list is worked through with success if and only if each of its items is. -/
theorem mapM_eq_ok_iff
    (work : α → Outcome β) (items : List α) (results : List β) :
    items.mapM work = .ok results ↔
      List.Forall₂ (fun item result => work item = .ok result) items results := by
  induction items generalizing results with
  | nil =>
      rw [List.mapM_nil, List.forall₂_nil_left_iff]
      exact ⟨fun done => (Except.ok.inj done).symm, fun empty => congrArg Except.ok empty.symm⟩
  | cons item others ih =>
      rw [List.mapM_cons, List.forall₂_cons_left_iff, bind_eq_ok_iff]
      constructor
      · rintro ⟨result, worked, done⟩
        rcases (bind_eq_ok_iff _ _ _).mp done with ⟨rest, workedOthers, joined⟩
        exact ⟨result, rest, worked, (ih rest).mp workedOthers, (Except.ok.inj joined).symm⟩
      · rintro ⟨result, rest, worked, workedOthers, rfl⟩
        refine ⟨result, worked, ?_⟩
        exact (bind_eq_ok_iff _ _ _).mpr ⟨rest, (ih rest).mpr workedOthers, rfl⟩

/-- If a list is not worked through, one of its items has failed. -/
theorem exists_of_mapM_eq_error
    {work : α → Outcome β} {items : List α} {fault : Fault}
    (failed : items.mapM work = .error fault) :
    ∃ item ∈ items, work item = .error fault := by
  induction items with
  | nil =>
      cases failed
  | cons item others ih =>
      rw [List.mapM_cons] at failed
      cases worked : work item with
      | error first =>
          rw [worked] at failed
          rw [← Except.error.inj failed]
          exact ⟨item, List.mem_cons_self, worked⟩
      | ok result =>
          rw [worked, ok_bind] at failed
          have failedOthers : others.mapM work = .error fault := by
            cases workedOthers : others.mapM work with
            | error later =>
                rw [workedOthers] at failed
                exact failed
            | ok rest =>
                rw [workedOthers] at failed
                cases failed
          rcases ih failedOthers with ⟨later, member, same⟩
          exact ⟨later, List.mem_cons_of_mem item member, same⟩

end DateGetters.Proofs.Outcomes
