import DateGetters.Value.Entries

/-!
# Looking texts up in mappings

Where texts are looked up, a mapping behaves as a function: putting a value
under a key changes what is found under that key only, and of two mappings put
over each other the upper one is asked first.  The keys of a mapping need not be
texts, but a text equals no key of another kind.

All of this holds of any key that equals nothing but itself, and texts are such
keys, broken ones included.
-/

namespace DateGetters.Proofs.EntryLookup

theorem text_same_iff (content : String) (value : Value) :
    (Value.text content).same value = true ↔ value = .text content := by
  cases value with
  | text other =>
      rw [Value.same_text, beq_iff_eq, Value.text.injEq, eq_comm]
  | _ =>
      simp [Value.same, Value.sameScalar, Value.wholeNumber?]

/-- A key that equals nothing but itself. -/
class Exact (sought : Value) : Prop where
  same_iff : ∀ value, value.same sought = true ↔ value = sought
  iff_same : ∀ value, sought.same value = true ↔ value = sought

instance (content : String) : Exact (.text content) where
  same_iff value := Value.same_text_iff value content
  iff_same value := text_same_iff content value

instance (codes : List Nat) : Exact (.brokenText codes) where
  same_iff value := by
    cases value <;> simp [Value.same, Value.sameScalar, Value.wholeNumber?]
  iff_same value := by
    cases value with
    | brokenText others =>
        have compared : (Value.brokenText codes).same (.brokenText others) = (codes == others) := by
          simp [Value.same, Value.sameScalar, Value.wholeNumber?]
        rw [compared, beq_iff_eq, Value.brokenText.injEq, eq_comm]
    | _ =>
        simp [Value.same, Value.sameScalar, Value.wholeNumber?]

/-- Entries of which no two have equal keys. -/
def Distinct (entries : Entries) : Prop :=
  entries.Pairwise fun first second => first.1.same second.1 = false

section Lookup

variable {sought : Value} [exact : Exact sought] {key value : Value} {entries others : Entries}

theorem find?_cons_other
    (different : key ≠ sought) :
    Entries.find? ((key, value) :: entries) sought = entries.find? sought := by
  have unequal : ¬ key.same sought = true := by
    rwa [exact.same_iff]
  rw [Entries.find?, if_neg unequal]

theorem find?_cons_self :
    Entries.find? ((sought, value) :: entries) sought = some value := by
  rw [Entries.find?, if_pos ((exact.same_iff _).mpr rfl)]

/-- Under a key, only what is put under that key is found in place of what was there. -/
theorem find?_put_other
    (different : key ≠ sought) :
    (entries.put key value).find? sought = entries.find? sought := by
  induction entries with
  | nil =>
      exact find?_cons_other different
  | cons entry others ih =>
      rcases entry with ⟨present, old⟩
      by_cases same : present.same key = true
      -- The value is replaced under a key that is not the sought one either.
      · have presentDifferent : present ≠ sought := by
          rintro rfl
          exact different ((exact.iff_same key).mp same)
        rw [Entries.put, if_pos same, find?_cons_other presentDifferent,
          find?_cons_other presentDifferent]
      · rw [Entries.put, if_neg same]
        by_cases found : present = sought
        · subst found
          rw [find?_cons_self, find?_cons_self]
        · rw [find?_cons_other found, find?_cons_other found, ih]

theorem find?_put_self (entries : Entries) (value : Value) :
    (entries.put sought value).find? sought = some value := by
  induction entries with
  | nil =>
      exact find?_cons_self
  | cons entry others ih =>
      rcases entry with ⟨present, old⟩
      by_cases same : present = sought
      · subst same
        rw [Entries.put, if_pos ((exact.same_iff _).mpr rfl), find?_cons_self]
      · rw [Entries.put, if_neg (mt (exact.same_iff _).mp same), find?_cons_other same, ih]

/-- Putting a value changes what is found under one key at most. -/
theorem find?_put (entries : Entries) (key value sought : Value) [exact : Exact sought] :
    (entries.put key value).find? sought =
      (if key.same sought then some value else none).or (entries.find? sought) := by
  by_cases same : key = sought
  · rw [if_pos ((exact.same_iff _).mpr same), same, find?_put_self]
    rfl
  · rw [if_neg (mt (exact.same_iff _).mp same), find?_put_other same]
    rfl

theorem find?_eq_none_of_distinct
    (distinct : Distinct ((sought, value) :: entries)) :
    entries.find? sought = none := by
  have apart := (List.pairwise_cons.mp distinct).1
  clear distinct
  induction entries with
  | nil =>
      rfl
  | cons entry others ih =>
      rcases entry with ⟨present, old⟩
      rw [List.forall_mem_cons] at apart
      have different : present ≠ sought := by
        rintro rfl
        have same := (exact.iff_same present).mpr rfl
        rw [apart.1] at same
        cases same
      rw [find?_cons_other different, ih apart.2]

/-- What is found under a key in one mapping over another: the upper one is asked first. -/
theorem find?_overlay
    (distinct : Distinct others) :
    (entries.overlay others).find? sought =
      (others.find? sought).or (entries.find? sought) := by
  induction others generalizing entries with
  | nil =>
      rfl
  | cons entry more ih =>
      rcases entry with ⟨key, value⟩
      rw [Entries.overlay_cons, ih (List.pairwise_cons.mp distinct).2]
      by_cases same : key = sought
      · subst same
        rw [find?_eq_none_of_distinct distinct, find?_cons_self, find?_put_self]
        rfl
      · rw [find?_put_other same, find?_cons_other same]

/-- What is found under a key are the values of its entries. -/
theorem find?_eq_some_iff
    (distinct : Distinct entries) :
    entries.find? sought = some value ↔ (sought, value) ∈ entries := by
  induction entries with
  | nil =>
      simp
  | cons entry others ih =>
      rcases entry with ⟨present, old⟩
      by_cases same : present = sought
      · subst same
        have absent : (present, value) ∉ others := by
          intro later
          have unequal := (List.pairwise_cons.mp distinct).1 _ later
          rw [(exact.iff_same present).mpr rfl] at unequal
          cases unequal
        simp [find?_cons_self, absent, eq_comm]
      · rw [find?_cons_other same, ih (List.pairwise_cons.mp distinct).2]
        simp [Ne.symm same]

theorem isSome_find?_iff : (entries.find? sought).isSome = true ↔ sought ∈ entries.keys := by
  induction entries with
  | nil =>
      simp [Entries.keys]
  | cons entry others ih =>
      rcases entry with ⟨present, old⟩
      by_cases same : present = sought
      · subst same
        simp [find?_cons_self, Entries.keys]
      · rw [find?_cons_other same, ih]
        simp [Entries.keys, Ne.symm same]

end Lookup

section Members

variable {key value : Value} {entries : Entries}

theorem mem_of_find?
    (found : entries.find? key = some value) :
    ∃ present, (present, value) ∈ entries := by
  induction entries with
  | nil =>
      cases found
  | cons entry others ih =>
      rcases entry with ⟨present, old⟩
      by_cases same : present.same key = true
      · rw [Entries.find?, if_pos same] at found
        rw [← Option.some.inj found]
        exact ⟨present, List.mem_cons_self⟩
      · rw [Entries.find?, if_neg same] at found
        rcases ih found with ⟨later, member⟩
        exact ⟨later, List.mem_cons_of_mem _ member⟩

theorem put_of_unfound
    (unfound : entries.find? key = none) :
    entries.put key value = entries ++ [(key, value)] := by
  induction entries with
  | nil =>
      rfl
  | cons entry others ih =>
      rcases entry with ⟨present, old⟩
      by_cases same : present.same key = true
      · rw [Entries.find?, if_pos same] at unfound
        cases unfound
      · rw [Entries.find?, if_neg same] at unfound
        rw [Entries.put, if_neg same, ih unfound, List.cons_append]

/-- An entry of a mapping into which a value was put has that value or was there before. -/
theorem mem_put
    {entry : Value × Value}
    (member : entry ∈ entries.put key value) :
    entry.2 = value ∨ entry ∈ entries := by
  induction entries with
  | nil =>
      rw [Entries.put, List.mem_singleton] at member
      rw [member]
      exact Or.inl rfl
  | cons first others ih =>
      rcases first with ⟨present, old⟩
      by_cases same : present.same key = true
      · rw [Entries.put, if_pos same] at member
        rcases List.mem_cons.mp member with rfl | later
        · exact Or.inl rfl
        · exact Or.inr (List.mem_cons_of_mem _ later)
      · rw [Entries.put, if_neg same] at member
        rcases List.mem_cons.mp member with rfl | later
        · exact Or.inr List.mem_cons_self
        · rcases ih later with put | there
          · exact Or.inl put
          · exact Or.inr (List.mem_cons_of_mem _ there)

end Members

end DateGetters.Proofs.EntryLookup
