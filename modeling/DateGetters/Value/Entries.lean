import DateGetters.Value.Equal

/-!
# Entries in order

A mapping is a list of entries with no two equal keys.  Putting a value under a key that is there
replaces the value and leaves the entry, with the key it has, in its place; a new key goes to the
end.  `overlay` puts the entries of one mapping, in order, over another.
-/

namespace DateGetters

/-- The entries of a mapping, in order. -/
abbrev Entries := List (Value × Value)

namespace Entries

def find? (entries : Entries) (key : Value) : Option Value :=
  match entries with
  | [] => none
  | (present, value) :: others =>
    if present.same key then some value else find? others key

def put (entries : Entries) (key value : Value) : Entries :=
  match entries with
  | [] => [(key, value)]
  | (present, old) :: others =>
    if present.same key then (present, value) :: others
    else (present, old) :: put others key value

/-- One mapping with the entries of another put over it, in their order. -/
def overlay (entries others : Entries) : Entries :=
  others.foldl (fun merged entry => merged.put entry.1 entry.2) entries

/-- The mapping that a list of entries builds, one after the other. -/
def ofList (pairs : List (Value × Value)) : Entries :=
  overlay [] pairs

def keys (entries : Entries) : List Value :=
  entries.map Prod.fst

@[simp]
theorem find?_nil (key : Value) : find? [] key = none := rfl

@[simp]
theorem overlay_cons (entries others : Entries) (key value : Value) :
    entries.overlay ((key, value) :: others) = (entries.put key value).overlay others := rfl

/-- Putting a value adds an entry exactly if its key is new. -/
theorem length_put (entries : Entries) (key value : Value) :
    (entries.put key value).length =
      if (entries.find? key).isSome then entries.length else entries.length + 1 := by
  induction entries with
  | nil => rfl
  | cons entry others ih =>
    obtain ⟨present, old⟩ := entry
    by_cases found : present.same key = true
    · simp [put, find?, found]
    · simp only [put, find?, found, Bool.false_eq_true, if_false, List.length_cons, ih]
      split <;> rfl

end Entries

end DateGetters
