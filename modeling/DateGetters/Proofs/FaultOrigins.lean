import DateGetters.Proofs.GetterRendering

/-!
# Faults that are not about types

That a column is not temporal is found out where a requested name is resolved,
and nowhere else: reading options, checking the name format, reading the list
of columns and naming getters all fail in other ways.
-/

namespace DateGetters.Proofs.FaultOrigins

open DateGetters.Proofs.GetterRendering

variable {α β : Type}

/-- An outcome that is not the fault of a column's type. -/
def TypeFree (outcome : Outcome α) : Prop :=
  ∀ column table declared, outcome ≠ .error (.notTemporal column table declared)

/-! ## Composition -/

theorem typeFree_ok (value : α) : TypeFree (.ok value) := by
  intro column table declared same
  cases same

theorem typeFree_bind
    {first : Outcome α} {next : α → Outcome β}
    (firstFree : TypeFree first)
    (nextFree : ∀ value, TypeFree (next value)) :
    TypeFree (first >>= next) := by
  cases first with
  | error fault =>
      intro column table declared same
      have equal : fault = .notTemporal column table declared := Except.error.inj same
      exact firstFree column table declared (congrArg Except.error equal)
  | ok value =>
      exact nextFree value

theorem typeFree_map
    {outcome : Outcome α} (change : α → β)
    (free : TypeFree outcome) :
    TypeFree (outcome.map change) := by
  have bound : outcome.map change = outcome >>= fun value => .ok (change value) := by
    cases outcome <;> rfl
  rw [bound]
  apply typeFree_bind free
  intro value
  exact typeFree_ok (change value)

theorem typeFree_mapM
    {work : α → Outcome β}
    (free : ∀ item, TypeFree (work item))
    (items : List α) :
    TypeFree (items.mapM work) := by
  induction items with
  | nil =>
      exact typeFree_ok []
  | cons item others ih =>
      rw [List.mapM_cons]
      apply typeFree_bind (free item)
      intro result
      apply typeFree_bind ih
      intro rest
      exact typeFree_ok (result :: rest)

/-! ## Values as texts -/

theorem typeFree_asText (operation : String) (value : Value) :
    TypeFree (value.asText operation) := by
  intro column table declared same
  cases value <;> cases same

theorem typeFree_toText? (value : Value) : TypeFree value.toText? := by
  intro column table declared same
  rw [Value.toText?] at same
  split at same <;> cases same

theorem typeFree_textValue? (value : Value) : TypeFree value.textValue? := by
  unfold Value.textValue?
  split
  · exact typeFree_ok _
  · exact typeFree_map _ (typeFree_toText? _)

/-! ## Options -/

theorem toTexts?_eq_mapM (values : List Value) :
    Options.toTexts? values = values.mapM Value.toText? := by
  induction values with
  | nil =>
      rfl
  | cons value others ih =>
      rw [Options.toTexts?, List.mapM_cons, ih]

theorem typeFree_columnsText? (value : Value) : TypeFree (Options.columnsText? value) := by
  have joined (values : List Value) :
      TypeFree ((Options.toTexts? values).map (", ".intercalate ·)) := by
    rw [toTexts?_eq_mapM]
    exact typeFree_map _ (typeFree_mapM typeFree_toText? _)
  cases value with
  | list items =>
      exact joined items
  | pair first second =>
      exact joined [first, second]
  | _ =>
      exact typeFree_toText? _

theorem typeFree_readOr
    {read : Value → Outcome Value}
    (free : ∀ value, TypeFree (read value))
    (builtin : Value) (option : Option Value) :
    TypeFree (Options.readOr builtin read option) := by
  cases option with
  | none =>
      exact typeFree_ok builtin
  | some value =>
      exact free value

theorem typeFree_ofEntries (entries : Entries) : TypeFree (Options.ofEntries entries) := by
  rw [Options.ofEntries]
  have free (value : Value) : TypeFree (Options.columnsValue? value) :=
    typeFree_map _ (typeFree_columnsText? value)
  apply typeFree_bind (typeFree_readOr free _ _)
  intro columns
  apply typeFree_bind (typeFree_readOr typeFree_textValue? _ _)
  intro nameFormat
  apply typeFree_bind (typeFree_readOr typeFree_textValue? _ _)
  intro defaultLocale
  exact typeFree_ok _

theorem typeFree_ofValue (value : Value) : TypeFree (Options.ofValue value) := by
  unfold Options.ofValue
  split
  · split
    · exact typeFree_ofEntries _
    · intro column table declared same
      cases same
  · exact typeFree_ok Options.builtin

/-! ## Names of getters and of columns -/

theorem typeFree_validate (format : Value) : TypeFree (NameFormat.validate format) := by
  have counted : TypeFree (NameFormat.count format) := by
    intro column table declared same
    rw [NameFormat.count] at same
    split at same <;> cases same
  rw [NameFormat.validate]
  apply typeFree_bind counted
  intro found column table declared same
  split at same <;> cases same

theorem typeFree_methodName (format identifier : Value) :
    TypeFree (NameFormat.methodName format identifier) := by
  rw [NameFormat.methodName]
  apply typeFree_bind (typeFree_asText "replace" format)
  intro content column table declared same
  cases identifier <;> cases same

theorem typeFree_columnGetters (options : Options) (columns : List Column) :
    TypeFree (columnGetters options columns).outcome := by
  rw [outcome_columnGetters]
  apply typeFree_map
  apply typeFree_mapM
  intro column
  exact typeFree_map _ (typeFree_methodName _ _)

theorem typeFree_split (option : Value) : TypeFree (Selection.split option).outcome := by
  rw [Selection.split, Run.outcome_bind, Run.outcome_liftM]
  apply typeFree_bind (typeFree_asText "split" _)
  intro content
  exact typeFree_ok _

theorem typeFree_isTemporalType (declared : Value) : TypeFree (isTemporalType declared) :=
  typeFree_map _ (typeFree_asText "strip" _)

end DateGetters.Proofs.FaultOrigins
