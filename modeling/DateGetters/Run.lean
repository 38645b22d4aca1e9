/-!
# Runs with a log

A run either gives a value or fails, and leaves a log in both cases: what was logged before a
failure stays.
-/

namespace DateGetters

/-- How much a log entry matters. -/
inductive Level where
  | debug
  | info
  | warning
deriving DecidableEq, Repr

/-- One entry of a log. -/
structure LogEntry where
  level : Level
  message : String
deriving DecidableEq, Repr

/-- The log of a run and how it ended. -/
structure Run (ε α : Type) where
  log : List LogEntry
  outcome : Except ε α

namespace Run

variable {ε α β γ : Type}

/-- A run that logs nothing and gives a value. -/
def done (value : α) : Run ε α := ⟨[], .ok value⟩

/-- A run that logs nothing and ends as given. -/
def ofExcept (outcome : Except ε α) : Run ε α := ⟨[], outcome⟩

/-- A run that logs one entry. -/
def note (level : Level) (message : String) : Run ε Unit := ⟨[⟨level, message⟩], .ok ()⟩

/-- One run after another: the second starts only if the first gives a value. -/
def andThen (first : Run ε α) (next : α → Run ε β) : Run ε β :=
  match first.outcome with
  | .ok value => ⟨first.log ++ (next value).log, (next value).outcome⟩
  | .error fault => ⟨first.log, .error fault⟩

instance : Monad (Run ε) where
  pure := done
  bind := andThen

instance : MonadLift (Except ε) (Run ε) where
  monadLift := ofExcept

@[simp]
theorem log_pure (value : α) : (pure value : Run ε α).log = [] := rfl

@[simp]
theorem outcome_pure (value : α) : (pure value : Run ε α).outcome = .ok value := rfl

@[simp]
theorem outcome_ofExcept (outcome : Except ε α) : (ofExcept outcome).outcome = outcome := rfl

theorem bind_eq (first : Run ε α) (next : α → Run ε β) : first >>= next = first.andThen next := rfl

/-- A run goes on with the value of the first part. -/
theorem bind_of_ok {first : Run ε α} {value : α} (next : α → Run ε β)
    (ended : first.outcome = .ok value) :
    first >>= next = ⟨first.log ++ (next value).log, (next value).outcome⟩ := by
  simp only [bind_eq, andThen, ended]

/-- A run stops at the first failure and keeps the log up to it. -/
theorem bind_of_error {first : Run ε α} {fault : ε} (next : α → Run ε β)
    (ended : first.outcome = .error fault) :
    first >>= next = ⟨first.log, .error fault⟩ := by
  simp only [bind_eq, andThen, ended]

/-- How a run ends is decided by how its parts end; their logs have no influence. -/
@[simp]
theorem outcome_bind (first : Run ε α) (next : α → Run ε β) :
    (first >>= next).outcome = first.outcome >>= fun value => (next value).outcome := by
  cases ended : first.outcome <;> simp only [bind_eq, andThen, ended] <;> rfl

@[simp]
theorem outcome_liftM (outcome : Except ε α) :
    (liftM outcome : Run ε α).outcome = outcome := rfl

theorem id_map (run : Run ε α) : id <$> run = run := by
  rcases run with ⟨log, fault | value⟩ <;> simp [Functor.map, andThen, done]

theorem bind_assoc (run : Run ε α) (next : α → Run ε β) (last : β → Run ε γ) :
    run >>= next >>= last = run >>= fun value => next value >>= last := by
  rcases run with ⟨log, fault | value⟩
  · simp [bind_eq, andThen]
  · simp only [bind_eq, andThen]
    cases ended : (next value).outcome <;> simp

instance : LawfulMonad (Run ε) :=
  LawfulMonad.mk' (Run ε) id_map (fun value next => by simp [bind_eq, andThen, pure, done])
    bind_assoc

end Run

end DateGetters
