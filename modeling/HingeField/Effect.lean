import HingeField.Fault

/-!
Steps on a state that may fail. A failing step hands on the state as it was at
the failure, so that whatever had been changed by then stays changed. Main
statements: when a sequence of two steps succeeds, and when it fails.
-/

namespace HingeField

abbrev Effect (σ β : Type) := EStateM Fault σ β

namespace Effect

variable {σ τ β γ : Type}

/-- A computation that neither reads nor changes the state. -/
def ofExcept : Except Fault β → Effect σ β
  | .ok value => pure value
  | .error fault => throw fault

/-- Runs a step to its end and returns how it ended. -/
def outcome (step : Effect σ β) : Effect σ (Except Fault β) := fun state =>
  match step state with
  | .ok value state => .ok (.ok value) state
  | .error fault state => .ok (.error fault) state

/-- A step on a part of the state. -/
def onPart (part : σ → τ) (replace : σ → τ → σ) (step : Effect τ β) : Effect σ β := fun state =>
  match step (part state) with
  | .ok value new => .ok value (replace state new)
  | .error fault new => .error fault (replace state new)

section Evaluation

@[simp]
theorem ok_bind (value : β) (next : β → Except Fault γ) : (Except.ok value >>= next) = next value :=
  rfl

@[simp]
theorem error_bind (fault : Fault) (next : β → Except Fault γ) :
    (Except.error fault >>= next) = .error fault :=
  rfl

variable (start : σ)

@[simp]
theorem run_pure (value : β) : (pure value : Effect σ β) start = .ok value start :=
  rfl

@[simp]
theorem run_bind (first : Effect σ β) (next : β → Effect σ γ) :
    (first >>= next) start =
      match first start with
      | .ok value middle => next value middle
      | .error fault middle => .error fault middle := by
  change (EStateM.bind first next) start = _
  unfold EStateM.bind
  cases first start with
  | ok value middle => rfl
  | error fault middle => rfl

@[simp]
theorem run_map (change : β → γ) (step : Effect σ β) :
    (change <$> step) start =
      match step start with
      | .ok value finish => .ok (change value) finish
      | .error fault finish => .error fault finish := by
  change (EStateM.map change step) start = _
  unfold EStateM.map
  cases step start with
  | ok value finish => rfl
  | error fault finish => rfl

@[simp]
theorem run_get : (get : Effect σ σ) start = .ok start start :=
  rfl

@[simp]
theorem run_set (state : σ) : (set state : Effect σ Unit) start = .ok () state :=
  rfl

@[simp]
theorem run_modify (change : σ → σ) :
    (modify change : Effect σ Unit) start = .ok () (change start) :=
  rfl

@[simp]
theorem run_throw (fault : Fault) : (throw fault : Effect σ β) start = .error fault start :=
  rfl

@[simp]
theorem run_ofExcept_ok (value : β) :
    (ofExcept (.ok value) : Effect σ β) start = .ok value start :=
  rfl

@[simp]
theorem run_ofExcept_error (fault : Fault) :
    (ofExcept (.error fault) : Effect σ β) start = .error fault start :=
  rfl

end Evaluation

theorem ofExcept_eq_ok_iff {computed : Except Fault β} {start finish : σ} {value : β} :
    ofExcept computed start = .ok value finish ↔ computed = .ok value ∧ finish = start := by
  cases computed with
  | error fault =>
      constructor
      · intro impossible
        cases impossible
      · rintro ⟨impossible, _⟩
        cases impossible
  | ok result =>
      constructor
      · intro success
        cases success
        exact ⟨rfl, rfl⟩
      · rintro ⟨same, rfl⟩
        cases same
        rfl

theorem outcome_eq_ok_iff {step : Effect σ β} {start finish : σ} {value : β} :
    outcome step start = .ok (.ok value) finish ↔ step start = .ok value finish := by
  unfold outcome
  cases step start with
  | ok result state =>
      constructor
      · intro success
        cases success
        rfl
      · intro success
        cases success
        rfl
  | error fault state =>
      constructor
      · intro impossible
        cases impossible
      · intro impossible
        cases impossible

theorem bind_eq_ok_iff {first : Effect σ β} {next : β → Effect σ γ} {start finish : σ}
    {result : γ} :
    (first >>= next) start = .ok result finish ↔
      ∃ value middle, first start = .ok value middle ∧ next value middle = .ok result finish := by
  change (EStateM.bind first next) start = _ ↔ _
  unfold EStateM.bind
  cases first start with
  | ok value middle =>
      constructor
      · intro success
        exact ⟨value, middle, rfl, success⟩
      · rintro ⟨_, _, same, success⟩
        cases same
        exact success
  | error fault middle =>
      constructor
      · intro impossible
        cases impossible
      · rintro ⟨_, _, impossible, _⟩
        cases impossible

theorem bind_eq_error_iff {first : Effect σ β} {next : β → Effect σ γ} {start finish : σ}
    {fault : Fault} :
    (first >>= next) start = .error fault finish ↔
      first start = .error fault finish ∨
        ∃ value middle, first start = .ok value middle ∧
          next value middle = .error fault finish := by
  change (EStateM.bind first next) start = _ ↔ _
  unfold EStateM.bind
  cases first start with
  | ok value middle =>
      constructor
      · intro failure
        exact Or.inr ⟨value, middle, rfl, failure⟩
      · rintro (impossible | ⟨_, _, same, failure⟩)
        · cases impossible
        · cases same
          exact failure
  | error early middle =>
      constructor
      · intro failure
        cases failure
        exact Or.inl rfl
      · rintro (failure | ⟨_, _, impossible, _⟩)
        · cases failure
          rfl
        · cases impossible

end Effect

end HingeField
