import HingeField.Effect

/-!
Steps that keep a property of the state. A step keeps a property if the
property holds at its end, by success or by failure, whenever it holds at the
start. Main statements: sequences, runs over lists and steps on a part of the
state keep what their parts keep.
-/

namespace HingeField.Effect

variable {σ τ α β γ : Type} {kept : σ → Prop}

/-- The state in which a step ended. -/
def final : EStateM.Result Fault σ β → σ
  | .ok _ finish => finish
  | .error _ finish => finish

/-- Whether a step ended by success. -/
def succeeded : EStateM.Result Fault σ β → Bool
  | .ok _ _ => true
  | .error _ _ => false

theorem eq_ok_of_succeeded {result : EStateM.Result Fault σ Unit}
    (success : succeeded result = true) : result = .ok () (final result) := by
  cases result with
  | ok value finish => rfl
  | error fault finish => cases success

def Keeps (kept : σ → Prop) (step : Effect σ β) : Prop :=
  ∀ start, kept start → kept (final (step start))

theorem Keeps.of_ok {step : Effect σ β} (keeps : Keeps kept step) {start finish : σ} {value : β}
    (holds : kept start) (success : step start = .ok value finish) : kept finish := by
  have atEnd := keeps start holds
  rw [success] at atEnd
  exact atEnd

theorem Keeps.of_error {step : Effect σ β} (keeps : Keeps kept step) {start finish : σ}
    {fault : Fault} (holds : kept start) (failure : step start = .error fault finish) :
    kept finish := by
  have atEnd := keeps start holds
  rw [failure] at atEnd
  exact atEnd

theorem keeps_pure (value : β) : Keeps kept (pure value : Effect σ β) :=
  fun _ holds => holds

theorem keeps_throw (fault : Fault) : Keeps kept (throw fault : Effect σ β) :=
  fun _ holds => holds

theorem keeps_get : Keeps kept (get : Effect σ σ) :=
  fun _ holds => holds

theorem keeps_modify {change : σ → σ} (keeps : ∀ state, kept state → kept (change state)) :
    Keeps kept (modify change : Effect σ Unit) :=
  keeps

theorem keeps_ofExcept (computed : Except Fault β) :
    Keeps kept (ofExcept computed : Effect σ β) := by
  cases computed with
  | ok value => exact keeps_pure value
  | error fault => exact keeps_throw fault

theorem keeps_bind {first : Effect σ β} {next : β → Effect σ γ} (keepsFirst : Keeps kept first)
    (keepsNext : ∀ value, Keeps kept (next value)) : Keeps kept (first >>= next) := by
  intro start holds
  rw [run_bind]
  have atMiddle := keepsFirst start holds
  cases ended : first start with
  | ok value middle =>
      rw [ended] at atMiddle
      exact keepsNext value middle atMiddle
  | error fault middle =>
      rw [ended] at atMiddle
      exact atMiddle

/-- A sequence that fails does so in its first step, or after this step has kept what it keeps. -/
theorem Keeps.error_of_bind {first : Effect σ β} {next : β → Effect σ γ}
    (keeps : Keeps kept first) {start finish : σ} {fault : Fault} (holds : kept start)
    (failure : (first >>= next) start = .error fault finish) :
    kept finish ∨
      ∃ value middle, first start = .ok value middle ∧ kept middle ∧
        next value middle = .error fault finish := by
  rcases bind_eq_error_iff.mp failure with early | ⟨value, middle, success, later⟩
  · exact Or.inl (keeps.of_error holds early)
  · exact Or.inr ⟨value, middle, success, keeps.of_ok holds success, later⟩

/-- A sequence whose second step leaves the state alone ends where its first step does. -/
theorem final_bind_eq {first : Effect σ β} {next : β → Effect σ γ}
    (alone : ∀ value state, final (next value state) = state) (start : σ) :
    final ((first >>= next) start) = final (first start) := by
  rw [run_bind]
  cases first start with
  | ok value middle => exact alone value middle
  | error fault middle => rfl

theorem run_outcome (step : Effect σ β) (start : σ) :
    outcome step start =
      match step start with
      | .ok value finish => .ok (.ok value) finish
      | .error fault finish => .ok (.error fault) finish :=
  rfl

/-- A step that leaves every state with a property as it was keeps the property. -/
theorem keeps_of_unchanged {step : Effect σ β}
    (unchanged : ∀ state, kept state → Keeps (· = state) step) : Keeps kept step := by
  intro start holds
  have atEnd : final (step start) = start := unchanged start holds start rfl
  rw [atEnd]
  exact holds

theorem keeps_forM {items : List α} {step : α → Effect σ PUnit}
    (each : ∀ item ∈ items, Keeps kept (step item)) : Keeps kept (items.forM step) := by
  induction items with
  | nil => exact keeps_pure PUnit.unit
  | cons item items ih =>
      exact keeps_bind (each item List.mem_cons_self) fun _ =>
        ih fun other member => each other (List.mem_cons_of_mem item member)

/-- A run over a list that fails does so in the step of an item, from a state that has what the
steps keep. -/
theorem error_of_forM {items : List α} {step : α → Effect σ PUnit}
    (each : ∀ item ∈ items, Keeps kept (step item)) {start finish : σ} {fault : Fault}
    (holds : kept start) (failure : items.forM step start = .error fault finish) :
    ∃ item ∈ items, ∃ middle, kept middle ∧ step item middle = .error fault finish := by
  induction items generalizing start with
  | nil => cases failure
  | cons item items ih =>
      have first := each item List.mem_cons_self
      rcases bind_eq_error_iff.mp failure with early | ⟨_, middle, success, later⟩
      · exact ⟨item, List.mem_cons_self, start, holds, early⟩
      · obtain ⟨other, member, between, keptThere, failed⟩ :=
          ih (fun other member => each other (List.mem_cons_of_mem item member))
            (first.of_ok holds success) later
        exact ⟨other, List.mem_cons_of_mem item member, between, keptThere, failed⟩

theorem keeps_mapM {items : List α} {step : α → Effect σ β}
    (each : ∀ item ∈ items, Keeps kept (step item)) : Keeps kept (items.mapM step) := by
  induction items with
  | nil => exact keeps_pure []
  | cons item items ih =>
      rw [List.mapM_cons]
      refine keeps_bind (each item List.mem_cons_self) fun _ => ?_
      refine keeps_bind (ih fun other member => each other (List.mem_cons_of_mem item member))
        fun _ => ?_
      exact keeps_pure _

theorem keeps_outcome {step : Effect σ β} (keeps : Keeps kept step) : Keeps kept step.outcome := by
  intro start holds
  have atEnd := keeps start holds
  unfold outcome
  cases ended : step start with
  | ok value finish =>
      rw [ended] at atEnd
      exact atEnd
  | error fault finish =>
      rw [ended] at atEnd
      exact atEnd

/-- A step on a part of the state keeps what the step keeps of the part. -/
theorem keeps_onPart {part : σ → τ} {replace : σ → τ → σ} {keptPart : τ → Prop}
    {step : Effect τ β} (keeps : Keeps keptPart step)
    (of_part : ∀ state, kept state → keptPart (part state))
    (to_part : ∀ state new, kept state → keptPart new → kept (replace state new)) :
    Keeps kept (onPart part replace step) := by
  intro start holds
  have atEnd := keeps (part start) (of_part start holds)
  unfold onPart
  cases ended : step (part start) with
  | ok value new =>
      rw [ended] at atEnd
      exact to_part start new holds atEnd
  | error fault new =>
      rw [ended] at atEnd
      exact to_part start new holds atEnd

section Giving

variable {given : β → Prop} {given' : γ → Prop}

/-- A step that keeps a property and gives nothing but values of some kind. -/
def Gives (kept : σ → Prop) (given : β → Prop) (step : Effect σ β) : Prop :=
  Keeps kept step ∧
    ∀ start value finish, kept start → step start = .ok value finish → given value

theorem gives_pure {value : β} (holds : given value) :
    Gives kept given (pure value : Effect σ β) := by
  refine ⟨keeps_pure value, ?_⟩
  intro start other finish _ success
  cases success
  exact holds

theorem gives_ofExcept (computed : Except Fault β) :
    Gives kept (fun value => computed = .ok value) (ofExcept computed : Effect σ β) :=
  ⟨keeps_ofExcept computed, fun _ _ _ _ success => (ofExcept_eq_ok_iff.mp success).1⟩

theorem keeps_bind_of_gives {first : Effect σ β} {next : β → Effect σ γ}
    (gives : Gives kept given first) (keepsNext : ∀ value, given value → Keeps kept (next value)) :
    Keeps kept (first >>= next) := by
  intro start holds
  have atMiddle := gives.1 start holds
  rw [run_bind]
  cases ended : first start with
  | ok value middle =>
      rw [ended] at atMiddle
      exact keepsNext value (gives.2 start value middle holds ended) middle atMiddle
  | error fault middle =>
      rw [ended] at atMiddle
      exact atMiddle

theorem gives_bind {first : Effect σ β} {next : β → Effect σ γ} (gives : Gives kept given first)
    (givesNext : ∀ value, given value → Gives kept given' (next value)) :
    Gives kept given' (first >>= next) := by
  refine ⟨keeps_bind_of_gives gives fun value holds => (givesNext value holds).1, ?_⟩
  intro start result finish holds success
  obtain ⟨value, middle, found, ended⟩ := bind_eq_ok_iff.mp success
  exact (givesNext value (gives.2 start value middle holds found)).2 middle result finish
    (gives.1.of_ok holds found) ended

/-- Of a step that only keeps a property nothing is known about what it gives. -/
theorem Keeps.gives {step : Effect σ β} (keeps : Keeps kept step) :
    Gives kept (fun _ => True) step :=
  ⟨keeps, fun _ _ _ _ _ => trivial⟩

end Giving

end HingeField.Effect
