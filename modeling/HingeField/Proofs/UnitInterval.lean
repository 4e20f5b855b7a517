import HingeField.Proofs.History
import HingeField.Proofs.Magnitude

/-!
The unit interval. Softening keeps a double in it, and a value may be appended
exactly if it is in it or is no number. Main statement: all values stay in the
unit interval through a history exactly if no addition that succeeds brings a
value that is no number, and no array that is restored from outside brings one
outside the interval.
-/

namespace HingeField

open Doubles

def IsUnit (x : Float) : Prop :=
  0.0 ≤ x ∧ x ≤ 1.0

theorem isUnit_iff {x : Float} :
    IsUnit x ↔ IsFinite x ∧ 0 ≤ exactValue x ∧ exactValue x ≤ 1 := by
  rw [← exactValue_zero, ← exactValue_one]
  constructor
  · rintro ⟨lower, upper⟩
    have finite := isFinite_of_between isFinite_zero isFinite_one lower upper
    exact ⟨finite, (le_iff isFinite_zero finite).mp lower, (le_iff finite isFinite_one).mp upper⟩
  · rintro ⟨finite, lower, upper⟩
    exact ⟨(le_iff isFinite_zero finite).mpr lower, (le_iff finite isFinite_one).mpr upper⟩

theorem isUnit_zero : IsUnit 0.0 :=
  ⟨by decide, by decide⟩

theorem isUnit_one : IsUnit 1.0 :=
  ⟨by decide, by decide⟩

/-- The softened form of a double lies between doubles if its halved form does. -/
theorem softened_between {x : Float} {low high sumLow sumHigh : Rat} (finite : IsFinite x)
    (lowHeld : IsHeld low) (highHeld : IsHeld high) (sumLowHeld : IsHeld sumLow)
    (sumHighHeld : IsHeld sumHigh) (above : low ≤ 1 / 2 * exactValue x)
    (below : 1 / 2 * exactValue x ≤ high) (sumAbove : sumLow ≤ 1 / 4 + low)
    (sumBelow : 1 / 4 + high ≤ sumHigh) :
    IsFinite (Scalar.softened x) ∧ sumLow ≤ exactValue (Scalar.softened x) ∧
      exactValue (Scalar.softened x) ≤ sumHigh := by
  obtain ⟨productFinite, productAbove, productBelow⟩ :=
    mul_between lowHeld highHeld isFinite_half finite
      (by rw [exactValue_half]; exact above) (by rw [exactValue_half]; exact below)
  have sum : IsFinite (0.25 + 0.5 * x) ∧ sumLow ≤ exactValue (0.25 + 0.5 * x) ∧
      exactValue (0.25 + 0.5 * x) ≤ sumHigh :=
    add_between sumLowHeld sumHighHeld isFinite_quarter productFinite
      (by rw [exactValue_quarter]; linarith) (by rw [exactValue_quarter]; linarith)
  exact sum

/-- Halving a double of the unit interval and adding a quarter does not leave the interval, however
the product and the sum are rounded. -/
theorem isUnit_softened {x : Float} (unit : IsUnit x) : IsUnit (Scalar.softened x) := by
  obtain ⟨finite, lower, upper⟩ := isUnit_iff.mp unit
  exact isUnit_iff.mpr (softened_between finite isHeld_zero isHeld_half isHeld_zero isHeld_one
    (by linarith) (by linarith) (by norm_num) (by norm_num))

theorem isNaN_iff {x : Float} : x.isNaN = true ↔ x.toModel.unpack = .notANumber := by
  change x.toModel.unpack.isNaN = true ↔ _
  cases x.toModel.unpack with
  | notANumber => exact iff_of_true rfl rfl
  | _ =>
      refine iff_of_false Bool.false_ne_true ?_
      intro impossible
      cases impossible

/-- The check of an addition lets through the unit interval, and what is no number. -/
theorem isAdmissible_iff {x : Float} :
    Model.isAdmissible x = true ↔ IsUnit x ∨ x.isNaN = true := by
  have spelled : Model.isAdmissible x = true ↔ ¬x < 0.0 ∧ ¬1.0 < x := by
    change (!(decide (x < 0.0) || decide (1.0 < x))) = true ↔ _
    rw [Bool.not_eq_true', Bool.or_eq_false_iff, decide_eq_false_iff_not, decide_eq_false_iff_not]
  rw [spelled]
  by_cases number : x.toModel.unpack = .notANumber
  · refine ⟨fun _ => Or.inr (isNaN_iff.mpr number), fun _ => ?_⟩
    rw [lt_iff_compare, lt_iff_compare, compare_swap x.toModel.unpack, number]
    exact ⟨Bool.noConfusion, Bool.noConfusion⟩
  · obtain ⟨_, aboveZero⟩ := exists_compare number isFinite_zero
    obtain ⟨_, belowOne⟩ := exists_compare number isFinite_one
    rw [(not_lt_iff aboveZero).1, (not_lt_iff belowOne).2, isNaN_iff]
    exact ⟨Or.inl, fun unit => unit.resolve_right number⟩

theorem not_isNaN_of_isUnit {x : Float} (unit : IsUnit x) : x.isNaN = false := by
  rw [Bool.eq_false_iff, Ne, isNaN_iff]
  intro undefined
  have lower := le_iff_compare.mp unit.2
  rw [undefined] at lower
  exact Bool.noConfusion lower

section Histories

variable {operation : Operation} {session : Session}

theorem admissible_of_succeeded (success : Effect.succeeded (operation.run session) = true) :
    ∀ value ∈ operation.appended, Model.isAdmissible value = true := by
  cases operation with
  | addVariable value =>
      rcases run_addVariable_cases value session with ⟨admissible, _⟩ | ⟨_, refused⟩
      · intro other member
        rw [List.mem_singleton.mp member]
        exact admissible
      · rw [refused] at success
        cases success
  | addBlock size exactlyOne initial =>
      rcases run_addBlock_cases size exactlyOne initial session with
        ⟨values, _, _, origin, _⟩ | ⟨fault, refused⟩
      · rcases origin with ⟨rfl, _⟩ | ⟨given, rfl, _, admissible⟩
        · exact fun value member => absurd member List.not_mem_nil
        · exact List.all_eq_true.mp admissible
      · rw [refused] at success
        cases success
  | _ => exact fun value member => absurd member List.not_mem_nil

theorem mem_of_succeeded (success : Effect.succeeded (operation.run session) = true) {value : Float}
    (brought : value ∈ operation.appended ∨ value ∈ operation.restored) :
    value ∈ (Effect.final (operation.run session)).model.values := by
  cases operation with
  | addVariable other =>
      rcases run_addVariable_cases other session with ⟨_, added⟩ | ⟨_, refused⟩
      · rw [added]
        exact List.mem_append_right _ (brought.resolve_right List.not_mem_nil)
      · rw [refused] at success
        cases success
  | addBlock size exactlyOne initial =>
      rcases run_addBlock_cases size exactlyOne initial session with
        ⟨values, _, _, origin, added⟩ | ⟨fault, refused⟩
      · rw [added]
        refine List.mem_append_right _ ?_
        rcases origin with ⟨rfl, _⟩ | ⟨given, rfl, rfl, _⟩
        · exact absurd (brought.resolve_right List.not_mem_nil) List.not_mem_nil
        · exact brought.resolve_right List.not_mem_nil
      · rw [refused] at success
        cases success
  | restoreArray given =>
      rcases run_restoreArray_cases given session with ⟨model, values, restored⟩ | ⟨fault, refused⟩
      · rw [restored]
        change value ∈ model.values
        rw [values]
        exact brought.resolve_left List.not_mem_nil
      · rw [refused] at success
        cases success
  | _ => exact absurd (brought.elim id id) List.not_mem_nil

theorem isClosed_isUnit : IsClosed IsUnit :=
  ⟨fun _ lower upper => ⟨lower, upper⟩, fun _ => isUnit_softened⟩

/-- After every call of a history all values are in the unit interval, exactly if no addition that
succeeds brings a value that is no number, and no array that is restored from outside brings a
value beyond the interval. -/
theorem unit_values_iff_numbers_added (keepsJournal : Bool) (operations : List Operation) :
    (∀ earlier, earlier <+: operations →
      ∀ value ∈ ((Session.start keepsJournal).after earlier).model.values,
        0.0 ≤ value ∧ value ≤ 1.0) ↔
    ∀ earlier operation, earlier ++ [operation] <+: operations →
      Effect.succeeded (operation.run ((Session.start keepsJournal).after earlier)) = true →
        (∀ value ∈ operation.appended, value.isNaN = false) ∧
          ∀ value ∈ operation.restored, 0.0 ≤ value ∧ value ≤ 1.0 := by
  constructor
  · intro unit earlier operation listed success
    have within (value : Float)
        (brought : value ∈ operation.appended ∨ value ∈ operation.restored) : IsUnit value := by
      apply unit (earlier ++ [operation]) listed value
      rw [Session.after_append]
      exact mem_of_succeeded success brought
    exact ⟨fun value appended => not_isNaN_of_isUnit (within value (Or.inl appended)),
      fun value restored => within value (Or.inr restored)⟩
  · intro numbers earlier listed value member
    have sound : ((Session.start keepsJournal).after earlier).IsSound IsUnit := by
      refine (isSound_start keepsJournal).after isClosed_isUnit ?_
      intro before operation inside success value brought
      obtain ⟨defined, restored⟩ := numbers before operation (inside.trans listed) success
      rcases brought with appended | replaced
      · have admissible := admissible_of_succeeded success value appended
        refine (isAdmissible_iff.mp admissible).resolve_right ?_
        rw [defined value appended]
        exact Bool.false_ne_true
      · exact restored value replaced
    exact sound.values value member

def undefined : Float := 0.0 / 0.0

/-- An undefined truth value is let through by an addition and stays in the arena, although it is
not in the unit interval and may not be stored in a variable later on. -/
theorem undefined_value_enters_arena :
    let session := (Session.start true).after [.addVariable undefined]
    Effect.succeeded ((Operation.addVariable undefined).run (Session.start true)) = true ∧
      undefined ∈ session.model.values ∧ ¬(0.0 ≤ undefined ∧ undefined ≤ 1.0) ∧
      Effect.succeeded ((Operation.setValue 0 undefined).run session) = false := by
  intro session
  have added : Effect.succeeded
      ((Operation.addVariable undefined).run (Session.start true)) = true := by decide +kernel
  refine ⟨added, mem_of_succeeded added (Or.inl List.mem_cons_self), ?_, by decide +kernel⟩
  decide +kernel

end Histories

end HingeField
