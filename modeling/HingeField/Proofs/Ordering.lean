import HingeField.Proofs.NearestValues

/-!
The order of the decisions of a greedy pass. Numbers are ordered by their exact
values, the infinities at both ends, and the two zeros have one place. Main
statement: the variables are ordered by descending value, equal ones in the
order in which they are listed, and those whose value is no number behind all
others, in this order as well; no other order has these properties, and it is
the one in which the negated values ascend.
-/

namespace HingeField

namespace Doubles

open Float.Model
open Float.Model.UnpackedFloat (Sign)

section Places

/-- The place of a number among all: its exact value, or an end for an infinity. -/
def placeOf : UnpackedFloat → WithBot (WithTop Rat)
  | .infinity .negative => ⊥
  | .infinity .positive => ((⊤ : WithTop Rat) : WithBot (WithTop Rat))
  | number => ((unpackedValue number : WithTop Rat) : WithBot (WithTop Rat))

theorem placeOf_of_isTidy {number : UnpackedFloat} (tidy : IsTidy number) :
    placeOf number = ((unpackedValue number : WithTop Rat) : WithBot (WithTop Rat)) := by
  cases number with
  | notANumber => exact tidy.elim
  | infinity sign => exact tidy.elim
  | zero sign => rfl
  | finite sign significand exponent filled => rfl

/-- A finite number lies between the infinities. -/
theorem compare_infinity_eq_places (sign : Sign) {number : UnpackedFloat} (tidy : IsTidy number) :
    (UnpackedFloat.infinity sign).compare number =
      some (compare (placeOf (.infinity sign)) (placeOf number)) := by
  rw [placeOf_of_isTidy tidy]
  cases sign with
  | negative =>
      rw [compare_negative_infinity tidy]
      exact congrArg some (compare_lt_iff_lt.mpr (WithBot.bot_lt_coe _)).symm
  | positive =>
      rw [compare_infinity tidy]
      have below : ((unpackedValue number : WithTop Rat) : WithBot (WithTop Rat)) <
          ((⊤ : WithTop Rat) : WithBot (WithTop Rat)) :=
        WithBot.coe_lt_coe.mpr (WithTop.coe_lt_top _)
      exact congrArg some (compare_gt_iff_gt.mpr below).symm

theorem compare_infinities_eq_places (sign other : Sign) :
    (UnpackedFloat.infinity sign).compare (.infinity other) =
      some (compare (placeOf (.infinity sign)) (placeOf (.infinity other))) := by
  have ends : (⊥ : WithBot (WithTop Rat)) < ((⊤ : WithTop Rat) : WithBot (WithTop Rat)) :=
    WithBot.bot_lt_coe _
  cases sign with
  | negative =>
      cases other with
      | negative => exact congrArg some (compare_eq_iff_eq.mpr rfl).symm
      | positive => exact congrArg some (compare_lt_iff_lt.mpr ends).symm
  | positive =>
      cases other with
      | negative => exact congrArg some (compare_gt_iff_gt.mpr ends).symm
      | positive => exact congrArg some (compare_eq_iff_eq.mpr rfl).symm

theorem compare_tidy_eq_places {first second : UnpackedFloat} (firstTidy : IsTidy first)
    (secondTidy : IsTidy second) :
    first.compare second = some (compare (placeOf first) (placeOf second)) := by
  have ascends : StrictMono fun value : Rat => ((value : WithTop Rat) : WithBot (WithTop Rat)) :=
    fun _ _ less => WithBot.coe_lt_coe.mpr (WithTop.coe_lt_coe.mpr less)
  have same := ascends.cmp_map_eq (unpackedValue first) (unpackedValue second)
  rw [cmp_eq_compare, cmp_eq_compare] at same
  rw [compare_eq firstTidy secondTidy, placeOf_of_isTidy firstTidy, placeOf_of_isTidy secondTidy,
    same]

variable {x y : Float}

theorem number_cases (number : x.isNaN = false) :
    (∃ sign, x.toModel.unpack = .infinity sign) ∨ IsTidy x.toModel.unpack := by
  refine (unpack_cases x).resolve_left fun undefined => ?_
  rw [isNaN_iff.mpr undefined] at number
  cases number

/-- Numbers compare as their places do. -/
theorem compare_eq_places (xNumber : x.isNaN = false) (yNumber : y.isNaN = false) :
    x.toModel.unpack.compare y.toModel.unpack =
      some (compare (placeOf x.toModel.unpack) (placeOf y.toModel.unpack)) := by
  rcases number_cases xNumber with ⟨sign, infinite⟩ | tidy
  · rcases number_cases yNumber with ⟨other, alsoInfinite⟩ | otherTidy
    · rw [infinite, alsoInfinite]
      exact compare_infinities_eq_places sign other
    · rw [infinite]
      exact compare_infinity_eq_places sign otherTidy
  · rcases number_cases yNumber with ⟨other, infinite⟩ | otherTidy
    · rw [infinite, compare_swap (.infinity other), compare_infinity_eq_places other tidy,
        Option.map_some, ← Std.OrientedOrd.eq_swap]
    · exact compare_tidy_eq_places tidy otherTidy

theorem lt_iff_places (xNumber : x.isNaN = false) (yNumber : y.isNaN = false) :
    x < y ↔ placeOf x.toModel.unpack < placeOf y.toModel.unpack := by
  rw [lt_iff_compare, compare_eq_places xNumber yNumber, ← compare_lt_iff_lt, beq_iff_eq,
    Option.some.injEq]

theorem le_iff_places (xNumber : x.isNaN = false) (yNumber : y.isNaN = false) :
    x ≤ y ↔ placeOf x.toModel.unpack ≤ placeOf y.toModel.unpack := by
  rw [le_iff_compare, compare_eq_places xNumber yNumber]
  change (compare (placeOf x.toModel.unpack) (placeOf y.toModel.unpack)).isLE = true ↔ _
  rw [Ordering.isLE_iff_ne_gt, ← not_lt]
  exact not_congr compare_gt_iff_gt

theorem beq_iff_places (xNumber : x.isNaN = false) (yNumber : y.isNaN = false) :
    (x == y) = true ↔ placeOf x.toModel.unpack = placeOf y.toModel.unpack := by
  change (x.toModel.unpack.compare y.toModel.unpack == some .eq) = true ↔ _
  rw [compare_eq_places xNumber yNumber, beq_iff_eq, Option.some.injEq]
  exact compare_eq_iff_eq

end Places

section Undefined

variable {x y : Float}

theorem not_lt_of_isNaN (undefined : x.isNaN = true ∨ y.isNaN = true) : ¬x < y := by
  rw [lt_iff_compare]
  rcases undefined with first | second
  · rw [isNaN_iff.mp first]
    exact Bool.false_ne_true
  · rw [compare_swap y.toModel.unpack, isNaN_iff.mp second]
    exact Bool.false_ne_true

theorem beq_self_iff : (x == x) = true ↔ x.isNaN = false := by
  cases undefined : x.isNaN with
  | true =>
      change (x.toModel.unpack.compare x.toModel.unpack == some .eq) = true ↔ _
      rw [isNaN_iff.mp undefined]
      exact iff_of_false Bool.false_ne_true Bool.noConfusion
  | false => exact iff_of_true ((beq_iff_places undefined undefined).mpr rfl) rfl

end Undefined

section Negation

theorem unpack_neg (x : Float) : (-x).toModel.unpack = x.toModel.unpack.neg := by
  change (Float.Model.pack x.toModel.unpack.neg).unpack = _
  rw [unpack_pack_neg, unpack_pack_unpack]

theorem compare_neg (first second : UnpackedFloat) :
    first.neg.compare second.neg = second.compare first := by
  have parts (exponent otherExponent : Int) (significand otherSignificand : Nat) :
      ((compare exponent otherExponent).then (compare significand otherSignificand)).swap =
        (compare otherExponent exponent).then (compare otherSignificand significand) := by
    rw [Ordering.swap_then, Int.compare_swap, Nat.compare_swap]
  cases first with
  | notANumber => cases second <;> rfl
  | infinity sign =>
      cases second with
      | infinity other => cases sign <;> cases other <;> rfl
      | _ => cases sign <;> rfl
  | zero sign =>
      cases second with
      | infinity other => cases other <;> rfl
      | finite other significand exponent filled => cases other <;> rfl
      | _ => rfl
  | finite sign significand exponent filled =>
      cases second with
      | notANumber => cases sign <;> rfl
      | infinity other => cases sign <;> cases other <;> rfl
      | zero other => cases sign <;> rfl
      | finite other otherSignificand otherExponent otherFilled =>
          cases sign <;> cases other
          · exact congrArg some (parts otherExponent exponent otherSignificand significand).symm
          · rfl
          · rfl
          · exact congrArg some (parts exponent otherExponent significand otherSignificand)

theorem lt_neg_neg (x y : Float) : -x < -y ↔ y < x := by
  rw [lt_iff_compare, lt_iff_compare, unpack_neg, unpack_neg, compare_neg]

theorem beq_neg_neg (x : Float) : (-x == -x) = (x == x) := by
  change ((-x).toModel.unpack.compare (-x).toModel.unpack == some .eq) =
    (x.toModel.unpack.compare x.toModel.unpack == some .eq)
  rw [unpack_neg, compare_neg]

end Negation

end Doubles

namespace Rounding

open Doubles

section Precedence

variable {x y z : Float}

/-- A value must stand before another one if it is greater, or a number and the other one is not. -/
theorem precedes_eq_true_iff :
    precedes x y = true ↔ y < x ∨ (x.isNaN = false ∧ y.isNaN = true) := by
  have undefined : (y == y) = false ↔ y.isNaN = true := by
    rw [← Bool.not_eq_true, beq_self_iff, Bool.not_eq_false]
  change (decide (y < x) || (x == x && !(y == y))) = true ↔ _
  rw [Bool.or_eq_true, decide_eq_true_iff, Bool.and_eq_true, beq_self_iff, Bool.not_eq_true',
    undefined]

/-- A value may stand before another one unless that must stand before it. -/
theorem mayPrecede_iff :
    (!precedes y x) = true ↔ y.isNaN = true ∨ (x.isNaN = false ∧ y.isNaN = false ∧ y ≤ x) := by
  rw [Bool.not_eq_true', ← Bool.not_eq_true, precedes_eq_true_iff]
  cases yNumber : y.isNaN with
  | true =>
      refine iff_of_true ?_ (Or.inl rfl)
      rintro (less | ⟨impossible, _⟩)
      · exact not_lt_of_isNaN (Or.inr yNumber) less
      · cases impossible
  | false =>
      cases xNumber : x.isNaN with
      | true =>
          refine iff_of_false (fun kept => kept (Or.inr ⟨rfl, rfl⟩)) ?_
          rintro (impossible | ⟨impossible, _⟩)
          · cases impossible
          · cases impossible
      | false =>
          rw [le_iff_places yNumber xNumber, lt_iff_places xNumber yNumber]
          simp

theorem mayPrecede_trans (first : (!precedes y x) = true) (second : (!precedes z y) = true) :
    (!precedes z x) = true := by
  rw [mayPrecede_iff] at first second ⊢
  rcases second with undefined | ⟨yNumber, zNumber, below⟩
  · exact Or.inl undefined
  · rcases first with undefined | ⟨xNumber, _, above⟩
    · rw [undefined] at yNumber
      cases yNumber
    · rw [le_iff_places yNumber xNumber] at above
      rw [le_iff_places zNumber yNumber] at below
      exact Or.inr ⟨xNumber, zNumber, (le_iff_places zNumber xNumber).mpr (below.trans above)⟩

theorem mayPrecede_total (x y : Float) : (!precedes y x || !precedes x y) = true := by
  rw [Bool.or_eq_true, mayPrecede_iff, mayPrecede_iff]
  cases xNumber : x.isNaN with
  | true => exact Or.inr (Or.inl rfl)
  | false =>
      cases yNumber : y.isNaN with
      | true => exact Or.inl (Or.inl rfl)
      | false =>
          rw [le_iff_places yNumber xNumber, le_iff_places xNumber yNumber]
          exact (le_total _ _).imp (fun below => Or.inr ⟨rfl, rfl, below⟩)
            fun below => Or.inr ⟨rfl, rfl, below⟩

end Precedence

section Places

/-- The value of the variable at a place of a list. -/
def valueAt (arena : Arena Float) (indices : List Int) (place : Nat) : Option Float :=
  indices[place]?.bind (elementAt? arena)

/-- Of two places the first one stands before the other: its value is not less, and it is the
earlier one of the two if the values are equal; behind a value that is no number there are but such,
at later places. -/
structure StandsBefore (arena : Arena Float) (indices : List Int) (first second : Nat) : Prop where
  descending : ∀ x ∈ valueAt arena indices first, ∀ y ∈ valueAt arena indices second,
    x.isNaN = false → y.isNaN = false → y ≤ x ∧ ((x == y) = true → first < second)
  undefinedLast : ∀ x ∈ valueAt arena indices first, ∀ y ∈ valueAt arena indices second,
    x.isNaN = true → y.isNaN = true ∧ first < second

/-- The variables of a list in a new order, with the places at which they stood. -/
structure DescendsStably (arena : Arena Float) (indices ordered : List Int) (places : List Nat) :
    Prop where
  perm : places.Perm (List.range indices.length)
  listed : ordered.map some = places.map fun place => indices[place]?
  before : places.Pairwise (StandsBefore arena indices)

instance (arena : Arena Float) (indices : List Int) :
    DecidableRel (StandsBefore arena indices) := fun _ _ =>
  decidable_of_iff (_ ∧ _)
    ⟨fun both => ⟨both.1, both.2⟩, fun before => ⟨before.descending, before.undefinedLast⟩⟩

instance (arena : Arena Float) (indices ordered : List Int) (places : List Nat) :
    Decidable (DescendsStably arena indices ordered places) :=
  decidable_of_iff (_ ∧ _ ∧ _)
    ⟨fun all => ⟨all.1, all.2.1, all.2.2⟩,
      fun descends => ⟨descends.perm, descends.listed, descends.before⟩⟩

variable {arena : Arena Float} {indices ordered others : List Int} {places otherPlaces : List Nat}
  {values : List Float}

theorem valueAt_of_mem_zipIdx (read : indices.mapM arena.read = .ok values)
    {entry : (Int × Float) × Nat} (member : entry ∈ (indices.zip values).zipIdx) :
    indices[entry.2]? = some entry.1.1 ∧ valueAt arena indices entry.2 = some entry.1.2 := by
  obtain ⟨index, value⟩ := List.getElem?_zip_eq_some.mp (List.mem_zipIdx_iff_getElem?.mp member)
  obtain ⟨result, stands, computed⟩ := getElem?_of_mapM read index
  cases value.symm.trans stands
  refine ⟨index, ?_⟩
  unfold valueAt
  rw [index, Option.bind_some]
  exact elementAt?_eq_some_iff.mpr (Arena.read_eq_ok_iff.mp computed)

/-- Whether one entry may stand before another one. -/
def mayStandBefore (first second : Int × Float) : Bool :=
  !precedes second.2 first.2

/-- A stable sort of entries puts each before the later ones by value, and by place in case of
equality. -/
theorem pairwise_sorted_entries (entries : List (Int × Float)) :
    (entries.zipIdx.mergeSort (List.zipIdxLE mayStandBefore)).Pairwise fun first second =>
      List.zipIdxLE mayStandBefore first second = true := by
  refine List.pairwise_mergeSort (List.zipIdxLE_trans ?_) (List.zipIdxLE_total ?_) _
  · intro first second third earlier later
    exact mayPrecede_trans (x := first.2) (y := second.2) (z := third.2) earlier later
  · intro first second
    exact mayPrecede_total first.2 second.2

/-- One entry stands before another if its value may, and its place is the earlier one in case both
may. -/
theorem standsBefore_of_entries {first second : (Int × Float) × Nat}
    (firstValue : valueAt arena indices first.2 = some first.1.2)
    (secondValue : valueAt arena indices second.2 = some second.1.2)
    (different : first.2 ≠ second.2)
    (sorted : List.zipIdxLE mayStandBefore first second = true) :
    StandsBefore arena indices first.2 second.2 := by
  unfold List.zipIdxLE at sorted
  have may : mayStandBefore first.1 second.1 = true := by
    by_contra refused
    rw [if_neg refused] at sorted
    cases sorted
  have earlier (both : mayStandBefore second.1 first.1 = true) : first.2 < second.2 := by
    rw [if_pos may, if_pos both, decide_eq_true_iff] at sorted
    omega
  refine ⟨?_, ?_⟩
  · intro x xStands y yStands xNumber yNumber
    cases firstValue.symm.trans xStands
    cases secondValue.symm.trans yStands
    rcases mayPrecede_iff.mp may with undefined | ⟨_, _, below⟩
    · rw [undefined] at yNumber
      cases yNumber
    · refine ⟨below, fun equal => earlier (mayPrecede_iff.mpr (Or.inr ⟨yNumber, xNumber, ?_⟩))⟩
      rw [le_iff_places xNumber yNumber]
      exact ((beq_iff_places xNumber yNumber).mp equal).le
  · intro x xStands y yStands xUndefined
    cases firstValue.symm.trans xStands
    cases secondValue.symm.trans yStands
    rcases mayPrecede_iff.mp may with undefined | ⟨number, _, _⟩
    · exact ⟨undefined, earlier (mayPrecede_iff.mpr (Or.inl xUndefined))⟩
    · rw [xUndefined] at number
      cases number

/-- Sorting the entries by value orders the variables as wanted. -/
theorem exists_places (read : indices.mapM arena.read = .ok values) :
    ∃ places, DescendsStably arena indices
      (((indices.zip values).mergeSort mayStandBefore).map (·.1)) places := by
  have sortedPerm := List.mergeSort_perm (indices.zip values).zipIdx
    (List.zipIdxLE mayStandBefore)
  have inOrder := pairwise_sorted_entries (indices.zip values)
  rw [← List.mergeSort_zipIdx]
  generalize (indices.zip values).zipIdx.mergeSort (List.zipIdxLE mayStandBefore) = sorted
    at sortedPerm inOrder ⊢
  have count : (indices.zip values).length = indices.length := by
    rw [List.length_zip, length_of_mapM read, Nat.min_self]
  have perm : (sorted.map (·.2)).Perm (List.range indices.length) := by
    rw [List.range_eq_range', ← count, ← List.zipIdx_map_snd]
    exact sortedPerm.map _
  have distinct : (sorted.map (·.2)).Pairwise (· ≠ ·) := perm.nodup_iff.mpr List.nodup_range
  have entries (entry : (Int × Float) × Nat) (member : entry ∈ sorted) :=
    valueAt_of_mem_zipIdx read (sortedPerm.mem_iff.mp member)
  refine ⟨sorted.map (·.2), perm, ?_, ?_⟩
  · rw [List.map_map, List.map_map, List.map_map]
    exact List.map_congr_left fun entry member => (entries entry member).1.symm
  · refine List.pairwise_map.mpr ((inOrder.and (List.pairwise_map.mp distinct)).imp_of_mem ?_)
    intro first second firstMember secondMember both
    exact standsBefore_of_entries (entries first firstMember).2 (entries second secondMember).2
      both.2 both.1

/-- Two places never stand before each other. -/
theorem StandsBefore.asymm {first second : Nat} (before : StandsBefore arena indices first second)
    {x y : Float} (firstValue : valueAt arena indices first = some x)
    (secondValue : valueAt arena indices second = some y) :
    ¬StandsBefore arena indices second first := by
  intro behind
  cases xNumber : x.isNaN with
  | true =>
      obtain ⟨yUndefined, earlier⟩ := before.undefinedLast x firstValue y secondValue xNumber
      have later := (behind.undefinedLast y secondValue x firstValue yUndefined).2
      omega
  | false =>
      cases yNumber : y.isNaN with
      | true =>
          have xUndefined := (behind.undefinedLast y secondValue x firstValue yNumber).1
          rw [xNumber] at xUndefined
          cases xUndefined
      | false =>
          obtain ⟨below, earlier⟩ :=
            before.descending x firstValue y secondValue xNumber yNumber
          obtain ⟨above, later⟩ :=
            behind.descending y secondValue x firstValue yNumber xNumber
          rw [le_iff_places yNumber xNumber] at below
          rw [le_iff_places xNumber yNumber] at above
          have same := le_antisymm above below
          have forward := earlier ((beq_iff_places xNumber yNumber).mpr same)
          have backward := later ((beq_iff_places yNumber xNumber).mpr same.symm)
          omega

theorem DescendsStably.perm_indices (descends : DescendsStably arena indices ordered places) :
    ordered.Perm indices := by
  have whole : (List.range indices.length).map (fun place => indices[place]?) =
      indices.map some := by
    refine List.ext_getElem (by rw [List.length_map, List.length_map, List.length_range]) ?_
    intro place inside within
    rw [List.getElem_map, List.getElem_range, List.getElem_map]
    rw [List.length_map] at within
    exact List.getElem?_eq_getElem within
  have perm := descends.perm.map fun place => indices[place]?
  rw [whole, ← descends.listed] at perm
  exact (List.map_perm_map_iff (Option.some_injective Int)).mp perm

/-- There is one such order. -/
theorem DescendsStably.unique (resolves : Resolves arena.length indices)
    (descends : DescendsStably arena indices ordered places)
    (otherwise : DescendsStably arena indices others otherPlaces) : others = ordered := by
  have known (place : Nat) (member : place ∈ List.range indices.length) :
      ∃ value, valueAt arena indices place = some value := by
    have inside := List.mem_range.mp member
    obtain ⟨offset, resolved⟩ := resolves _ (List.getElem_mem inside)
    have cell := List.getElem?_eq_getElem (resolvePosition?_lt resolved)
    unfold valueAt
    rw [List.getElem?_eq_getElem inside, Option.bind_some]
    exact ⟨_, elementAt?_eq_some_iff.mpr ⟨offset, resolved, cell⟩⟩
  -- two places stand before each other only where one of them has no value
  have samePlaces : otherPlaces = places := by
    refine (otherwise.perm.trans descends.perm.symm).eq_of_pairwise ?_ otherwise.before
      descends.before
    intro first second firstMember secondMember before behind
    obtain ⟨x, firstValue⟩ := known first (otherwise.perm.mem_iff.mp firstMember)
    obtain ⟨y, secondValue⟩ := known second (descends.perm.mem_iff.mp secondMember)
    exact absurd behind (before.asymm firstValue secondValue)
  have sameListed : others.map some = ordered.map some := by
    rw [otherwise.listed, samePlaces, descends.listed]
  exact List.map_injective_iff.mpr (Option.some_injective Int) sameListed

end Places

section Keys

/-- Whether a key must stand before another one in an ascending order: the less one, and any number
before what is none. -/
def ascends (first second : Float) : Bool :=
  Scalar.less first second || (Scalar.equal first first && !Scalar.equal second second)

/-- The variables by ascending key, equal ones in the order in which they are listed. -/
def sortByKeys (indices : List Int) (keys : List Float) : List Int :=
  ((indices.zip keys).mergeSort fun first second => !ascends second.2 first.2).map (·.1)

theorem precedes_eq_ascends_neg (x y : Float) : precedes x y = ascends (-x) (-y) := by
  change (decide (y < x) || (x == x && !(y == y))) =
    (decide (-x < -y) || (-x == -x && !(-y == -y)))
  rw [beq_neg_neg, beq_neg_neg, decide_eq_decide.mpr (lt_neg_neg x y)]

/-- A descending order by values is an ascending one by negated values. -/
theorem sortByKeys_neg (indices : List Int) (values : List Float) :
    sortByKeys indices (values.map fun value => -value) =
      ((indices.zip values).mergeSort mayStandBefore).map (·.1) := by
  unfold sortByKeys
  rw [List.zip_map_right, ← List.map_mergeSort, List.map_map]
  · rfl
  · intro first _ second _
    exact congrArg not (precedes_eq_ascends_neg second.2 first.2)

end Keys

variable {model : Model Float} {indices : List Int}

/-- The order of the decisions descends: the values of the variables never increase along it, equal
values, zeros of both signs among them, keep the order in which the variables are listed, and values
that are no numbers come last in this order as well. It is the only such order, and the one in which
the negated values ascend. Nothing else is changed. -/
theorem order_descends_stably (room : model.values.length ≤ wordBound)
    (resolves : Resolves model.values.length indices) :
    ∃ ordered places, order indices model = .ok ordered model ∧ ordered.Perm indices ∧
      DescendsStably model.values indices ordered places ∧
      (∀ others otherPlaces, DescendsStably model.values indices others otherPlaces →
        others = ordered) ∧
      ∃ values, indices.mapM model.values.read = .ok values ∧
        ordered = sortByKeys indices (values.map fun value => -value) := by
  have areWords := areWords_of_resolves room resolves
  obtain ⟨values, read⟩ := mapM_read_of_resolves resolves
  obtain ⟨places, descends⟩ := exists_places read
  have words : valuesAtWords indices model = .ok values model :=
    valuesAtWords_eq_ok_iff.mpr ⟨areWords, read, rfl⟩
  refine ⟨_, places, Effect.bind_eq_ok_iff.mpr ⟨values, model, words, rfl⟩,
    descends.perm_indices, descends, ?_, values, read, (sortByKeys_neg indices values).symm⟩
  exact fun others otherPlaces => descends.unique resolves

/-- Zeros of both signs, one value, and one that is no number. -/
def signedModel : Model Float :=
  { values := [0.0, 0.0 / 0.0, 0.7, -0.0], owners := [none, none, none, none] }

theorem order_descends_stably_signed :
    signedModel.values.length ≤ wordBound ∧
      Resolves signedModel.values.length [1, 3, 0, -2, -3, -4, 2] ∧
      order [1, 3, 0, -2, -3, -4, 2] signedModel = .ok [-2, 2, 3, 0, -4, 1, -3] signedModel := by
  have room : signedModel.values.length ≤ wordBound := by decide
  have resolves : Resolves signedModel.values.length [1, 3, 0, -2, -3, -4, 2] := by
    have each : ∀ index ∈ ([1, 3, 0, -2, -3, -4, 2] : List Int),
        (resolvePosition? signedModel.values.length index).isSome = true := by decide
    exact fun index member => Option.isSome_iff_exists.mp (each index member)
  obtain ⟨ordered, places, success, _, _, only, _⟩ := order_descends_stably room resolves
  have wanted : DescendsStably signedModel.values [1, 3, 0, -2, -3, -4, 2]
      [-2, 2, 3, 0, -4, 1, -3] [3, 6, 1, 2, 5, 0, 4] := by decide +kernel
  refine ⟨room, resolves, ?_⟩
  rw [only _ _ wanted]
  exact success

end Rounding

end HingeField
