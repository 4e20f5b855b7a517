import HingeField.Decimal.Layout
import HingeField.Decimal.Numeral
import HingeField.Proofs.Shortest
import HingeField.Proofs.Wording

/-!
Reading the text of a double. The digits on both sides of the point are one
number, and the point and the exponent say by which power of ten it is scaled.
Main statements: the text of a finite double reads as the shortest decimal in
its rounding interval, so that doubles with one text are the same; and every
text is a word, without blanks in it.
-/

namespace HingeField.Decimal

/-- What a text says about a double: the number itself, where there is one. -/
inductive Spoken where
  | notANumber
  | infinite (negative : Bool)
  | finite (negative : Bool) (magnitude : Rat)

/-- The digits before and behind the point, and the exponent, if there is one. -/
structure Parts where
  whole : List Char
  fraction : List Char
  exponent : Option Int

section Reading

def digitsNumber (digits : List Char) : Nat :=
  Nat.ofDigitChars 10 digits 0

def readExponent (text : List Char) : Int :=
  let (negative, digits) := splitSign text
  if negative then -(digitsNumber digits : Int) else digitsNumber digits

def readParts (text : List Char) : Parts :=
  let mantissa := text.takeWhile (· != 'e')
  { whole := mantissa.takeWhile (· != '.')
    fraction := (mantissa.dropWhile (· != '.')).drop 1
    exponent :=
      match text.dropWhile (· != 'e') with
      | [] => none
      | _ :: exponent => some (readExponent exponent) }

def Parts.number (parts : Parts) : Rat :=
  digitsNumber (parts.whole ++ parts.fraction) *
    (10 : Rat) ^ (parts.exponent.getD 0 - parts.fraction.length)

/-- Reads the text of a double. -/
def readReal (text : List Char) : Spoken :=
  if text = "nan".toList then .notANumber
  else
    let (negative, body) := splitSign text
    if body = "inf".toList then .infinite negative
    else .finite negative (readParts body).number

end Reading

section Parts

variable {parts : Parts}

def exponentChars (exponent : Int) : List Char :=
  (if exponent < 0 then '-' else '+') ::
    (List.replicate (2 - (Nat.toDigits 10 exponent.natAbs).length) '0' ++
      Nat.toDigits 10 exponent.natAbs)

def pointed : List Char → List Char
  | [] => []
  | fraction => '.' :: fraction

def Parts.chars (parts : Parts) : List Char :=
  parts.whole ++ pointed parts.fraction ++
    match parts.exponent with
    | none => []
    | some exponent => 'e' :: exponentChars exponent

/-- There are digits before the point and nothing but digits around it. -/
structure Parts.IsWellFormed (parts : Parts) : Prop where
  nonempty : parts.whole ≠ []
  digits : ∀ c ∈ parts.whole ++ parts.fraction, c.isDigit = true

/-- The parts of a text whose point stands some places after the left edge of the digits. -/
def partsOf (digits : List Char) (point : Int) : Parts :=
  if networkLayout.leastPositional < point ∧ point ≤ networkLayout.positionalBelow then
    if point ≤ 0 then
      { whole := ['0'], fraction := List.replicate (-point).toNat '0' ++ digits, exponent := none }
    else if digits.length ≤ point.toNat then
      { whole := digits ++ List.replicate (point.toNat - digits.length) '0', fraction := ['0']
        exponent := none }
    else
      { whole := digits.take point.toNat, fraction := digits.drop point.toNat, exponent := none }
  else { whole := digits.take 1, fraction := digits.drop 1, exponent := some (point - 1) }

theorem pointed_of_ne_nil {fraction : List Char} (nonempty : fraction ≠ []) :
    pointed fraction = '.' :: fraction := by
  cases fraction with
  | nil => exact absurd rfl nonempty
  | cons c rest => rfl

theorem exponentText_eq (exponent : Int) :
    (networkLayout.exponentText exponent).toList = 'e' :: exponentChars exponent := by
  unfold Layout.exponentText exponentChars
  simp only [networkLayout, String.toList_append, String.toList_ofList]
  split
  · rfl
  · rfl

variable {digits : List Char}

theorem magnitudeText_eq (filled : digits ≠ []) (point : Int) :
    (networkLayout.magnitudeText digits point).toList = (partsOf digits point).chars := by
  unfold Layout.magnitudeText partsOf
  by_cases positional :
      networkLayout.leastPositional < point ∧ point ≤ networkLayout.positionalBelow
  · rw [if_pos positional, if_pos positional]
    by_cases small : point ≤ 0
    · have nonempty : List.replicate (-point).toNat '0' ++ digits ≠ [] := by
        simp [filled]
      rw [if_pos small, if_pos small, Parts.chars, pointed_of_ne_nil nonempty]
      simp
    · rw [if_neg small, if_neg small]
      by_cases whole : digits.length ≤ point.toNat
      · rw [if_pos whole, if_pos whole]
        simp [Parts.chars, pointed, networkLayout]
      · have nonempty : digits.drop point.toNat ≠ [] := by
          rw [ne_eq, List.drop_eq_nil_iff]
          exact whole
        rw [if_neg whole, if_neg whole, Parts.chars, pointed_of_ne_nil nonempty]
        simp
  · rw [if_neg positional, if_neg positional]
    simp only [Parts.chars, String.toList_append, String.toList_ofList, exponentText_eq]
    cases digits.drop 1 with
    | nil => rfl
    | cons c rest => simp [pointed]

theorem digitsNumber_append (first second : List Char) :
    digitsNumber (first ++ second) =
      digitsNumber first * 10 ^ second.length + digitsNumber second := by
  unfold digitsNumber
  rw [Nat.ofDigitChars_append, Nat.ofDigitChars_eq_ofDigitChars_zero, Nat.mul_comm]

theorem digitsNumber_zeros (count : Nat) : digitsNumber (List.replicate count '0') = 0 := by
  unfold digitsNumber
  rw [Nat.ofDigitChars_replicate_zero, Nat.mul_zero]

theorem digitsNumber_zero : digitsNumber ['0'] = 0 :=
  digitsNumber_zeros 1

/-- Zeros around the digits move the point only. -/
theorem number_partsOf (filled : digits ≠ []) (point : Int) :
    (partsOf digits point).number =
      digitsNumber digits * (10 : Rat) ^ (point - digits.length) := by
  have length : 0 < digits.length := List.length_pos_iff.mpr filled
  unfold partsOf
  by_cases positional :
      networkLayout.leastPositional < point ∧ point ≤ networkLayout.positionalBelow
  · rw [if_pos positional]
    by_cases small : point ≤ 0
    · have shifted : (0 : Int) - (List.replicate (-point).toNat '0' ++ digits).length =
          point - digits.length := by
        rw [List.length_append, List.length_replicate]
        omega
      have same : digitsNumber (['0'] ++ (List.replicate (-point).toNat '0' ++ digits)) =
          digitsNumber digits := by
        rw [digitsNumber_append, digitsNumber_append, digitsNumber_zeros, digitsNumber_zero]
        omega
      rw [if_pos small, Parts.number, same, Option.getD_none, shifted]
    · rw [if_neg small]
      by_cases whole : digits.length ≤ point.toNat
      · have same : digitsNumber (digits ++ List.replicate (point.toNat - digits.length) '0' ++
            ['0']) = digitsNumber digits * 10 ^ (point.toNat - digits.length + 1) := by
          rw [digitsNumber_append, digitsNumber_append, digitsNumber_zeros, digitsNumber_zero,
            List.length_replicate, List.length_singleton, pow_succ]
          ring
        have shifted : point - digits.length =
            ((point.toNat - digits.length + 1 : Nat) : Int) + (0 - (['0'].length : Int)) := by
          rw [List.length_singleton]
          omega
        rw [if_pos whole, Parts.number, same, Option.getD_none, shifted,
          zpow_add₀ (by norm_num), zpow_natCast]
        push_cast
        ring
      · have shifted : (0 : Int) - (digits.drop point.toNat).length = point - digits.length := by
          rw [List.length_drop]
          omega
        rw [if_neg whole, Parts.number, List.take_append_drop, Option.getD_none, shifted]
  · have shifted : point - 1 - ((digits.drop 1).length : Int) = point - digits.length := by
      rw [List.length_drop]
      omega
    rw [if_neg positional, Parts.number, List.take_append_drop, Option.getD_some, shifted]

theorem isDigit_zeros (count : Nat) : ∀ c ∈ List.replicate count '0', c.isDigit = true := by
  intro c member
  rw [List.eq_of_mem_replicate member]
  rfl

theorem isWellFormed_partsOf (filled : digits ≠ [])
    (plain : ∀ c ∈ digits, c.isDigit = true) (point : Int) :
    (partsOf digits point).IsWellFormed := by
  unfold partsOf
  split
  · split
    · refine ⟨List.cons_ne_nil _ _, ?_⟩
      exact List.forall_mem_append.mpr ⟨isDigit_zeros 1,
        List.forall_mem_append.mpr ⟨isDigit_zeros _, plain⟩⟩
    · rename_i positive
      split
      · refine ⟨List.append_ne_nil_of_left_ne_nil filled _, ?_⟩
        exact List.forall_mem_append.mpr ⟨List.forall_mem_append.mpr ⟨plain, isDigit_zeros _⟩,
          isDigit_zeros 1⟩
      · refine ⟨?_, ?_⟩
        · rw [ne_eq, List.take_eq_nil_iff]
          rintro (none | empty)
          · omega
          · exact filled empty
        · rw [List.take_append_drop]
          exact plain
  · refine ⟨?_, ?_⟩
    · rw [ne_eq, List.take_eq_nil_iff]
      rintro (none | empty)
      · cases none
      · exact filled empty
    · rw [List.take_append_drop]
      exact plain

theorem readExponent_exponentChars (exponent : Int) :
    readExponent (exponentChars exponent) = exponent := by
  unfold readExponent exponentChars
  have padded : digitsNumber (List.replicate (2 - (Nat.toDigits 10 exponent.natAbs).length) '0' ++
      Nat.toDigits 10 exponent.natAbs) = exponent.natAbs := by
    rw [digitsNumber_append, digitsNumber_zeros, Nat.zero_mul, Nat.zero_add]
    exact Nat.ofDigitChars_ten_toDigits
  by_cases negative : exponent < 0
  · rw [if_pos negative]
    simp only [splitSign, padded, if_true]
    omega
  · rw [if_neg negative]
    simp only [splitSign, padded, Bool.false_eq_true, if_false]
    omega

theorem ne_of_isDigit {c other : Char} (digit : c.isDigit = true)
    (not : other.isDigit = false) : (c != other) = true := by
  rw [bne_iff_ne]
  rintro rfl
  rw [digit] at not
  cases not

theorem mantissa_chars (wellFormed : parts.IsWellFormed) :
    ∀ c ∈ parts.whole ++ pointed parts.fraction, (c != 'e') = true := by
  obtain ⟨whole, fraction⟩ := List.forall_mem_append.mp wellFormed.digits
  refine List.forall_mem_append.mpr ⟨fun c member => ne_of_isDigit (whole c member) rfl, ?_⟩
  intro c member
  cases shape : parts.fraction with
  | nil =>
      rw [shape] at member
      exact absurd member List.not_mem_nil
  | cons first rest =>
      rw [shape] at member fraction
      rcases List.mem_cons.mp member with rfl | listed
      · rfl
      · exact ne_of_isDigit (fraction c listed) rfl

theorem readParts_chars (wellFormed : parts.IsWellFormed) : readParts parts.chars = parts := by
  have mantissa := mantissa_chars wellFormed
  obtain ⟨wholeDigits, _⟩ := List.forall_mem_append.mp wellFormed.digits
  have whole : ∀ c ∈ parts.whole, (c != '.') = true :=
    fun c member => ne_of_isDigit (wholeDigits c member) rfl
  have beforePoint : (parts.whole ++ pointed parts.fraction).takeWhile (· != '.') =
      parts.whole := by
    rw [List.takeWhile_append_of_pos whole]
    cases parts.fraction with
    | nil => exact List.append_nil _
    | cons first rest => exact List.append_nil _
  have behindPoint : ((parts.whole ++ pointed parts.fraction).dropWhile (· != '.')).drop 1 =
      parts.fraction := by
    rw [List.dropWhile_append_of_pos whole]
    cases parts.fraction with
    | nil => rfl
    | cons first rest => rfl
  unfold readParts Parts.chars
  obtain ⟨wholePart, fraction, exponent⟩ := parts
  cases exponent with
  | none =>
      rw [List.takeWhile_append_of_pos mantissa, List.dropWhile_append_of_pos mantissa]
      dsimp only [List.takeWhile_nil, List.dropWhile_nil]
      rw [List.append_nil, beforePoint, behindPoint]
  | some exponent =>
      rw [List.takeWhile_append_of_pos mantissa, List.dropWhile_append_of_pos mantissa]
      have stop : ('e' :: exponentChars exponent).takeWhile (· != 'e') = [] := rfl
      have rest : ('e' :: exponentChars exponent).dropWhile (· != 'e') =
          'e' :: exponentChars exponent := rfl
      rw [stop, rest, List.append_nil]
      dsimp only
      rw [beforePoint, behindPoint, readExponent_exponentChars]

end Parts

section Digits

/-- The digits without the zeros at their end, of which there may be any number. -/
theorem toDigits_eq_append (value : Nat) :
    ∃ zeros, Nat.toDigits 10 value =
      ((Nat.toDigits 10 value).reverse.dropWhile (· == '0')).reverse ++
        List.replicate zeros '0' := by
  generalize Nat.toDigits 10 value = digits
  refine ⟨(digits.reverse.takeWhile (· == '0')).length, ?_⟩
  have dropped : digits.reverse.takeWhile (· == '0') =
      List.replicate (digits.reverse.takeWhile (· == '0')).length '0' := by
    refine List.eq_replicate_of_mem fun c member => ?_
    exact eq_of_beq (List.all_eq_true.mp List.all_takeWhile c member)
  have joined : digits.reverse.takeWhile (· == '0') ++ digits.reverse.dropWhile (· == '0') =
      digits.reverse := List.takeWhile_append_dropWhile
  rw [dropped] at joined
  have turned := congrArg List.reverse joined
  rw [List.reverse_append, List.reverse_replicate, List.reverse_reverse] at turned
  exact turned.symm

theorem significantChars_ne_nil (value : Nat) : significantChars value ≠ [] := by
  unfold significantChars
  dsimp only
  split
  · exact List.cons_ne_nil _ _
  · rename_i filled
    intro empty
    rw [empty] at filled
    exact filled rfl

theorem isDigit_significantChars (value : Nat) :
    ∀ c ∈ significantChars value, c.isDigit = true := by
  intro c member
  unfold significantChars at member
  dsimp only at member
  split at member
  · rw [List.mem_singleton.mp member]
    rfl
  · rw [List.mem_reverse] at member
    have listed := List.mem_reverse.mp ((List.dropWhile_sublist _).mem member)
    exact Nat.isDigit_of_mem_toDigits (by decide) (by decide) listed

/-- The zeros that are dropped count again as powers of ten. -/
theorem number_significantChars (digits : Digits) :
    digitsNumber (significantChars digits.value) *
        (10 : Rat) ^ ((Nat.toDigits 10 digits.value).length + digits.exponent -
          (significantChars digits.value).length) = digits.number := by
  obtain ⟨zeros, split⟩ := toDigits_eq_append digits.value
  have total : digitsNumber (Nat.toDigits 10 digits.value) = digits.value :=
    Nat.ofDigitChars_ten_toDigits
  rw [split, digitsNumber_append, digitsNumber_zeros, List.length_replicate, Nat.add_zero] at total
  unfold significantChars Digits.number
  dsimp only
  generalize ((Nat.toDigits 10 digits.value).reverse.dropWhile (· == '0')).reverse = kept at *
  cases kept with
  | nil =>
      have none : digits.value = 0 := by
        rw [← total]
        exact Nat.zero_mul _
      rw [if_pos List.isEmpty_nil, digitsNumber_zero, none, Nat.cast_zero, zero_mul, zero_mul]
  | cons first rest =>
      have shifted : ((Nat.toDigits 10 digits.value).length + digits.exponent -
          (first :: rest).length : Int) = zeros + digits.exponent := by
        rw [split, List.length_append, List.length_replicate]
        omega
      have merged : (10 : Rat) ^ ((zeros : Int) + digits.exponent) =
          10 ^ zeros * 10 ^ digits.exponent := by
        rw [zpow_add₀ (by norm_num), zpow_natCast]
      rw [if_neg (by simp), shifted, merged, ← total]
      push_cast
      ring

end Digits

section Texts

/-- What is said about a reading. -/
def Reading.spoken : Reading → Spoken
  | .notANumber => .notANumber
  | .infinite negative => .infinite negative
  | .finite negative significand exponent =>
      .finite negative (if significand = 0 then 0 else (shortest significand exponent).number)

variable {parts : Parts}

theorem head_chars (wellFormed : parts.IsWellFormed) :
    ∃ first rest, parts.chars = first :: rest ∧ first.isDigit = true := by
  obtain ⟨nonempty, digits⟩ := wellFormed
  unfold Parts.chars
  cases whole : parts.whole with
  | nil => exact absurd whole nonempty
  | cons first rest =>
      rw [whole] at digits
      rw [List.cons_append, List.cons_append]
      exact ⟨first, _, rfl, digits first List.mem_cons_self⟩

theorem splitSign_of_isDigit {first : Char} (digit : first.isDigit = true) (rest : List Char) :
    splitSign (first :: rest) = (false, first :: rest) := by
  unfold splitSign
  split
  · rename_i same
    cases same
    cases digit
  · rename_i same
    cases same
    cases digit
  · rfl

theorem readReal_signed (wellFormed : parts.IsWellFormed) (negative : Bool) :
    readReal ((if negative then "-" else "").toList ++ parts.chars) =
      .finite negative parts.number := by
  have read := readParts_chars wellFormed
  obtain ⟨first, rest, start, digit⟩ := head_chars wellFormed
  rw [start] at read ⊢
  have finite : first :: rest ≠ "inf".toList := by
    intro same
    cases same
    cases digit
  cases negative with
  | false =>
      have number : first :: rest ≠ "nan".toList := by
        intro same
        cases same
        cases digit
      change readReal (first :: rest) = _
      unfold readReal
      rw [if_neg number, splitSign_of_isDigit digit]
      dsimp only
      rw [if_neg finite, read]
  | true =>
      have number : '-' :: first :: rest ≠ "nan".toList := by
        intro same
        cases same
      change readReal ('-' :: first :: rest) = _
      unfold readReal
      have cut : splitSign ('-' :: first :: rest) = (true, first :: rest) := rfl
      rw [if_neg number, cut]
      dsimp only
      rw [if_neg finite, read]

/-- The parts of the text of a finite reading. -/
def finiteParts (significand : Nat) (exponent : Int) : Parts :=
  if significand = 0 then { whole := ['0'], fraction := ['0'], exponent := none }
  else
    let decimal := shortest significand exponent
    partsOf (significantChars decimal.value)
      ((Nat.toDigits 10 decimal.value).length + decimal.exponent)

theorem isWellFormed_finiteParts (significand : Nat) (exponent : Int) :
    (finiteParts significand exponent).IsWellFormed := by
  unfold finiteParts
  split
  · exact ⟨List.cons_ne_nil _ _, isDigit_zeros 2⟩
  · exact isWellFormed_partsOf (significantChars_ne_nil _) (isDigit_significantChars _) _

theorem number_finiteParts (significand : Nat) (exponent : Int) :
    (finiteParts significand exponent).number =
      if significand = 0 then 0 else (shortest significand exponent).number := by
  unfold finiteParts
  split
  · have zero : digitsNumber (['0'] ++ ['0']) = 0 := digitsNumber_zeros 2
    rw [Parts.number, zero, Nat.cast_zero, zero_mul]
  · dsimp only
    rw [number_partsOf (significantChars_ne_nil _), number_significantChars]

theorem text_finite (negative : Bool) (significand : Nat) (exponent : Int) :
    (networkLayout.text (.finite negative significand exponent)).toList =
      (if negative then "-" else "").toList ++ (finiteParts significand exponent).chars := by
  unfold Layout.text finiteParts
  dsimp only
  split
  · rw [String.append_assoc, String.toList_append]
    rfl
  · rw [String.toList_append, magnitudeText_eq (significantChars_ne_nil _)]

/-- A reading is read back from its text. -/
theorem readReal_text (reading : Reading) :
    readReal (networkLayout.text reading).toList = reading.spoken := by
  cases reading with
  | notANumber => rfl
  | infinite negative =>
      cases negative with
      | false => rfl
      | true => rfl
  | finite negative significand exponent =>
      rw [text_finite, readReal_signed (isWellFormed_finiteParts significand exponent),
        number_finiteParts]
      rfl

end Texts

section Blanks

theorem isBlank_of_all {text : List Char} (plain : text.all (!Text.isBlank ·) = true) :
    ∀ c ∈ text, Text.isBlank c = false := by
  intro c member
  have kept := List.all_eq_true.mp plain c member
  rwa [Bool.not_eq_true'] at kept

theorem isBlank_exponentChars (exponent : Int) :
    ∀ c ∈ exponentChars exponent, Text.isBlank c = false := by
  refine List.forall_mem_cons.mpr ⟨?_, List.forall_mem_append.mpr ⟨?_, ?_⟩⟩
  · split
    · rfl
    · rfl
  · exact fun c member => Text.isBlank_of_isDigit (isDigit_zeros _ c member)
  · exact fun c member =>
      Text.isBlank_of_isDigit (Nat.isDigit_of_mem_toDigits (by decide) (by decide) member)

theorem isBlank_chars {parts : Parts} (wellFormed : parts.IsWellFormed) :
    ∀ c ∈ parts.chars, Text.isBlank c = false := by
  obtain ⟨whole, fraction⟩ := List.forall_mem_append.mp wellFormed.digits
  refine List.forall_mem_append.mpr ⟨List.forall_mem_append.mpr ⟨?_, ?_⟩, ?_⟩
  · exact fun c member => Text.isBlank_of_isDigit (whole c member)
  · cases shape : parts.fraction with
    | nil => exact fun c member => absurd member List.not_mem_nil
    | cons first rest =>
        rw [shape] at fraction
        exact List.forall_mem_cons.mpr
          ⟨rfl, fun c member => Text.isBlank_of_isDigit (fraction c member)⟩
  · cases parts.exponent with
    | none => exact fun c member => absurd member List.not_mem_nil
    | some exponent => exact List.forall_mem_cons.mpr ⟨rfl, isBlank_exponentChars exponent⟩

/-- The text of a double is one word. -/
theorem isWord_realText (x : Float) : Text.IsWord (realText x).toList := by
  unfold realText
  cases Reading.ofFloat x with
  | notANumber => exact ⟨List.cons_ne_nil _ _, isBlank_of_all rfl⟩
  | infinite negative =>
      cases negative with
      | false => exact ⟨List.cons_ne_nil _ _, isBlank_of_all rfl⟩
      | true => exact ⟨List.cons_ne_nil _ _, isBlank_of_all rfl⟩
  | finite negative significand exponent =>
      have wellFormed := isWellFormed_finiteParts significand exponent
      obtain ⟨first, rest, start, _⟩ := head_chars wellFormed
      rw [text_finite]
      refine ⟨?_, List.forall_mem_append.mpr ⟨?_, isBlank_chars wellFormed⟩⟩
      · rw [start]
        exact List.append_ne_nil_of_right_ne_nil _ (List.cons_ne_nil _ _)
      · cases negative with
        | false => exact isBlank_of_all rfl
        | true => exact isBlank_of_all rfl

end Blanks

section Readings

/-- The readings that doubles have. -/
def Reading.IsDouble : Reading → Prop
  | .finite _ significand exponent =>
      IsCanonical significand exponent ∨ significand = 0 ∧ exponent = leastExponent
  | _ => True

theorem isDouble_ofBits (bits : UInt64) : (Reading.ofBits bits).IsDouble := by
  unfold Reading.ofBits
  dsimp only
  split
  · split
    · trivial
    · trivial
  · split
    · by_cases zero : bits.toNat % 0x10000000000000 = 0
      · exact Or.inr ⟨zero, rfl⟩
      · refine Or.inl ⟨Nat.pos_of_ne_zero zero, ?_, le_refl _, fun impossible => ?_⟩
        · unfold leastNormal
          omega
        · exact absurd impossible (lt_irrefl _)
    · refine Or.inl ⟨?_, ?_, ?_, ?_⟩
      · unfold leastNormal
        omega
      · unfold leastNormal
        omega
      · omega
      · omega

/-- The bits of a reading, in the order of the sign, the exponent and the fraction. -/
def Reading.bits : Reading → Nat
  | .notANumber => 0
  | .infinite negative => (if negative then 0x8000000000000000 else 0) + 2047 * leastNormal
  | .finite negative significand exponent =>
      (if negative then 0x8000000000000000 else 0) +
        if significand < leastNormal then significand
        else (exponent - leastExponent).toNat * leastNormal + significand

theorem bits_ofBits {bits : UInt64} (number : Reading.ofBits bits ≠ .notANumber) :
    (Reading.ofBits bits).bits = bits.toNat := by
  have bounded := bits.toNat_lt
  have sign : (if bits.toNat / 0x8000000000000000 == 1 then 0x8000000000000000 else 0) =
      bits.toNat / 0x8000000000000000 * 0x8000000000000000 := by
    split
    · rename_i one
      rw [eq_of_beq one]
    · rename_i other
      rw [beq_iff_eq] at other
      omega
  unfold Reading.ofBits at number ⊢
  dsimp only at number ⊢
  split
  · rename_i highest
    rw [if_pos highest] at number
    split
    · simp only [Reading.bits, sign, leastNormal]
      omega
    · rename_i filled
      rw [if_neg filled] at number
      exact absurd rfl number
  · split
    · have small : bits.toNat % 0x10000000000000 < leastNormal :=
        Nat.mod_lt _ (by decide)
      simp only [Reading.bits, sign, if_pos small]
      omega
    · have large : ¬leastNormal + bits.toNat % 0x10000000000000 < leastNormal := by omega
      simp only [Reading.bits, sign, if_neg large]
      unfold leastNormal
      omega

theorem number_shortest_ne_zero {significand : Nat} {exponent : Int}
    (canonical : IsCanonical significand exponent) :
    (shortest significand exponent).number ≠ 0 := by
  intro zero
  have low := (holds_shortest canonical).low
  rw [zero, zero_mul] at low
  have positive := RoundingInterval.low_around_pos canonical
  exact absurd (by exact_mod_cast low) (Nat.not_le.mpr positive)

/-- Different readings are told apart by what is said about them. -/
theorem Reading.eq_of_spoken_eq {first second : Reading} (firstDouble : first.IsDouble)
    (secondDouble : second.IsDouble) (same : first.spoken = second.spoken) : first = second := by
  cases first with
  | notANumber =>
      cases second with
      | notANumber => rfl
      | infinite negative => cases same
      | finite negative significand exponent => cases same
  | infinite negative =>
      cases second with
      | notANumber => cases same
      | infinite negative =>
          cases same
          rfl
      | finite negative significand exponent => cases same
  | finite negative significand exponent =>
      cases second with
      | notANumber => cases same
      | infinite negative => cases same
      | finite otherNegative otherSignificand otherExponent =>
          obtain ⟨rfl, sameMagnitude⟩ := Spoken.finite.inj same
          rcases firstDouble with canonical | ⟨rfl, rfl⟩
          · rw [if_neg canonical.positive.ne'] at sameMagnitude
            rcases secondDouble with otherCanonical | ⟨rfl, rfl⟩
            · rw [if_neg otherCanonical.positive.ne'] at sameMagnitude
              obtain ⟨rfl, rfl⟩ := RoundingInterval.canonical_unique canonical otherCanonical
                (holds_shortest canonical) (sameMagnitude ▸ holds_shortest otherCanonical)
              rfl
            · exact absurd sameMagnitude (number_shortest_ne_zero canonical)
          · rcases secondDouble with otherCanonical | ⟨rfl, rfl⟩
            · rw [if_neg otherCanonical.positive.ne'] at sameMagnitude
              exact absurd sameMagnitude.symm (number_shortest_ne_zero otherCanonical)
            · rfl

theorem notANumber_iff {bits : UInt64} :
    Reading.ofBits bits = .notANumber ↔
      bits.toNat / 0x10000000000000 % 2048 = 2047 ∧ bits.toNat % 0x10000000000000 ≠ 0 := by
  unfold Reading.ofBits
  dsimp only
  split
  · rename_i highest
    split
    · rename_i empty
      simp [empty]
    · rename_i filled
      simp [highest, filled]
  · rename_i lower
    split
    · simp [lower]
    · simp [lower]

/-- There is one double that is not a number. -/
theorem toBits_of_notANumber {x : Float} (unread : Reading.ofFloat x = .notANumber) :
    x.toBits.toBitVec = Float.Model.UnpackedFloat.packedNaN Float.Model.Format.binary64 := by
  obtain ⟨highest, filled⟩ := notANumber_iff.mp unread
  apply x.toModel.valid.eq_packedNaN
  · apply BitVec.eq_of_toNat_eq
    refine Eq.trans ?_ highest
    unfold Float.Model.UnpackedFloat.unpackExponent
    rw [BitVec.toNat_cast, BitVec.extractLsb_toNat, Nat.shiftRight_eq_div_pow]
    rfl
  · intro empty
    apply filled
    have low := congrArg BitVec.toNat empty
    unfold Float.Model.UnpackedFloat.unpackMantissa at low
    rw [BitVec.toNat_cast, BitVec.extractLsb_toNat, Nat.shiftRight_zero] at low
    exact low

theorem ofFloat_injective {x y : Float} (same : Reading.ofFloat x = Reading.ofFloat y) :
    x = y := by
  have sameBits : x.toBits = y.toBits := by
    by_cases number : Reading.ofFloat x = .notANumber
    · apply UInt64.toBitVec_inj.mp
      rw [toBits_of_notANumber number, toBits_of_notANumber (same ▸ number)]
    · have otherNumber : Reading.ofFloat y ≠ .notANumber := same ▸ number
      apply UInt64.toNat_inj.mp
      rw [← bits_ofBits number, ← bits_ofBits otherNumber]
      exact congrArg Reading.bits same
  obtain ⟨⟨bits, valid⟩⟩ := x
  obtain ⟨⟨otherBits, otherValid⟩⟩ := y
  change bits = otherBits at sameBits
  subst sameBits
  rfl

/-- Doubles with one text are the same. -/
theorem realText_injective {x y : Float} (same : realText x = realText y) : x = y := by
  apply ofFloat_injective
  apply Reading.eq_of_spoken_eq (isDouble_ofBits x.toBits) (isDouble_ofBits y.toBits)
  have read := congrArg (fun text => readReal text.toList) same
  exact (readReal_text _).symm.trans (read.trans (readReal_text _))

end Readings

end HingeField.Decimal
