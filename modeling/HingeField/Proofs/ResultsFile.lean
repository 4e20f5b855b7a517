import HingeField.Proofs.Grammar
import HingeField.Proofs.LineEnds
import HingeField.Proofs.Rejection

/-!
Results files that are read into a model. A file is read if it holds ASCII
text, its lines are a results text, and the codes of this text name states of
the first blocks; every other file is refused as badly formed. Main statement:
after the reading each of these blocks is in the state that its code names, and
nothing else is different.
-/

namespace HingeField

namespace Model

section TrueMembers

variable {α : Type} [Scalar α]

theorem mem_trueOffsets {members : List α} {offset : Nat} :
    offset ∈ trueOffsets members ↔
      ∃ value, members[offset]? = some value ∧ Scalar.equal value Scalar.one = true :=
  mem_places_iff

theorem trueOffsets_ascending (members : List α) : (trueOffsets members).Pairwise (· < ·) :=
  places_ascending members _

end TrueMembers

section States

open Solution

theorem equal_zero_one : Scalar.equal (Scalar.zero : Float) Scalar.one = false := by decide

theorem equal_one_one : Scalar.equal (Scalar.one : Float) Scalar.one = true := by decide

theorem isDiscrete_bit {value : Float} (bit : value = Scalar.zero ∨ value = Scalar.one) :
    isDiscrete value = true := by
  rcases bit with rfl | rfl
  · decide
  · decide

variable {model : Model Float} {position : Nat} {block : Block} {code : Int}

theorem LaidOut.getElem?_members_of_state (laidOut : model.LaidOut)
    (found : model.blocks[position]? = some block) {chosen : Option Int}
    (named : block.variableFor code = .ok chosen) (inState : IsInState model position code)
    {offset : Nat} (inside : offset < block.size.toNat) :
    (block.members model.values)[offset]? =
      some (if chosen = some (block.start + offset) then Scalar.one else Scalar.zero) := by
  obtain ⟨lower, nonempty, _⟩ := laidOut.bounds found
  unfold Block.size at inside
  have within : block.start ≤ ((block.start.toNat + offset : Nat) : Int) ∧
      ((block.start.toNat + offset : Nat) : Int) < block.stop := by omega
  have cell : (block.members model.values)[_]? = _ := getElem?_members lower within
  have place : ((block.start.toNat + offset : Nat) : Int) = block.start + offset := by omega
  rw [Nat.add_sub_cancel_left] at cell
  rw [cell, inState block found _ within.1 within.2, Block.indicator_of_named named, place]

/-- In the state of a code the variable that the code switches on is the only true one. -/
theorem LaidOut.trueOffsets_of_state (laidOut : model.LaidOut)
    (found : model.blocks[position]? = some block) {chosen : Option Int}
    (named : block.variableFor code = .ok chosen)
    (within : ∀ index, chosen = some index → block.start ≤ index ∧ index < block.stop)
    (inState : IsInState model position code) :
    trueOffsets (block.members model.values) =
      (chosen.map fun index => (index - block.start).toNat).toList := by
  obtain ⟨lower, nonempty, upper⟩ := laidOut.bounds found
  have count := length_members lower nonempty upper
  have isTrue (offset : Nat) : offset ∈ trueOffsets (block.members model.values) ↔
      offset < block.size.toNat ∧ chosen = some (block.start + offset) := by
    rw [mem_trueOffsets]
    by_cases inside : offset < block.size.toNat
    · rw [laidOut.getElem?_members_of_state found named inState inside]
      by_cases here : chosen = some (block.start + offset)
      · exact iff_of_true ⟨_, if_pos here ▸ rfl, equal_one_one⟩ ⟨inside, here⟩
      · refine iff_of_false ?_ fun claimed => here claimed.2
        rintro ⟨value, same, isOne⟩
        rw [if_neg here] at same
        rw [← Option.some.inj same, equal_zero_one] at isOne
        cases isOne
    · refine iff_of_false ?_ fun claimed => inside claimed.1
      rintro ⟨value, stands, _⟩
      rw [List.getElem?_eq_none (by omega)] at stands
      cases stands
  cases chosen with
  | none =>
      apply List.eq_nil_iff_forall_not_mem.mpr
      intro offset member
      cases ((isTrue offset).mp member).2
  | some index =>
      have range := within index rfl
      apply eq_of_ascending (trueOffsets_ascending _) (List.pairwise_singleton _ _)
      intro offset
      rw [isTrue, List.mem_singleton, Option.some.injEq]
      dsimp only
      unfold Block.size
      omega

theorem LaidOut.isDiscrete_of_state (laidOut : model.LaidOut)
    (found : model.blocks[position]? = some block) {chosen : Option Int}
    (named : block.variableFor code = .ok chosen) (inState : IsInState model position code) :
    (block.members model.values).all isDiscrete = true := by
  obtain ⟨lower, nonempty, upper⟩ := laidOut.bounds found
  rw [List.all_eq_true]
  intro value member
  obtain ⟨offset, stands⟩ := List.getElem?_of_mem member
  have inside : offset < block.size.toNat := by
    rw [← length_members lower nonempty upper]
    exact (List.getElem?_eq_some_iff.mp stands).choose
  rw [laidOut.getElem?_members_of_state found named inState inside] at stands
  apply isDiscrete_bit
  rw [← Option.some.inj stands]
  split
  · exact Or.inr rfl
  · exact Or.inl rfl

theorem categoryOf_of_none (found : model.blocks[position]? = some block)
    (discrete : (block.members model.values).all isDiscrete = true)
    (none : trueOffsets (block.members model.values) = []) (allowed : block.exactlyOne = false) :
    model.categoryOf position = .ok 0 := by
  unfold categoryOf
  simp only [blockAt_natCast_eq_ok_iff.mpr found, Effect.ok_bind, none, discrete, allowed]
  rfl

theorem categoryOf_of_one (found : model.blocks[position]? = some block)
    (discrete : (block.members model.values).all isDiscrete = true) {offset : Nat}
    (one : trueOffsets (block.members model.values) = [offset]) :
    model.categoryOf position =
      .ok (if block.exactlyOne then (offset : Int) else offset + 1) := by
  unfold categoryOf
  simp only [blockAt_natCast_eq_ok_iff.mpr found, Effect.ok_bind, one, discrete]
  rfl

/-- A block in the state of one of its codes has this code. -/
theorem LaidOut.categoryOf_of_state (laidOut : model.LaidOut)
    (found : model.blocks[position]? = some block) (valid : 0 ≤ code ∧ code < block.cardinality)
    (inState : IsInState model position code) : model.categoryOf position = .ok code := by
  obtain ⟨chosen, named, within⟩ := variableFor_of_valid valid
  have offsets := laidOut.trueOffsets_of_state found named within inState
  have discrete := laidOut.isDiscrete_of_state found named inState
  unfold Block.variableFor at named
  rw [if_pos valid] at named
  have switched := Except.ok.inj named
  cases exact : block.exactlyOne with
  | true =>
      rw [exact, if_pos rfl] at switched
      subst switched
      rw [categoryOf_of_one found discrete offsets, exact, if_pos rfl]
      congr 1
      dsimp only
      omega
  | false =>
      rw [exact, if_neg Bool.false_ne_true] at switched
      by_cases first : code = 0
      · rw [if_pos first] at switched
        subst switched
        rw [categoryOf_of_none found discrete offsets exact, first]
      · rw [if_neg first] at switched
        subst switched
        rw [categoryOf_of_one found discrete offsets, exact, if_neg Bool.false_ne_true]
        congr 1
        dsimp only
        omega

end States

end Model

namespace Solution

open Model

variable {model finish : Model Float} {codes : List Int}

/-- Codes that name states of the blocks at their positions. -/
def Fits (blocks : List Block) (codes : List Int) : Prop :=
  codes.length ≤ blocks.length ∧
    ∀ (position : Nat) (block : Block) (code : Int), blocks[position]? = some block →
      codes[position]? = some code → 0 ≤ code ∧ code < block.cardinality

/-- What the reading of codes leaves: blocks in the states of their codes, and everything else as it
was. -/
structure Decoded (model : Model Float) (codes : List Int) (finish : Model Float) : Prop where
  categories : ∀ (position : Nat) (code : Int), codes[position]? = some code →
    finish.categoryOf position = .ok code
  elsewhere : ∀ offset : Nat,
    (∀ (position : Nat) (block : Block), position < codes.length →
      model.blocks[position]? = some block → ¬(block.start ≤ offset ∧ offset < block.stop)) →
    finish.values[offset]? = model.values[offset]?
  sameSize : finish.values.length = model.values.length
  unchanged : finish = { model with values := finish.values }

section Application

theorem accepted_eq_self_iff {blocks : List Block} (few : codes.length ≤ blocks.length) :
    accepted blocks codes = codes ↔ Fits blocks codes := by
  induction codes generalizing blocks with
  | nil =>
      refine iff_of_true ?_ ⟨few, ?_⟩
      · cases blocks with
        | nil => rfl
        | cons => rfl
      · intro position block code _ impossible
        cases impossible
  | cons code codes ih =>
      cases blocks with
      | nil => cases few
      | cons block blocks =>
          rw [List.length_cons, List.length_cons] at few
          have fewer : codes.length ≤ blocks.length := by omega
          unfold accepted
          constructor
          · intro same
            by_cases valid : 0 ≤ code ∧ code < block.cardinality
            · rw [if_pos valid] at same
              obtain ⟨_, others⟩ := (ih fewer).mp (List.cons.inj same).2
              refine ⟨by rw [List.length_cons, List.length_cons]; omega, ?_⟩
              intro position other otherCode found listed
              cases position with
              | zero =>
                  cases found
                  cases listed
                  exact valid
              | succ position => exact others position other otherCode found listed
            · rw [if_neg valid] at same
              cases same
          · rintro ⟨_, valid⟩
            rw [if_pos (valid 0 block code rfl rfl)]
            refine congrArg (code :: ·) ((ih fewer).mpr ⟨fewer, ?_⟩)
            intro position other otherCode found listed
            exact valid (position + 1) other otherCode found listed

/-- Codes are applied if they fit, and this settles their blocks. -/
theorem apply_eq_ok_iff (laidOut : model.LaidOut) :
    apply codes model = .ok () finish ↔
      Fits model.blocks codes ∧ finish = model.settle (Choice.ofCodes codes) := by
  by_cases few : codes.length ≤ model.blocks.length
  · obtain ⟨ending, applied, success⟩ := apply_eq laidOut few
    rw [applied, Effect.ofExcept_eq_ok_iff, success, accepted_eq_self_iff few]
    constructor
    · rintro ⟨fits, same⟩
      rw [(accepted_eq_self_iff few).mpr fits] at same
      exact ⟨fits, same⟩
    · rintro ⟨fits, same⟩
      rw [(accepted_eq_self_iff few).mpr fits]
      exact ⟨fits, same⟩
  · obtain ⟨defect, refused⟩ := apply_of_many (Nat.lt_of_not_le few)
    rw [refused]
    constructor
    · intro impossible
      cases impossible
    · rintro ⟨fits, _⟩
      exact absurd fits.1 few

theorem keeps_laidOut_applyCode (position : Nat) (code : Int) {blocks : List Block}
    (inside : position < blocks.length) :
    Effect.Keeps (fun model : Model Float => model.LaidOut ∧ model.blocks = blocks)
      (applyCode position code) := by
  rintro start ⟨laidOut, rfl⟩
  rcases applyCode_eq laidOut (List.getElem?_eq_getElem inside) code with
    ⟨_, _, applied⟩ | ⟨_, defect, refused⟩
  · rw [applied]
    exact ⟨laidOut_settle laidOut _, rfl⟩
  · rw [refused]
    exact ⟨laidOut, rfl⟩

theorem format_of_apply_error (laidOut : model.LaidOut) {fault : Fault}
    (failure : apply codes model = .error fault finish) : ∃ defect, fault = .format defect := by
  by_cases few : codes.length ≤ model.blocks.length
  · have inside (position : Nat) (code : Int) (member : (code, position) ∈ codes.zipIdx) :
        position < model.blocks.length := by
      have below := (List.mem_zipIdx member).2.1
      omega
    unfold apply at failure
    simp only [Effect.run_bind, Effect.run_get] at failure
    rw [if_neg (by omega)] at failure
    obtain ⟨⟨code, position⟩, member, middle, ⟨stillLaidOut, sameBlocks⟩, failed⟩ :=
      Effect.error_of_forM
        (fun item listed => keeps_laidOut_applyCode item.2 item.1 (inside item.2 item.1 listed))
        ⟨laidOut, rfl⟩ failure
    have here : position < middle.blocks.length := by
      rw [sameBlocks]
      exact inside position code member
    rcases applyCode_eq stillLaidOut (List.getElem?_eq_getElem here) code with
      ⟨_, _, applied⟩ | ⟨_, defect, refused⟩
    · cases applied.symm.trans failed
    · cases refused.symm.trans failed
      exact ⟨defect, rfl⟩
  · obtain ⟨defect, refused⟩ := apply_of_many (Nat.lt_of_not_le few)
    cases refused.symm.trans failure
    exact ⟨defect, rfl⟩

theorem decoded_settle (laidOut : model.LaidOut) (fits : Fits model.blocks codes) :
    Decoded model codes (model.settle (Choice.ofCodes codes)) := by
  refine ⟨?_, ?_, length_settled model _, rfl⟩
  · intro position code listed
    have coded : Choice.ofCodes codes position = some code := listed
    obtain ⟨small, _⟩ := List.getElem?_eq_some_iff.mp listed
    have found := List.getElem?_eq_getElem (Nat.lt_of_lt_of_le small fits.1)
    refine (laidOut_settle laidOut _).categoryOf_of_state found
      (fits.2 position _ code found listed) ?_
    intro block sameBlock offset lower upper
    cases found.symm.trans sameBlock
    obtain ⟨_, _, bound⟩ := laidOut.bounds found
    have cell : offset < model.values.length := by omega
    change (model.settled _)[offset]? = _
    rw [getElem?_settled, laidOut.chosenAt_inside found ⟨lower, upper⟩,
      List.getElem?_eq_getElem cell, coded]
    rfl
  · intro offset outside
    change (model.settled _)[offset]? = _
    rw [getElem?_settled]
    cases owner : (model.owners[offset]?).join with
    | none =>
        rw [chosenAt_eq_none_of_free owner]
        exact Option.map_id'
    | some position =>
        obtain ⟨block, found, within⟩ := laidOut.block_of_owner owner
        have uncoded : Choice.ofCodes codes position = none := by
          apply List.getElem?_eq_none
          apply Nat.le_of_not_lt
          intro coded
          exact outside position block coded found within
        rw [chosenAt_of_owner owner found, uncoded]
        exact Option.map_id'

end Application

section Bytes

variable {bytes : List UInt8} {task : String}

/-- The text of bytes, each of them a character. -/
def textOf (bytes : List UInt8) : List Char :=
  bytes.map fun byte => Char.ofNat byte.toNat

/-- What a results file has to hold to be read with the given codes. -/
def Holds (bytes : List UInt8) (task : String) (codes : List Int) : Prop :=
  (∀ byte ∈ bytes, byte < 128) ∧
    ∃ lines, Text.HasLines (textOf bytes) lines ∧
      Results.parse (lines.map String.ofList) task = .ok codes

theorem asciiText_of_ascii (ascii : ∀ byte ∈ bytes, byte < 128) :
    asciiText bytes = .ok (textOf bytes) := by
  have whole : bytes.takeWhile (· < 128) = bytes :=
    List.takeWhile_eq_self_iff.mpr fun byte member => decide_eq_true (ascii byte member)
  unfold asciiText
  simp only [whole, List.drop_length]
  rfl

theorem asciiText_of_other (other : ¬∀ byte ∈ bytes, byte < 128) :
    ∃ defect, asciiText bytes = .error (.format defect) := by
  unfold asciiText
  cases rest : bytes.drop (bytes.takeWhile (· < 128)).length with
  | nil =>
      have whole : bytes.takeWhile (· < 128) = bytes :=
        (List.takeWhile_prefix _).eq_of_length_le (List.drop_eq_nil_iff.mp rest)
      refine absurd ?_ other
      intro byte member
      rw [← whole] at member
      have isAscii := List.mem_takeWhile_imp member
      exact of_decide_eq_true isAscii
  | cons byte rest =>
      simp only [rest]
      exact ⟨_, rfl⟩

theorem codesOfBytes_eq_ok_iff : codesOfBytes bytes task = .ok codes ↔ Holds bytes task codes := by
  unfold codesOfBytes Holds
  by_cases ascii : ∀ byte ∈ bytes, byte < 128
  · rw [asciiText_of_ascii ascii, Effect.ok_bind]
    constructor
    · intro parsed
      exact ⟨ascii, _, Text.hasLines_iff.mpr rfl, parsed⟩
    · rintro ⟨_, lines, hasLines, parsed⟩
      rw [Text.hasLines_iff.mp hasLines]
      exact parsed
  · obtain ⟨defect, refused⟩ := asciiText_of_other ascii
    rw [refused, Effect.error_bind]
    constructor
    · intro impossible
      cases impossible
    · rintro ⟨claimed, _⟩
      exact absurd claimed ascii

theorem format_of_codesOfBytes_error {fault : Fault}
    (failure : codesOfBytes bytes task = .error fault) : ∃ defect, fault = .format defect := by
  unfold codesOfBytes at failure
  by_cases ascii : ∀ byte ∈ bytes, byte < 128
  · rw [asciiText_of_ascii ascii, Effect.ok_bind] at failure
    rcases Results.parse_ok_or_format
      ((Text.terminatedLines (Text.unifyLineEnds (textOf bytes))).map String.ofList) task with
      ⟨codes, parsed⟩ | ⟨defect, refused⟩
    · cases parsed.symm.trans failure
    · cases refused.symm.trans failure
      exact ⟨defect, rfl⟩
  · obtain ⟨defect, refused⟩ := asciiText_of_other ascii
    rw [refused] at failure
    cases failure
    exact ⟨defect, rfl⟩

theorem readBytes_eq (bytes : List UInt8) (task : String) :
    readBytes bytes task =
      (Effect.ofExcept (codesOfBytes bytes task) >>= fun codes => apply codes >>= fun _ =>
        pure codes) := by
  unfold readBytes read codesOfBytes
  cases asciiText bytes with
  | error fault => rfl
  | ok text => rfl

theorem readBytes_eq_ok_iff (laidOut : model.LaidOut) :
    readBytes bytes task model = .ok codes finish ↔
      Holds bytes task codes ∧ Fits model.blocks codes ∧
        finish = model.settle (Choice.ofCodes codes) := by
  rw [readBytes_eq, Effect.bind_eq_ok_iff]
  constructor
  · rintro ⟨read, start, reading, applying⟩
    obtain ⟨parsed, rfl⟩ := Effect.ofExcept_eq_ok_iff.mp reading
    obtain ⟨_, after, applied, ended⟩ := Effect.bind_eq_ok_iff.mp applying
    cases ended
    exact ⟨codesOfBytes_eq_ok_iff.mp parsed, (apply_eq_ok_iff laidOut).mp applied⟩
  · rintro ⟨holds, applicable⟩
    exact ⟨codes, model, Effect.ofExcept_eq_ok_iff.mpr ⟨codesOfBytes_eq_ok_iff.mpr holds, rfl⟩,
      Effect.bind_eq_ok_iff.mpr ⟨(), finish, (apply_eq_ok_iff laidOut).mpr applicable, rfl⟩⟩

theorem format_of_readBytes_error (laidOut : model.LaidOut) {fault : Fault}
    (failure : readBytes bytes task model = .error fault finish) :
    ∃ defect, fault = .format defect := by
  rw [readBytes_eq] at failure
  rcases Effect.bind_eq_error_iff.mp failure with unread | ⟨codes, start, parsed, later⟩
  · cases decoded : codesOfBytes bytes task with
    | ok codes =>
        rw [decoded] at unread
        cases unread
    | error fault =>
        rw [decoded] at unread
        cases unread
        exact format_of_codesOfBytes_error decoded
  · obtain ⟨_, rfl⟩ := Effect.ofExcept_eq_ok_iff.mp parsed
    rcases Effect.bind_eq_error_iff.mp later with refused | ⟨_, _, _, impossible⟩
    · exact format_of_apply_error laidOut refused
    · cases impossible

end Bytes

/-- A file is read exactly if it holds codes that fit, and every other one is badly formed. What is
read are its codes, and it leaves the blocks in their states and everything else as it was. -/
theorem results_file_is_read_or_refused (laidOut : model.LaidOut) (bytes : List UInt8)
    (task : String) :
    ((∃ codes finish, readBytes bytes task model = .ok codes finish) ↔
        ∃ codes, Holds bytes task codes ∧ Fits model.blocks codes) ∧
      ((∃ codes finish, readBytes bytes task model = .ok codes finish) ∨
        ∃ defect finish, readBytes bytes task model = .error (.format defect) finish) ∧
      ∀ codes finish, readBytes bytes task model = .ok codes finish →
        Holds bytes task codes ∧ Decoded model codes finish := by
  refine ⟨?_, ?_, ?_⟩
  · constructor
    · rintro ⟨codes, finish, success⟩
      obtain ⟨holds, fits, _⟩ := (readBytes_eq_ok_iff laidOut).mp success
      exact ⟨codes, holds, fits⟩
    · rintro ⟨codes, holds, fits⟩
      exact ⟨codes, _, (readBytes_eq_ok_iff laidOut).mpr ⟨holds, fits, rfl⟩⟩
  · cases ended : readBytes bytes task model with
    | ok codes finish => exact Or.inl ⟨codes, finish, rfl⟩
    | error fault finish =>
        obtain ⟨defect, rfl⟩ := format_of_readBytes_error laidOut ended
        exact Or.inr ⟨defect, finish, rfl⟩
  · intro codes finish success
    obtain ⟨holds, fits, rfl⟩ := (readBytes_eq_ok_iff laidOut).mp success
    exact ⟨holds, decoded_settle laidOut fits⟩

section Reading

/-- Two blocks with a free variable before each of them. -/
def blocksApart : Model Float :=
  { values := [0.25, 0.5, 0.5, 0.75, 1.0]
    owners := [none, some 0, some 0, none, some 1]
    blocks := [⟨1, 3, true⟩, ⟨4, 5, false⟩] }

theorem laidOut_blocksApart : blocksApart.LaidOut := by
  have free := laidOut_empty.grow_free [(0.25 : Float)]
  have first := free.grow_block (List.cons_ne_nil (0.5 : Float) [0.5]) true
  have second := (first.grow_free [0.75]).grow_block (List.cons_ne_nil (1.0 : Float) []) false
  exact second.of_sameLayout rfl rfl rfl

/-- A solution with fewer codes than blocks; each of its lines ends in another way. -/
def shortFile : List UInt8 :=
  "MPE\r\n1\r1 1\n".toList.map fun c => UInt8.ofNat c.toNat

theorem codesOfBytes_shortFile : codesOfBytes shortFile "MPE" = .ok [1] := by
  have text : asciiText shortFile = .ok "MPE\r\n1\r1 1\n".toList := by rfl
  have lines : (Text.terminatedLines (Text.unifyLineEnds "MPE\r\n1\r1 1\n".toList)).map
      String.ofList = ["MPE\n", "1\n", "1 1\n"] := by rfl
  unfold codesOfBytes
  rw [text, Effect.ok_bind, lines]
  rfl

theorem results_file_is_read_or_refused_shortFile :
    blocksApart.LaidOut ∧
      ∃ finish, readBytes shortFile "MPE" blocksApart = .ok [1] finish ∧
        finish.values = [0.25, 0.0, 1.0, 0.75, 1.0] ∧ Decoded blocksApart [1] finish := by
  have success : readBytes shortFile "MPE" blocksApart =
      .ok [1] { blocksApart with values := [0.25, 0.0, 1.0, 0.75, 1.0] } := by
    rw [readBytes_eq, codesOfBytes_shortFile]
    rfl
  exact ⟨laidOut_blocksApart, _, success, rfl,
    ((results_file_is_read_or_refused laidOut_blocksApart _ _).2.2 _ _ success).2⟩

end Reading

end Solution

end HingeField
