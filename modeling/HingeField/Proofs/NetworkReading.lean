import HingeField.Proofs.Encoding
import HingeField.Proofs.RealText
import HingeField.Proofs.Transcript

/-!
Reading a network text. The reader takes the text alone, line by line; from the
line with the number of rules it knows how many of the others are scopes.
Main statement: a rendered text reads as the cardinalities, the scopes and the
tables of its model, so that models with one text agree in all three.
-/

namespace HingeField.Network

section Reader

/-- The scope on a line. A line that states another size than it has is refused. -/
def readScope (line : List Char) : Option (List Nat) :=
  match Text.readNumbers line with
  | none => none
  | some [] => some []
  | some (size :: scope) => if scope.length = size then some scope else none

/-- The entries of tables of three lines each, which are empty, a count and so many entries. -/
def readTables : List (List Char) → Option (List (List String))
  | [] => some []
  | separator :: count :: entries :: rest =>
      let words := (Text.words entries).map String.ofList
      if separator = ['\n'] ∧ Text.readNumbers count = some [words.length] then
        (readTables rest).map (words :: ·)
      else none
  | _ => none

/-- The outline that lines give, unless they have other numbers of parts than they state. -/
def readLines : List (List Char) → Option Outline
  | title :: blocks :: cardinalities :: rules :: rest =>
      match Text.readNumbers blocks, Text.readNumbers cardinalities, Text.readNumbers rules with
      | some [blockCount], some cardinalities, some [ruleCount] =>
          match (rest.take ruleCount).mapM readScope, readTables (rest.drop ruleCount) with
          | some scopes, some entries =>
              if title = "MARKOV\n".toList ∧ cardinalities.length = blockCount ∧
                  scopes.length = ruleCount ∧ entries.length = ruleCount then
                some { cardinalities, scopes, entries }
              else none
          | _, _ => none
      | _, _, _ => none
  | _ => none

def read (text : String) : Option Outline :=
  readLines (Text.terminatedLines text.toList)

end Reader

section Lines

variable {outline : Outline}

/-- Every entry is a word, and there are as many tables as scopes. -/
structure Outline.IsWellFormed (outline : Outline) : Prop where
  words : ∀ entries ∈ outline.entries, ∀ entry ∈ entries, Text.IsWord entry.toList
  tablePerScope : outline.entries.length = outline.scopes.length

theorem isLine_numberLine (numbers : List Nat) : Text.IsLine (numberLine numbers) := by
  apply Text.isLine_parted
  intro word member
  obtain ⟨number, _, rfl⟩ := List.mem_map.mp member
  exact Text.isWord_toString number

theorem isLine_of_mem_entryLines {entries : List String}
    (words : ∀ entry ∈ entries, Text.IsWord entry.toList) {line : List Char}
    (member : line ∈ entryLines entries) : Text.IsLine line := by
  unfold entryLines at member
  rcases List.mem_cons.mp member with rfl | later
  · exact ⟨[], rfl, List.not_mem_nil⟩
  · rcases List.mem_cons.mp later with rfl | last
    · exact isLine_numberLine _
    · rw [List.mem_singleton.mp last]
      apply Text.isLine_spaced
      intro word listed
      obtain ⟨entry, inEntries, rfl⟩ := List.mem_map.mp listed
      exact words entry inEntries

theorem isLine_of_mem_lines (wellFormed : outline.IsWellFormed) :
    ∀ line ∈ outline.lines, Text.IsLine line := by
  intro line member
  unfold Outline.lines at member
  rcases List.mem_append.mp member with front | inTables
  · rcases List.mem_append.mp front with head | inScopes
    · simp only [List.mem_cons, List.not_mem_nil, or_false] at head
      rcases head with rfl | rfl | rfl | rfl
      · exact ⟨"MARKOV".toList, rfl, by decide⟩
      · exact isLine_numberLine _
      · exact isLine_numberLine _
      · exact isLine_numberLine _
    · obtain ⟨scope, _, rfl⟩ := List.mem_map.mp inScopes
      exact isLine_numberLine _
  · obtain ⟨entries, listed, inside⟩ := List.mem_flatMap.mp inTables
    exact isLine_of_mem_entryLines (wellFormed.words entries listed) inside

/-- Lines end in a line feed, all together as well. -/
theorem getLast?_flatten {lines : List (List Char)} (nonempty : lines ≠ [])
    (isLine : ∀ line ∈ lines, Text.IsLine line) : lines.flatten.getLast? = some '\n' := by
  obtain ⟨body, last, _⟩ := isLine (lines.getLast nonempty) (List.getLast_mem nonempty)
  rw [← List.dropLast_append_getLast nonempty, last, List.flatten_append, List.flatten_singleton,
    ← List.append_assoc, List.getLast?_concat]

theorem length_lines (wellFormed : outline.IsWellFormed) :
    outline.lines.length = 4 + 4 * outline.scopes.length := by
  have tables : (outline.entries.flatMap entryLines).length = 3 * outline.entries.length := by
    rw [List.length_flatMap]
    induction outline.entries with
    | nil => rfl
    | cons entries rest ih =>
        rw [List.map_cons, List.sum_cons, ih, List.length_cons]
        unfold entryLines
        rw [List.length_cons, List.length_cons, List.length_singleton]
        omega
  unfold Outline.lines
  rw [List.length_append, List.length_append, List.length_map, tables, wellFormed.tablePerScope]
  simp only [List.length_cons, List.length_nil]
  omega

end Lines

section Reading

variable {outline : Outline}

theorem readNumbers_numberLine (numbers : List Nat) :
    Text.readNumbers (numberLine numbers) = some numbers :=
  Text.readNumbers_parted numbers

theorem numberLine_eq_empty_iff (numbers : List Nat) : numberLine numbers = ['\n'] ↔ numbers = [] := by
  constructor
  · intro empty
    have read := readNumbers_numberLine numbers
    rw [empty] at read
    cases read
    rfl
  · rintro rfl
    rfl

theorem readScope_scopeLine (scope : List Nat) :
    readScope (numberLine (scopeNumbers scope)) = some scope := by
  unfold readScope
  rw [readNumbers_numberLine]
  cases scope with
  | nil => rfl
  | cons first rest => exact if_pos rfl

theorem mapM_readScope (scopes : List (List Nat)) :
    (scopes.map fun scope => numberLine (scopeNumbers scope)).mapM readScope = some scopes := by
  induction scopes with
  | nil => rfl
  | cons scope scopes ih =>
      rw [List.map_cons, List.mapM_cons, readScope_scopeLine, ih]
      rfl

theorem words_entryLine {entries : List String}
    (words : ∀ entry ∈ entries, Text.IsWord entry.toList) :
    (Text.words (entryLine entries)).map String.ofList = entries := by
  unfold entryLine
  rw [Text.words_spaced, List.map_map]
  · refine (List.map_congr_left fun entry _ => ?_).trans (List.map_id entries)
    exact String.ofList_toList
  · intro word listed
    obtain ⟨entry, inEntries, rfl⟩ := List.mem_map.mp listed
    exact words entry inEntries

theorem readTables_entryLines {tables : List (List String)}
    (words : ∀ entries ∈ tables, ∀ entry ∈ entries, Text.IsWord entry.toList) :
    readTables (tables.flatMap entryLines) = some tables := by
  induction tables with
  | nil => rfl
  | cons entries tables ih =>
      obtain ⟨first, others⟩ := List.forall_mem_cons.mp words
      have same := words_entryLine first
      change readTables (['\n'] :: numberLine [entries.length] :: entryLine entries ::
        tables.flatMap entryLines) = _
      unfold readTables
      dsimp only
      rw [same, if_pos ⟨rfl, readNumbers_numberLine _⟩, ih others]
      rfl

/-- The lines of an outline are read as the outline. -/
theorem readLines_lines (wellFormed : outline.IsWellFormed) :
    readLines outline.lines = some outline := by
  have scopes := mapM_readScope outline.scopes
  have tables := readTables_entryLines wellFormed.words
  have count : (outline.scopes.map fun scope => numberLine (scopeNumbers scope)).length =
      outline.scopes.length := List.length_map _
  change readLines ("MARKOV\n".toList :: numberLine [outline.cardinalities.length] ::
    numberLine outline.cardinalities :: numberLine [outline.scopes.length] ::
      (outline.scopes.map (fun scope => numberLine (scopeNumbers scope)) ++
        outline.entries.flatMap entryLines)) = _
  unfold readLines
  simp only [readNumbers_numberLine]
  rw [List.take_left' count, List.drop_left' count, scopes, tables]
  simp only [wellFormed.tablePerScope, and_self, if_true]

theorem read_of_lines (wellFormed : outline.IsWellFormed) {text : String}
    (written : text.toList = outline.lines.flatten) :
    Text.terminatedLines text.toList = outline.lines ∧ read text = some outline := by
  have lines := Text.terminatedLines_flatten (isLine_of_mem_lines wellFormed)
  rw [← written] at lines
  refine ⟨lines, ?_⟩
  unfold read
  rw [lines, readLines_lines wellFormed]

end Reading

section Outlines

variable {model : Model Float} {scopes : List (List Nat)} {tables : List PotentialTable}

theorem ofNat_toNat_cardinalities (laidOut : model.LaidOut) :
    (model.cardinalities.map Int.toNat).map Int.ofNat = model.cardinalities := by
  rw [List.map_map]
  refine (List.map_congr_left fun cardinality member => ?_).trans (List.map_id _)
  obtain ⟨block, listed, rfl⟩ := List.mem_map.mp member
  exact Int.toNat_of_nonneg (Model.cardinality_pos laidOut listed).le

theorem isWellFormed_outlineOf (found : model.rules.mapM model.scopeOf = .ok scopes)
    (built : model.rules.mapM model.table = .ok tables) :
    (outlineOf model scopes tables).IsWellFormed := by
  refine ⟨?_, ?_⟩
  · intro entries listed entry member
    obtain ⟨table, _, rfl⟩ := List.mem_map.mp listed
    obtain ⟨potential, _, rfl⟩ := List.mem_map.mp member
    exact Decimal.isWord_realText potential
  · change (tables.map _).length = scopes.length
    rw [List.length_map, length_of_mapM built, length_of_mapM found]

theorem pairwise_scope {rule : Rule Float} {scope : List Nat}
    (found : model.scopeOf rule = .ok scope) : scope.Pairwise (· < ·) := by
  have distinct := Model.nodup_scope found
  obtain ⟨owners, _, rfl⟩ := Model.scopeOf_eq_ok_iff.mp found
  have sorted : ((owners.filterMap id).eraseDups.mergeSort).Pairwise
      fun first second => decide (first ≤ second) = true :=
    List.pairwise_mergeSort (by simpa using fun _ _ _ => Nat.le_trans)
      (by simpa using Nat.le_total) _
  refine (sorted.and distinct).imp ?_
  rintro first second ⟨ordered, different⟩
  exact Nat.lt_of_le_of_ne (of_decide_eq_true ordered) different

theorem lt_of_mem_scope {scope : List Nat} {blocks : List Block}
    (found : model.blocksAt (scope.map Int.ofNat) = .ok blocks) {position : Nat}
    (member : position ∈ scope) : position < model.blocks.length := by
  obtain ⟨place, listed⟩ := List.getElem?_of_mem member
  obtain ⟨block, _, inModel⟩ := Model.getElem?_blocksAt found listed
  exact (List.getElem?_eq_some_iff.mp inModel).choose

/-- The joint assignments of a scope, counted by the cardinalities of the model. -/
theorem count_eq_prod (laidOut : model.LaidOut) {scope : List Nat} {blocks : List Block}
    (found : model.blocksAt (scope.map Int.ofNat) = .ok blocks) :
    Assignment.count (blocks.map (·.cardinality)) =
      ((scope.map fun block => (model.cardinalities.map Int.toNat).getD block 0).prod : Nat) := by
  induction scope generalizing blocks with
  | nil =>
      cases mapM_nil_eq_ok_iff.mp found
      rfl
  | cons position scope ih =>
      obtain ⟨block, others, located, foundOthers, rfl⟩ := mapM_cons_eq_ok_iff.mp found
      have inModel := Model.blockAt_natCast_eq_ok_iff.mp located
      have positive := Model.cardinality_pos laidOut (List.mem_of_getElem? inModel)
      have cardinality : (model.cardinalities.map Int.toNat).getD position 0 =
          block.cardinality.toNat := by
        rw [List.getD_eq_getElem?_getD, List.getElem?_map, Model.cardinalities, List.getElem?_map,
          inModel]
        rfl
      rw [List.map_cons, Assignment.count_cons, List.map_cons, List.prod_cons, cardinality,
        Nat.cast_mul, ih foundOthers, Int.toNat_of_nonneg positive.le]

/-- A table is over the scope on the line of its rule, and it has an entry for every joint
assignment of the blocks on this line. -/
theorem table_of_scope (laidOut : model.LaidOut)
    (found : model.rules.mapM model.scopeOf = .ok scopes)
    (built : model.rules.mapM model.table = .ok tables) {place : Nat} {scope : List Nat}
    (listed : scopes[place]? = some scope) :
    ∃ table, tables[place]? = some table ∧ table.scope = scope ∧ scope.Pairwise (· < ·) ∧
      (∀ block ∈ scope, block < model.blocks.length) ∧
      table.potentials.length = (scope.map fun block =>
        (model.cardinalities.map Int.toNat).getD block 0).prod := by
  obtain ⟨rule, inModel, scopeFound⟩ := exists_of_getElem?_mapM found listed
  obtain ⟨table, stands, tableBuilt⟩ := getElem?_of_mapM built inModel
  obtain ⟨blocks, entries, sameScope, blocksFound, cardinalities, evaluated, _, potentials⟩ :=
    Model.table_eq_ok tableBuilt
  rw [scopeFound] at sameScope
  cases sameScope
  refine ⟨table, stands, rfl, pairwise_scope scopeFound,
    fun block member => lt_of_mem_scope blocksFound member, ?_⟩
  rw [potentials, List.length_map, length_of_mapM evaluated, Assignment.all,
    Assignment.length_run, cardinalities, count_eq_prod laidOut blocksFound, Int.toNat_natCast]

theorem getElem?_lines_scope (outline : Outline) {place : Nat} {scope : List Nat}
    (listed : outline.scopes[place]? = some scope) :
    outline.lines[4 + place]? = some (numberLine (scopeNumbers scope)) := by
  have inside : place < (outline.scopes.map fun scope => numberLine (scopeNumbers scope)).length := by
    rw [List.length_map]
    exact (List.getElem?_eq_some_iff.mp listed).choose
  unfold Outline.lines
  rw [List.append_assoc, List.getElem?_append_right (Nat.le_add_right 4 place)]
  change ((_ ++ _ : List (List Char))[4 + place - 4]?) = _
  rw [Nat.add_sub_cancel_left, List.getElem?_append_left inside, List.getElem?_map, listed]
  rfl

/-- Tables with the same printed entries have the same entries. -/
theorem potentials_of_printed {others : List PotentialTable}
    (same : (others.map fun table => table.potentials.map Decimal.realText) =
      tables.map fun table => table.potentials.map Decimal.realText) :
    others.map (·.potentials) = tables.map (·.potentials) := by
  have injective : Function.Injective Decimal.realText := fun _ _ => Decimal.realText_injective
  apply (List.map_injective_iff.mpr (List.map_injective_iff.mpr injective))
  rw [List.map_map, List.map_map]
  exact same

end Outlines

section Decoding

variable {model : Model Float} {text : String} {after : Model Float}

/-- A rendered text gives back what it was rendered from. It has four lines and four more for each
rule, the numbers it states are right, and it is read as the cardinalities of the blocks, the scopes
of the rules and the printed entries of their tables. A scope is ascending, and its line is empty if
it is; its table has as many entries as it has joint assignments. Models with the same text have the
same cardinalities, scopes and entries. -/
theorem render_decodes (laidOut : model.LaidOut) (rendered : render model = .ok text after) :
    text.toList.getLast? = some '\n' ∧
      (Text.terminatedLines text.toList).length = 4 + 4 * model.rules.length ∧
      ∃ (cardinalities : List Nat) (scopes : List (List Nat)) (tables : List PotentialTable),
        cardinalities.map Int.ofNat = model.cardinalities ∧
        model.rules.mapM model.scopeOf = .ok scopes ∧
        model.rules.mapM Model.buildTable model = .ok tables model ∧
        read text = some {
          cardinalities
          scopes
          entries := tables.map fun table => table.potentials.map Decimal.realText } ∧
        (∀ scope ∈ scopes, scope.Pairwise (· < ·) ∧
          ∀ block ∈ scope, block < model.blocks.length) ∧
        (∀ (place : Nat) (scope : List Nat), scopes[place]? = some scope →
          ((Text.terminatedLines text.toList)[4 + place]? = some ['\n'] ↔ scope = [])) ∧
        (∀ (place : Nat) (scope : List Nat) (table : PotentialTable),
          scopes[place]? = some scope → tables[place]? = some table →
          table.scope = scope ∧
            table.potentials.length =
              (scope.map fun block => cardinalities.getD block 0).prod) ∧
        ∀ other otherAfter, other.LaidOut → render other = .ok text otherAfter →
          other.cardinalities = model.cardinalities ∧
            other.rules.mapM other.scopeOf = .ok scopes ∧
            ∃ others, other.rules.mapM Model.buildTable other = .ok others other ∧
              others.map (·.potentials) = tables.map (·.potentials) := by
  obtain ⟨scopes, tables, found, built, rfl, _⟩ := (render_eq_ok_iff laidOut).mp rendered
  have wellFormed := isWellFormed_outlineOf found built
  have written := toList_render laidOut found tables
  obtain ⟨lines, wasRead⟩ := read_of_lines wellFormed written
  have nonempty : (outlineOf model scopes tables).lines ≠ [] := List.cons_ne_nil _ _
  refine ⟨?_, ?_, model.cardinalities.map Int.toNat, scopes, tables, ?_, found, ?_, wasRead, ?_, ?_,
    ?_, ?_⟩
  · rw [written]
    exact getLast?_flatten nonempty (isLine_of_mem_lines wellFormed)
  · rw [lines, length_lines wellFormed]
    change 4 + 4 * scopes.length = _
    rw [length_of_mapM found]
  · exact ofNat_toNat_cardinalities laidOut
  · rw [laidOut.mapM_buildTable_eq, built]
    rfl
  · intro scope member
    obtain ⟨place, listed⟩ := List.getElem?_of_mem member
    obtain ⟨_, _, _, ascending, inside, _⟩ := table_of_scope laidOut found built listed
    exact ⟨ascending, inside⟩
  · intro place scope listed
    rw [lines, getElem?_lines_scope (outlineOf model scopes tables) listed, Option.some_inj,
      numberLine_eq_empty_iff]
    cases scope with
    | nil => exact iff_of_true rfl rfl
    | cons first rest => exact iff_of_false (List.cons_ne_nil _ _) (List.cons_ne_nil _ _)
  · intro place scope table listed stands
    obtain ⟨other, otherStands, sameScope, _, _, size⟩ :=
      table_of_scope laidOut found built listed
    rw [stands] at otherStands
    cases otherStands
    exact ⟨sameScope, size⟩
  · intro other otherAfter otherLaidOut otherRendered
    obtain ⟨otherScopes, others, otherFound, otherBuilt, sameText, _⟩ :=
      (render_eq_ok_iff otherLaidOut).mp otherRendered
    have otherWritten := toList_render otherLaidOut otherFound others
    rw [← sameText] at otherWritten
    obtain ⟨_, otherRead⟩ :=
      read_of_lines (isWellFormed_outlineOf otherFound otherBuilt) otherWritten
    rw [wasRead] at otherRead
    obtain ⟨sameCardinalities, rfl, sameEntries⟩ :=
      Outline.mk.inj (Option.some.inj otherRead)
    refine ⟨?_, otherFound, others, ?_, potentials_of_printed sameEntries.symm⟩
    · rw [← ofNat_toNat_cardinalities otherLaidOut, ← sameCardinalities,
        ofNat_toNat_cardinalities laidOut]
    · rw [otherLaidOut.mapM_buildTable_eq, otherBuilt]
      rfl

theorem mapM_scopeOf_switchModel :
    Model.switchModel.rules.mapM Model.switchModel.scopeOf = .ok [[0]] := by
  have scope : Model.switchModel.scopeOf Model.switchRule = .ok [0] :=
    Model.scopeOf_eq_ok_iff.mpr ⟨[some 0], rfl, List.mergeSort_singleton 0⟩
  exact mapM_cons_eq_ok_iff.mpr ⟨[0], [], scope, rfl, rfl⟩

theorem mapM_table_switchModel :
    Model.switchModel.rules.mapM Model.switchModel.table =
      .ok [⟨[0], [2], [-0.0, -800.0], [1.0, 0.0]⟩] := by
  have built := Model.buildTable_switchRule
  rw [Model.laidOut_switchModel.buildTable_eq] at built
  obtain ⟨table, _⟩ := Effect.ofExcept_eq_ok_iff.mp built
  exact mapM_cons_eq_ok_iff.mpr ⟨_, [], table, rfl, rfl⟩

theorem render_switchModel :
    render Model.switchModel =
      .ok "MARKOV\n1\n2\n1\n1 0\n\n2\n 1.0 0.0\n" Model.switchModel := by
  refine (render_eq_ok_iff Model.laidOut_switchModel).mpr
    ⟨_, _, mapM_scopeOf_switchModel, mapM_table_switchModel, ?_, rfl⟩
  decide +kernel

theorem render_decodes_switch :
    Model.switchModel.LaidOut ∧
      render Model.switchModel =
        .ok "MARKOV\n1\n2\n1\n1 0\n\n2\n 1.0 0.0\n" Model.switchModel ∧
      read "MARKOV\n1\n2\n1\n1 0\n\n2\n 1.0 0.0\n" = some {
        cardinalities := [2]
        scopes := [[0]]
        entries := [[Decimal.realText 1.0, Decimal.realText 0.0]] } := by
  refine ⟨Model.laidOut_switchModel, render_switchModel, ?_⟩
  obtain ⟨_, _, cardinalities, scopes, tables, sameCardinalities, found, built, wasRead, _⟩ :=
    render_decodes Model.laidOut_switchModel render_switchModel
  rw [mapM_scopeOf_switchModel] at found
  cases found
  rw [Model.laidOut_switchModel.mapM_buildTable_eq, mapM_table_switchModel] at built
  cases built
  have two : cardinalities = [2] := by
    apply List.map_injective_iff.mpr fun _ _ => Int.ofNat.inj
    exact sameCardinalities
  rw [two] at wasRead
  exact wasRead

end Decoding

end HingeField.Network
