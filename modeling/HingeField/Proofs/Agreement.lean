import HingeField.Proofs.Components
import HingeField.Proofs.Schedule

/-!
The pass of a single worker and the workers of the components. The variables
are dealt to the workers by the labels of their components, and every decision
of the single worker is one of the worker that the variable is dealt to, so
that its pass is a run of all workers. Main statements: as long as no step
fails, every interleaving ends with the arena, the committed values and the
outcome of the single worker; a pass of the single worker that succeeds is one
that no interleaving can miss; and the component by component pass is an
interleaving.
-/

namespace HingeField.Rounding

variable {α : Type} [Scalar α] {register : Register α} {tieBreak : TieBreak}

namespace Pool

section Dealing

/-- Workers that have the listed variables before them, each those of its label. -/
def dealt (model : Model α) (labels : List Int) (label : Int → Int) (listed : List Int) : Pool α :=
  { model, workers := labels.map fun key => { pending := listed.filter (label · == key) } }

variable {labels : List Int} {label : Int → Int} {index : Int} {rest : List Int} {place : Nat}

omit [Scalar α] in
theorem start_grouped (model : Model α) (label : Int → Int) {listed : List Int}
    (distinct : listed.Nodup) :
    Pool.start model ((Keyed.grouped label listed.eraseDups).map (·.2)) =
      dealt model (listed.map label).eraseDups label listed := by
  unfold start dealt Keyed.grouped
  rw [eraseDups_of_nodup distinct, List.map_map, List.map_map]
  rfl

omit [Scalar α] in
/-- The worker of the first variable has it before it. -/
theorem getElem?_dealt (model : Model α) (stands : labels[place]? = some (label index)) :
    (dealt model labels label (index :: rest)).workers[place]? =
      some { pending := index :: rest.filter (label · == label index) } := by
  unfold dealt
  rw [List.getElem?_map, stands, Option.map_some, List.filter_cons, beq_self_eq_true, if_pos rfl]

omit [Scalar α] in
/-- With its variable decided, all workers have the rest before them. -/
theorem dealt_set (model after : Model α) (distinct : labels.Nodup)
    (stands : labels[place]? = some (label index)) :
    Pool.mk after ((dealt model labels label (index :: rest)).workers.set place
        { pending := rest.filter (label · == label index) }) =
      dealt after labels label rest := by
  unfold dealt
  congr 1
  apply List.ext_getElem?
  intro other
  rw [List.getElem?_set, List.length_map, List.getElem?_map, List.getElem?_map]
  obtain ⟨small, atPlace⟩ := List.getElem?_eq_some_iff.mp stands
  by_cases same : place = other
  · subst same
    rw [if_pos rfl, if_pos small, stands, Option.map_some]
  · rw [if_neg same]
    cases found : labels[other]? with
    | none => rfl
    | some key =>
        have different : (label index == key) = false := by
          apply beq_false_of_ne
          intro equal
          rw [← equal] at found
          exact same ((List.getElem?_inj small distinct).mp (stands.trans found.symm))
        rw [Option.map_some, Option.map_some, List.filter_cons, different]
        rfl

omit [Scalar α] in
theorem finished_dealt_nil (model : Model α) (labels : List Int) (label : Int → Int) :
    (dealt model labels label []).snapshot.IsFinished := by
  intro worker member
  obtain ⟨key, _, rfl⟩ := List.mem_map.mp member
  rfl

end Dealing

section SinglePass

variable {labels : List Int} {label : Int → Int} (distinct : labels.Nodup)
include distinct

/-- The pass of the single worker is an interleaving of the workers that the variables are dealt
to. -/
theorem turns_of_decideAll {listed : List Int} {model after : Model α}
    (known : ∀ index ∈ listed, label index ∈ labels)
    (success : decideAll register tieBreak listed model = .ok () after) :
    ∃ turns, Turns register tieBreak turns (dealt model labels label listed)
      (dealt after labels label []) := by
  induction listed generalizing model with
  | nil =>
      cases success
      exact ⟨0, .none _⟩
  | cons index rest ih =>
      obtain ⟨best, middle, decided, others⟩ := decideAll_cons_eq_ok_iff.mp success
      obtain ⟨place, stands⟩ := List.getElem?_of_mem (known index List.mem_cons_self)
      obtain ⟨first, alone⟩ := turns_of_run _ (getElem?_dealt model stands)
        (Worker.run_decision_eq_ok_iff.mpr ⟨rfl, best, decided⟩)
      rw [dealt_set model middle distinct stands] at alone
      obtain ⟨second, onward⟩ :=
        ih (fun other member => known other (List.mem_cons_of_mem index member)) others
      exact ⟨first + second, alone.append onward⟩

/-- Where the workers that the variables are dealt to come to an end, the single worker does, and
the ends look alike. -/
theorem decideAll_of_turns (areLocal : ∀ index, ∀ rule ∈ register.rulesFor index, rule.IsLocal)
    {listed : List Int} {model : Model α} {turns : Nat} {finish : Snapshot α}
    (known : ∀ index ∈ listed, label index ∈ labels)
    (run : Snapshot.Turns register tieBreak turns (dealt model labels label listed).snapshot finish)
    (separate : (dealt model labels label listed).snapshot.Separate register)
    (finished : finish.IsFinished) :
    ∃ after, decideAll register tieBreak listed model = .ok () after ∧
      viewOf after = finish.view := by
  induction listed generalizing model turns with
  | nil =>
      refine ⟨model, rfl, ?_⟩
      rw [(run.eq_of_finished (finished_dealt_nil model labels label)).2]
      rfl
  | cons index rest ih =>
      obtain ⟨place, stands⟩ := List.getElem?_of_mem (known index List.mem_cons_self)
      obtain ⟨later, middle, fewer, alone, onward, stillSeparate⟩ :=
        run_of_turns areLocal (decisionSteps register index) run separate finished
          (getElem?_dealt model stands)
      obtain ⟨rfl, best, decided⟩ := Worker.run_decision_eq_ok_iff.mp alone
      rw [dealt_set model middle distinct stands] at onward stillSeparate
      obtain ⟨after, others, same⟩ :=
        ih (fun other member => known other (List.mem_cons_of_mem index member)) onward
          stillSeparate
      exact ⟨after, decideAll_cons_eq_ok_iff.mpr ⟨best, middle, decided, others⟩, same⟩

end SinglePass

section Components

variable {rules : List (Rule α)}

omit [Scalar α] in
theorem mem_rulesFor_ofList {index : Int} {rule : Rule α} :
    rule ∈ (Register.ofList rules).rulesFor index ↔ rule ∈ rules ∧ index ∈ rule.atoms := by
  rw [Register.rulesFor_ofList, List.mem_filter, List.contains_iff_mem]

omit [Scalar α] in
theorem local_of_registered (areLocal : ∀ rule ∈ rules, rule.IsLocal) (index : Int) (rule : Rule α)
    (member : rule ∈ (Register.ofList rules).rulesFor index) : rule.IsLocal :=
  areLocal rule (mem_rulesFor_ofList.mp member).1

omit [Scalar α] in
/-- Workers that have each the variables of a label are separate if the listed atoms of a rule have
one label. -/
theorem separate_dealt {model : Model α} {labels listed : List Int} {label : Int → Int}
    (distinct : labels.Nodup)
    (oneLabel : ∀ rule ∈ rules, ∀ first ∈ rule.atoms, ∀ second ∈ rule.atoms,
      first ∈ listed → second ∈ listed → label first = label second)
    (atomsInside : ∀ rule ∈ rules, ∀ atom ∈ rule.atoms, 0 ≤ atom ∧ atom < model.values.length)
    (listedInside : ∀ index ∈ listed, 0 ≤ index ∧ index < model.values.length) :
    (dealt model labels label listed).snapshot.Separate (Register.ofList rules) := by
  refine ⟨?_, ?_⟩
  · intro worker member index seen
    obtain ⟨key, _, rfl⟩ := List.mem_map.mp member
    obtain ⟨origin, pending, sight⟩ := List.mem_flatMap.mp seen
    rcases List.mem_cons.mp sight with rfl | shared
    · exact listedInside index (List.mem_filter.mp pending).1
    · obtain ⟨rule, filed, refers⟩ := List.mem_flatMap.mp shared
      exact atomsInside rule (mem_rulesFor_ofList.mp filed).1 index refers
  · intro place other worker otherWorker found otherFound different index pending seen
    simp only [snapshot, dealt, List.getElem?_map] at found otherFound
    obtain ⟨key, stands, rfl⟩ := Option.map_eq_some_iff.mp found
    obtain ⟨otherKey, otherStands, rfl⟩ := Option.map_eq_some_iff.mp otherFound
    obtain ⟨small, _⟩ := List.getElem?_eq_some_iff.mp stands
    obtain ⟨listedIndex, ofKey⟩ := List.mem_filter.mp pending
    obtain ⟨origin, otherPending, sight⟩ := List.mem_flatMap.mp seen
    obtain ⟨listedOrigin, ofOther⟩ := List.mem_filter.mp otherPending
    have sameLabel : label index = label origin := by
      rcases List.mem_cons.mp sight with rfl | shared
      · rfl
      · obtain ⟨rule, filed, refers⟩ := List.mem_flatMap.mp shared
        obtain ⟨registered, own⟩ := mem_rulesFor_ofList.mp filed
        exact oneLabel rule registered index refers origin own listedIndex listedOrigin
    have sameKey : key = otherKey := by
      rw [← eq_of_beq ofKey, ← eq_of_beq ofOther, sameLabel]
    rw [← sameKey] at otherStands
    exact different ((List.getElem?_inj small distinct).mp (stands.trans otherStands.symm))

section Interleavings

variable {listed : List Int} {model : Model α} (areLocal : ∀ rule ∈ rules, rule.IsLocal)
  (atomsInside : ∀ rule ∈ rules, ∀ atom ∈ rule.atoms, 0 ≤ atom ∧ atom < model.values.length)
  (listedInside : ∀ index ∈ listed, 0 ≤ index ∧ index < model.values.length)
  (distinct : listed.Nodup)
include atomsInside listedInside distinct

omit [Scalar α] in
/-- The workers of the components are those that the listed variables are dealt to, and they are
separate. -/
theorem exists_dealt :
    ∃ labels label, labels.Nodup ∧ (∀ index ∈ listed, label index ∈ labels) ∧
      start model ((Register.ofList rules).components listed) = dealt model labels label listed ∧
      (dealt model labels label listed).snapshot.Separate (Register.ofList rules) := by
  obtain ⟨label, components, oneLabel⟩ := (Register.ofList rules).components_eq listed
  have labelsDistinct := nodup_eraseDups (listed.map label)
  refine ⟨(listed.map label).eraseDups, label, labelsDistinct, ?_, ?_, ?_⟩
  · intro index member
    exact List.mem_eraseDups.mpr (List.mem_map_of_mem member)
  · rw [← start_grouped model label distinct, ← components]
  · rw [Register.rules_ofList] at oneLabel
    exact separate_dealt labelsDistinct oneLabel atomsInside listedInside

/-- The decisions of a pass, by one worker or by several, are a run of the workers to the end. -/
theorem interleaving_of_decideBy {workers : Int} {after : Model α}
    (success : decideBy (Register.ofList rules) tieBreak workers listed model = .ok () after) :
    ∃ turns pool, Turns (Register.ofList rules) tieBreak turns
        (start model ((Register.ofList rules).components listed)) pool ∧
      pool.IsFinished ∧ pool.model = after := by
  unfold decideBy at success
  by_cases single : workers ≤ 1
  · rw [if_pos single] at success
    obtain ⟨labels, label, labelsDistinct, known, dealing, _⟩ :=
      exists_dealt atomsInside listedInside distinct
    obtain ⟨turns, run⟩ := turns_of_decideAll labelsDistinct known success
    rw [dealing]
    exact ⟨turns, _, run, finished_dealt_nil after labels label, rfl⟩
  · rw [if_neg single] at success
    obtain ⟨turns, run⟩ := turns_of_decideComponents [] success
    exact ⟨turns, _, run, finished_idle after _, rfl⟩

include areLocal

/-- Where the workers come to an end, one worker does and several do, and the ends look alike. -/
theorem decideBy_of_interleaving (workers : Int) {turns : Nat} {pool : Pool α}
    (run : Turns (Register.ofList rules) tieBreak turns
      (start model ((Register.ofList rules).components listed)) pool)
    (finished : pool.IsFinished) :
    ∃ after, decideBy (Register.ofList rules) tieBreak workers listed model = .ok () after ∧
      viewOf after = viewOf pool.model ∧ pool.model.values.length = model.values.length := by
  have registeredLocal := local_of_registered areLocal
  obtain ⟨labels, label, labelsDistinct, known, dealing, separate⟩ :=
    exists_dealt atomsInside listedInside distinct
  have startSeparate := dealing ▸ separate
  have seen := run.snapshot startSeparate
  unfold decideBy
  by_cases single : workers ≤ 1
  · rw [if_pos single]
    rw [dealing] at seen
    obtain ⟨after, decided, same⟩ :=
      decideAll_of_turns labelsDistinct registeredLocal known seen separate finished
    exact ⟨after, decided, same, seen.length_eq⟩
  · rw [if_neg single]
    obtain ⟨after, fewer, decided, ending⟩ :=
      decideComponents_of_turns registeredLocal [] seen startSeparate finished
    have same := (ending.eq_of_finished (finished_idle after _)).2
    exact ⟨after, decided, (congrArg Snapshot.view same).symm, seen.length_eq⟩

/-- If the workers can come to an end, they do in as many turns, and whoever has variables left can
go on at any time. -/
theorem bounded_of_interleaving {bound : Nat} {finish : Pool α}
    (whole : Turns (Register.ofList rules) tieBreak bound
      (start model ((Register.ofList rules).components listed)) finish)
    (finished : finish.IsFinished) {turns : Nat} {pool : Pool α}
    (run : Turns (Register.ofList rules) tieBreak turns
      (start model ((Register.ofList rules).components listed)) pool) :
    turns ≤ bound ∧
      ∀ place worker, pool.workers[place]? = some worker → worker.pending ≠ [] →
        ∃ next, pool.turn (Register.ofList rules) tieBreak place = some next := by
  have registeredLocal := local_of_registered areLocal
  obtain ⟨labels, label, _, _, dealing, dealtSeparate⟩ :=
    exists_dealt atomsInside listedInside distinct
  have separate := dealing ▸ dealtSeparate
  obtain ⟨left, total, onward⟩ :=
    (run.snapshot separate).remaining registeredLocal (whole.snapshot separate) separate finished
  refine ⟨by omega, ?_⟩
  intro place worker found busy
  have stillSeparate := (run.snapshot separate).separate separate
  obtain ⟨next, _, taken, _⟩ := onward.advance registeredLocal stillSeparate finished found busy
  rw [← snapshot_turn stillSeparate place] at taken
  obtain ⟨nextPool, turned, _⟩ := Option.map_eq_some_iff.mp taken
  exact ⟨nextPool, turned⟩

end Interleavings

end Components

end Pool

section Agreement

variable {rules : List (Rule α)} {indices ordered : List Int} {starting : List α}
  {model prepared : Model α}

/-- The variables that a preparation orders are in the arena, each once. -/
theorem ordered_of_prepare
    (indicesInside : ∀ index ∈ indices, 0 ≤ index ∧ index < model.values.length)
    (preparation : prepare indices model = .ok (starting, ordered) prepared) :
    ordered.Nodup ∧ prepared.values.length = model.values.length ∧
      ∀ index ∈ ordered, 0 ≤ index ∧ index < model.values.length := by
  obtain ⟨softened, perm⟩ := parts_of_prepare preparation
  refine ⟨perm.nodup_iff.mpr (nodup_eraseDups indices), length_of_soften softened, ?_⟩
  intro index member
  exact indicesInside index (List.mem_eraseDups.mp (perm.mem_iff.mp member))

/-- However the workers of the components take their turns, a run of them to the end leaves the
arena and the committed values that the single worker leaves, and has its outcome; and if the single
worker succeeds, they cannot fail: no worker is ever stuck, and none goes on forever. -/
theorem interleavings_agree_with_single_worker (tieBreak : TieBreak)
    (areLocal : ∀ rule ∈ rules, rule.IsLocal)
    (atomsInside : ∀ rule ∈ rules, ∀ atom ∈ rule.atoms, 0 ≤ atom ∧ atom < model.values.length)
    (indicesInside : ∀ index ∈ indices, 0 ≤ index ∧ index < model.values.length)
    (preparation : prepare indices model = .ok (starting, ordered) prepared) :
    let register := Register.ofList rules
    let start := Pool.start prepared (register.components ordered)
    (∀ turns pool, Pool.Turns register tieBreak turns start pool → pool.IsFinished →
      ∃ outcome finish, greedy register tieBreak 1 indices model = .ok outcome finish ∧
        pool.model.values = finish.values ∧
        (∀ index, pool.model.committed.lookup index = finish.committed.lookup index) ∧
        outcomeFrom indices.eraseDups starting pool.model = .ok outcome pool.model) ∧
    (∀ outcome finish, greedy register tieBreak 1 indices model = .ok outcome finish →
      ∃ bound, ∀ turns pool, Pool.Turns register tieBreak turns start pool →
        turns ≤ bound ∧
        ∀ place worker, pool.workers[place]? = some worker → worker.pending ≠ [] →
          ∃ next, pool.turn register tieBreak place = some next) := by
  intro register start
  obtain ⟨distinct, sameLength, orderedInside⟩ := ordered_of_prepare indicesInside preparation
  rw [← sameLength] at atomsInside orderedInside
  refine ⟨?_, ?_⟩
  · intro turns pool run finished
    obtain ⟨after, decided, same, endLength⟩ :=
      Pool.decideBy_of_interleaving areLocal atomsInside orderedInside distinct 1 run finished
    have sameValues : pool.model.values = after.values := congrArg View.values same.symm
    obtain ⟨outcome, ended⟩ := outcomeFrom_of_prepare indicesInside preparation
      (endLength.trans sameLength)
    refine ⟨outcome, after, ?_, sameValues, ?_, ended pool.model rfl⟩
    · exact (greedy_eq_ok_iff preparation).mpr ⟨after, decided, ended after sameValues.symm⟩
    · intro index
      exact congrFun (congrArg View.committed same.symm) index
  · intro outcome finish success
    obtain ⟨after, decided, _⟩ := (greedy_eq_ok_iff preparation).mp success
    obtain ⟨bound, last, whole, finished, _⟩ :=
      Pool.interleaving_of_decideBy atomsInside orderedInside distinct decided
    exact ⟨bound, fun turns pool run =>
      Pool.bounded_of_interleaving areLocal atomsInside orderedInside distinct whole finished run⟩

section PairAndSingle

/-- Two clauses without a common variable. -/
def pairAndSingle : List (Rule Rat) :=
  [{ weight := 1, name := "pair", body := .clause [⟨0, true⟩, ⟨1, false⟩] false },
    { weight := 2, name := "single", body := .clause [⟨2, true⟩] false }]

def threeValues : Model Rat :=
  { values := [3 / 4, 1 / 2, 1 / 4] }

def threeSoftened : Model Rat :=
  { values := [5 / 8, 1 / 2, 3 / 8] }

/-- Where the single worker leaves them. -/
def threeRounded : Model Rat :=
  Effect.final (decideAll (Register.ofList pairAndSingle) .later [0, 1, 2] threeSoftened)

theorem prepare_threeValues :
    prepare [0, 1, 2] threeValues = .ok ([3 / 4, 1 / 2, 1 / 4], [0, 1, 2]) threeSoftened := by
  have softened : soften [0, 1, 2] threeValues = .ok () threeSoftened := by
    with_unfolding_all rfl
  have ordered : order [0, 1, 2] threeSoftened = .ok [0, 1, 2] threeSoftened := by
    have found : valuesAtWords [0, 1, 2] threeSoftened =
        .ok [5 / 8, 1 / 2, 3 / 8] threeSoftened := rfl
    unfold order
    rw [Effect.run_bind, found]
    simp only
    rw [List.mergeSort_of_pairwise (by decide +kernel)]
    rfl
  have distinct : ([0, 1, 2] : List Int).eraseDups = [0, 1, 2] := eraseDups_of_nodup (by decide)
  have starting : valuesAtBits [0, 1, 2] threeValues = .ok [3 / 4, 1 / 2, 1 / 4] threeValues := rfl
  unfold prepare
  simp only [distinct, Effect.run_bind, starting, softened, ordered, Effect.run_pure]

theorem interleavings_agree_with_single_worker_pairAndSingle :
    prepare [0, 1, 2] threeValues = .ok ([3 / 4, 1 / 2, 1 / 4], [0, 1, 2]) threeSoftened ∧
      ∃ bound, ∀ turns pool,
        Pool.Turns (Register.ofList pairAndSingle) .later turns
          (Pool.start threeSoftened ((Register.ofList pairAndSingle).components [0, 1, 2])) pool →
        turns ≤ bound ∧ (pool.IsFinished → pool.model.values = [1, 1, 1]) := by
  have areLocal : ∀ rule ∈ pairAndSingle, rule.IsLocal := by
    intro rule member custom form
    simp only [pairAndSingle, List.mem_cons, List.not_mem_nil, or_false] at member
    rcases member with rfl | rfl
    · cases form
    · cases form
  obtain ⟨agree, bounded⟩ :=
    interleavings_agree_with_single_worker .later areLocal (by decide) (by decide)
      prepare_threeValues
  have decided : decideAll (Register.ofList pairAndSingle) .later [0, 1, 2] threeSoftened =
      .ok () threeRounded :=
    Effect.eq_ok_of_succeeded (by decide +kernel)
  have rounded : threeRounded.values = [1, 1, 1] := by decide +kernel
  have words : [0, 1, 2].all isWord = true := by decide
  obtain ⟨result, ended⟩ := outcomeFrom_eq [3 / 4, 1 / 2, 1 / 4] threeRounded words
    (by rw [rounded]; decide)
  rw [← decideBy_one] at decided
  have single := (greedy_eq_ok_iff prepare_threeValues).mpr ⟨_, decided, ended _ rfl⟩
  obtain ⟨bound, within⟩ := bounded _ _ single
  refine ⟨prepare_threeValues, bound, ?_⟩
  intro turns pool run
  refine ⟨(within turns pool run).1, ?_⟩
  intro finished
  obtain ⟨outcome, finish, same, values, _⟩ := agree turns pool run finished
  cases same.symm.trans single
  exact values.trans rounded

end PairAndSingle

/-- A pass over the components by several workers is among the interleavings, so the number of
workers changes nothing but the order of the commits. -/
theorem greedy_workers_agree (areLocal : ∀ rule ∈ rules, rule.IsLocal)
    (atomsInside : ∀ rule ∈ rules, ∀ atom ∈ rule.atoms, 0 ≤ atom ∧ atom < model.values.length)
    (indicesInside : ∀ index ∈ indices, 0 ≤ index ∧ index < model.values.length)
    {workers : Int} (others : Int) {outcome : Outcome α} {finish : Model α}
    (success : greedy (Register.ofList rules) tieBreak workers indices model =
      .ok outcome finish) :
    ∃ other, greedy (Register.ofList rules) tieBreak others indices model = .ok outcome other ∧
      other.values = finish.values ∧
      ∀ index, other.committed.lookup index = finish.committed.lookup index := by
  obtain ⟨⟨starting, ordered⟩, prepared, preparation⟩ := prepare_of_greedy success
  obtain ⟨distinct, sameLength, orderedInside⟩ := ordered_of_prepare indicesInside preparation
  rw [← sameLength] at atomsInside orderedInside
  obtain ⟨after, decided, ended⟩ := (greedy_eq_ok_iff preparation).mp success
  obtain ⟨turns, pool, run, finished, rfl⟩ :=
    Pool.interleaving_of_decideBy atomsInside orderedInside distinct decided
  obtain ⟨other, otherDecided, same, endLength⟩ :=
    Pool.decideBy_of_interleaving areLocal atomsInside orderedInside distinct others run finished
  obtain ⟨result, ending⟩ := outcomeFrom_of_prepare indicesInside preparation
    (endLength.trans sameLength)
  cases ended.symm.trans (ending pool.model rfl)
  have sameValues : other.values = pool.model.values := congrArg View.values same
  refine ⟨other, ?_, sameValues, fun index => congrFun (congrArg View.committed same) index⟩
  exact (greedy_eq_ok_iff preparation).mpr ⟨other, otherDecided, ending other sameValues⟩

end Agreement

end HingeField.Rounding
