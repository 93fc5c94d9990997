import EventPipeline.Batch.Batches
import Mathlib.Data.List.Range

/-! # The pipelines of a batch

The pipelines that `BatchPipeline.execute` configures for list fields, and when they cover
the data.
-/

namespace EventPipeline

section Loop

variable {Object : Type} (interpreter : Interpreter Object) (batch : ListBatch Object)

namespace ListBatch

def tried : Nat :=
  if batch.rounds = 0 then 0
  else if batch.someTruthy interpreter then batch.rounds + 1
  else batch.rounds

theorem lt_tried_iff {round : Nat} (within : round ≤ batch.rounds) :
    round < batch.tried interpreter ↔
      round < batch.rounds ∨ round ≠ 0 ∧ batch.someTruthy interpreter = true := by
  unfold tried
  split
  · omega
  · split
    · rename_i truthy
      simp only [truthy, and_true]
      omega
    · rename_i truthy
      simp only [truthy, and_false, or_false, Bool.false_eq_true]

theorem consumed_iff (round : Nat) :
    (batch.template.getBatchFields.all fun field => (batch.left field round).isEmpty) = true ↔
      batch.rounds ≤ round := by
  rw [← Nat.not_lt, lt_rounds_iff, List.all_eq_true]
  constructor
  · rintro used ⟨field, batched, some⟩
    have more := (batch.lt_batches_iff (batch.batchSize field batched) round).mp some
    exact more (List.isEmpty_iff.mp (used field batched))
  · intro none field batched
    rw [List.isEmpty_iff]
    by_contra more
    exact none ⟨field, batched,
      (batch.lt_batches_iff (batch.batchSize field batched) round).mpr more⟩

theorem takeRound_dictAt {round : Nat} (within : round ≤ batch.rounds) :
    let kwargs := OrderedDict.update (batch.dictAt round) (batch.slices round)
    if round < batch.tried interpreter then
      if batch.accepted interpreter round then
        ∃ fields, batch.takeRound interpreter kwargs =
          .ok (batch.argumentsAt round, some ⟨batch.argumentsAt round, fields⟩)
      else
        ∃ error, batch.takeRound interpreter kwargs = .error error
    else
      ∃ rest, batch.takeRound interpreter kwargs = .ok (rest, none) := by
  intro kwargs
  rcases batch.update_dictAt interpreter round with ⟨truth, whole⟩
  have decides : (kwargs.any fun entry => entry.2.truthy interpreter) =
      decide (round < batch.tried interpreter) := by
    rw [truth, Bool.eq_iff_iff]
    simp [batch.lt_tried_iff interpreter within]
  have made := batch.init_argumentsAt interpreter round
  unfold BatchPipeline.takeRound
  rw [decides]
  by_cases trial : round < batch.tried interpreter
  · rw [if_pos trial, if_pos (decide_eq_true trial), whole]
    split at made
    · rename_i accepted
      rcases made with ⟨fields, made⟩
      rw [if_pos accepted]
      exact ⟨fields, by simp only [made]; rfl⟩
    · rename_i refused
      rcases made with ⟨error, made⟩
      rw [if_neg refused]
      exact ⟨error, by simp only [made]; rfl⟩
  · rw [if_neg trial]
    exact ⟨kwargs, if_neg (by simpa using trial)⟩

theorem configurePipelines_eq {round fuel : Nat} (within : round ≤ batch.rounds)
    (enough : batch.rounds < round + fuel) :
    ∃ pipelines error,
      batch.configurePipelines interpreter fuel
        (batch.iteratorsAt batch.template.getBatchFields round) (batch.dictAt round) =
        some (pipelines, error) ∧
      pipelines.map PipelineInstance.arguments =
        ((List.range' round (batch.tried interpreter - round)).takeWhile
          (batch.accepted interpreter)).map batch.argumentsAt := by
  induction fuel generalizing round with
  | zero => omega
  | succ fuel induction =>
      have taken := batch.takeRound_dictAt interpreter within
      have run := batch.executeRound_eq interpreter (List.Subset.refl _) round (batch.dictAt round)
      rw [← slices] at run
      simp only [BatchPipeline.configurePipelines, run]
      by_cases trial : round < batch.tried interpreter
      · have count : batch.tried interpreter - round =
            batch.tried interpreter - (round + 1) + 1 := by omega
        rw [if_pos trial] at taken
        rw [count, List.range'_succ, List.takeWhile_cons]
        split at taken
        · rename_i accepted
          rcases taken with ⟨fields, taken⟩
          rw [taken, if_pos accepted]
          by_cases last : batch.rounds ≤ round
          · have none : batch.tried interpreter - (round + 1) = 0 := by
              unfold tried
              split <;> [omega; split <;> omega]
            simp [(batch.consumed_iff round).mpr last, none]
          · rcases @induction (round + 1) (by omega) (by omega) with
              ⟨pipelines, error, ran, arguments⟩
            have more : (batch.template.getBatchFields.all fun field =>
                (batch.left field round).isEmpty) = false := by
              rw [Bool.eq_false_iff, Ne, consumed_iff]
              exact last
            rw [dictAt] at ran
            simp only [more, ran]
            exact ⟨_, _, rfl, by simp [arguments]⟩
        · rename_i refused
          rcases taken with ⟨error, taken⟩
          rw [taken, if_neg refused]
          exact ⟨[], some error, rfl, rfl⟩
      · have done : batch.rounds ≤ round := by
          by_contra more
          exact trial ((batch.lt_tried_iff interpreter within).mpr (.inl (by omega)))
        have none : batch.tried interpreter - round = 0 := by omega
        rw [if_neg trial] at taken
        rcases taken with ⟨rest, taken⟩
        rw [taken, none]
        simp [(batch.consumed_iff round).mpr done]

theorem gather_eq : batch.gatherFieldBatchIterators interpreter =
    batch.iteratorsAt batch.template.getBatchFields 0 := by
  refine List.map_congr_left fun field batched => ?_
  simp [batch.given field batched, left]

theorem execute_eq {fuel : Nat} (enough : batch.rounds < fuel) :
    ∃ pipelines raised, batch.execute interpreter fuel = some (pipelines, raised) ∧
      pipelines.map PipelineInstance.arguments =
        ((List.range (batch.tried interpreter)).takeWhile
          (batch.accepted interpreter)).map batch.argumentsAt := by
  have some : (batch.gatherFieldBatchIterators interpreter).isEmpty = false := by
    simp [BatchPipeline.gatherFieldBatchIterators, batch.someField]
  rcases batch.configurePipelines_eq interpreter (Nat.zero_le _)
    (show batch.rounds < 0 + fuel by omega) with ⟨pipelines, error, ran, arguments⟩
  rw [← gather_eq interpreter] at ran
  unfold BatchPipeline.execute
  simp only [some, Bool.false_eq_true, if_false]
  rw [show ([] : Kwargs Object) = batch.dictAt 0 from rfl, ran]
  refine ⟨_, _, rfl, ?_⟩
  rw [arguments, Nat.sub_zero, List.range_eq_range']

end ListBatch

theorem BatchPipeline.configurePipelines_mono {batch : BatchPipeline Object} {fuel : Nat}
    {iterators : BatchOpMap Object} {kwargs : Kwargs Object}
    {result : List (PipelineInstance Object) × Option BatchError}
    (ended : batch.configurePipelines interpreter fuel iterators kwargs = some result)
    (more : Nat) :
    batch.configurePipelines interpreter (fuel + more) iterators kwargs = some result := by
  induction fuel generalizing iterators kwargs result with
  | zero => cases ended
  | succ fuel induction =>
      rw [Nat.add_right_comm]
      simp only [configurePipelines] at ended ⊢
      split at ended
      · exact ended
      · split at ended
        · exact ended
        · split at ended
          · rename_i consumed
            rw [if_pos consumed]
            exact ended
          · rename_i consumed
            rw [if_neg consumed]
            rcases Option.map_eq_some_iff.mp ended with ⟨rest, ran, rfl⟩
            rw [induction ran]
            rfl

theorem BatchPipeline.execute_mono {batch : BatchPipeline Object} {fuel : Nat}
    {result : List (PipelineInstance Object) × Option BatchError}
    (executed : batch.execute interpreter fuel = some result) (more : Nat) :
    batch.execute interpreter (fuel + more) = some result := by
  by_cases none : (batch.gatherFieldBatchIterators interpreter).isEmpty = true
  · simp only [execute, none, if_true] at executed ⊢
    exact executed
  · simp only [execute, none] at executed ⊢
    rcases Option.map_eq_some_iff.mp executed with ⟨rest, ran, rfl⟩
    rw [configurePipelines_mono interpreter ran]
    rfl

theorem ListBatch.arguments_of_execute {fuel : Nat} {pipelines : List (PipelineInstance Object)}
    {raised : Option BatchError}
    (executed : batch.execute interpreter fuel = some (pipelines, raised)) :
    pipelines.map PipelineInstance.arguments =
      ((List.range (batch.tried interpreter)).takeWhile
        (batch.accepted interpreter)).map batch.argumentsAt := by
  rcases batch.execute_eq interpreter (show batch.rounds < fuel + (batch.rounds + 1) by omega)
    with ⟨others, _, longer, arguments⟩
  rw [BatchPipeline.execute_mono interpreter executed, Option.some_inj, Prod.mk.injEq] at longer
  rw [longer.1]
  exact arguments

end Loop

/-! ## Acceptance -/

section Acceptance

variable {Object : Type} (interpreter : Interpreter Object) (batch : ListBatch Object)

theorem InputDataField.accepts_slice {field : InputDataField Object}
    (list : field.dataType = [.list]) (part : List Object) :
    field.accepts interpreter (.ofSlice part) = (!part.isEmpty || !field.refusesNone) := by
  cases part with
  | nil =>
      unfold InputDataField.accepts InputDataField.set InputDataField.refusesNone
      rcases field with ⟨name, required, dataType, default, defaultFactory, batchSize⟩
      subst list
      cases default <;> cases defaultFactory <;> cases required <;> rfl
  | cons item items =>
      unfold InputDataField.accepts InputDataField.set
      simp [list, PyValue.ofSlice, PyValue.isInstance, PyValue.callable]

namespace ListBatch

/-- A round is accepted when the other fields accept their values and every batch field that
takes no `None` has data left. -/
theorem accepted_iff (round : Nat) : batch.accepted interpreter round = true ↔
    (∀ field ∈ batch.template.getNonBatchFields,
      field.accepts interpreter (batch.getattr field.name .none) = true) ∧
    ∀ field ∈ batch.template.getBatchFields, field.refusesNone = true →
      round < batch.batches field := by
  unfold accepted
  rw [List.all_eq_true]
  have sliced : ∀ field ∈ batch.template.getBatchFields,
      field.accepts interpreter (batch.slice field round) = true ↔
        (field.refusesNone = true → round < batch.batches field) := by
    intro field batched
    have positive := batch.batchSize field batched
    have sized : field.batchSize ≠ 0 := Nat.one_le_iff_ne_zero.mp positive
    rw [slice, InputDataField.accepts_slice interpreter (batch.listField field batched),
      batch.lt_batches_iff positive]
    cases field.refusesNone <;> simp [sized]
  constructor
  · intro each
    refine ⟨fun field kept => ?_, fun field batched => ?_⟩
    · rcases List.mem_filter.mp kept with ⟨member, operation⟩
      have accepts := each field member
      rwa [valueAt, if_neg (by simpa using operation)] at accepts
    · rcases List.mem_filter.mp batched with ⟨member, operation⟩
      have accepts := each field member
      rw [valueAt, if_pos operation] at accepts
      exact (sliced field batched).mp accepts
  · rintro ⟨others, lasting⟩ field member
    unfold valueAt
    split
    · rename_i operation
      have batched := List.mem_filter.mpr ⟨member, operation⟩
      exact (sliced field batched).mpr (lasting field batched)
    · rename_i operation
      exact others field (List.mem_filter.mpr ⟨member, by simpa using operation⟩)

end ListBatch

end Acceptance

/-! ## Covering -/

section Covering

variable {Object : Type}

theorem flatMap_slices (items : List Object) (size rounds : Nat) :
    ((List.range rounds).flatMap fun round => (items.drop (round * size)).take size) =
      items.take (rounds * size) := by
  induction rounds with
  | zero => simp
  | succ rounds induction =>
      rw [List.range_succ, List.flatMap_append, induction, Nat.succ_mul, List.take_add]
      simp

theorem takeWhile_range_eq {holds : Nat → Bool} {count total : Nat} (le : count ≤ total)
    (all : ∀ number < count, holds number = true)
    (stops : count = total ∨ holds count = false) :
    (List.range total).takeWhile holds = List.range count := by
  obtain ⟨rest, rfl⟩ := Nat.exists_eq_add_of_le le
  rw [List.range_add, List.takeWhile_append_of_pos fun number member =>
    all number (List.mem_range.mp member)]
  cases rest with
  | zero => simp
  | succ rest =>
      have stop : holds count = false := by
        rcases stops with same | stop
        · omega
        · exact stop
      simp [List.range_succ_eq_map, stop]

variable (interpreter : Interpreter Object) (batch : ListBatch Object)

/-- The batch has no data; or the other fields accept their values, every batch field that
takes no `None` has data in all rounds, and either none of the other values is true or a
batch field takes no `None`. -/
def Fits : Prop :=
  batch.rounds = 0 ∨
    (∀ field ∈ batch.template.getNonBatchFields,
      field.accepts interpreter (batch.getattr field.name .none) = true) ∧
    (∀ field ∈ batch.template.getBatchFields, field.refusesNone = true →
      batch.batches field = batch.rounds) ∧
    ((∀ field ∈ batch.template.getNonBatchFields,
        (batch.getattr field.name .none).truthy interpreter = false) ∨
      ∃ field ∈ batch.template.getBatchFields, field.refusesNone = true)

theorem someTruthy_eq_false_iff : batch.someTruthy interpreter = false ↔
    ∀ field ∈ batch.template.getNonBatchFields,
      (batch.getattr field.name .none).truthy interpreter = false := by
  simp [ListBatch.someTruthy, BatchPipeline.prepareArgsForNonBatchFields]

theorem fits_iff : Fits interpreter batch ↔
    (List.range (batch.tried interpreter)).takeWhile (batch.accepted interpreter) =
      List.range batch.rounds := by
  by_cases empty : batch.rounds = 0
  · simp [Fits, ListBatch.tried, empty]
  have within : batch.rounds ≤ batch.tried interpreter := by
    unfold ListBatch.tried
    split <;> [omega; split <;> omega]
  rw [Fits, or_iff_right empty, ← someTruthy_eq_false_iff]
  constructor
  · rintro ⟨others, lasting, stops⟩
    refine takeWhile_range_eq within (fun round more => ?_) ?_
    · refine (batch.accepted_iff interpreter round).mpr ⟨others, fun field batched refuses => ?_⟩
      rw [lasting field batched refuses]
      exact more
    · rcases stops with none | ⟨field, batched, refuses⟩
      · exact .inl (by simp [ListBatch.tried, empty, none])
      · right
        rw [Bool.eq_false_iff]
        intro accepted
        have more := ((batch.accepted_iff interpreter _).mp accepted).2 field batched refuses
        rw [lasting field batched refuses] at more
        exact Nat.lt_irrefl _ more
  · intro whole
    have accepted : ∀ round < batch.rounds, batch.accepted interpreter round = true := by
      intro round more
      have member := List.mem_range.mpr more
      rw [← whole] at member
      exact List.mem_takeWhile_imp member
    have first := (batch.accepted_iff interpreter 0).mp (accepted 0 (by omega))
    have last := (batch.accepted_iff interpreter (batch.rounds - 1)).mp (accepted _ (by omega))
    refine ⟨first.1, fun field batched refuses => ?_, ?_⟩
    · have few := batch.batches_le_rounds batched
      have many := last.2 field batched refuses
      omega
    · by_contra neither
      rw [not_or, Bool.not_eq_false, not_exists] at neither
      have further : batch.tried interpreter = batch.rounds + 1 := by
        simp [ListBatch.tried, empty, neither.1]
      have behind : batch.accepted interpreter batch.rounds = true := by
        refine (batch.accepted_iff interpreter _).mpr ⟨first.1, fun field batched refuses => ?_⟩
        exact absurd ⟨batched, refuses⟩ (neither.2 field)
      have more := @takeWhile_range_eq (batch.accepted interpreter) (batch.rounds + 1) _ le_rfl
        (fun round less => by
          rcases Nat.lt_succ_iff_lt_or_eq.mp less with less | rfl
          · exact accepted round less
          · exact behind) (.inl rfl)
      rw [further, more] at whole
      have lengths := congrArg List.length whole
      simp at lengths

theorem coversData_of_range {pipelines : List (PipelineInstance Object)}
    (arguments : pipelines.map PipelineInstance.arguments =
      (List.range batch.rounds).map batch.argumentsAt) : CoversData batch pipelines := by
  have sliced : ∀ round, ∀ field ∈ batch.template.getBatchFields,
      OrderedDict.get field.name (batch.argumentsAt round) = some (batch.slice field round) := by
    intro round field batched
    rcases List.mem_filter.mp batched with ⟨member, operation⟩
    rw [batch.get_argumentsAt round member, ListBatch.valueAt, if_pos operation]
  have made : ∀ pipeline ∈ pipelines, ∃ round < batch.rounds,
      pipeline.arguments = batch.argumentsAt round := by
    intro pipeline member
    have listed := List.mem_map_of_mem (f := PipelineInstance.arguments) member
    rw [arguments] at listed
    rcases List.mem_map.mp listed with ⟨round, less, same⟩
    exact ⟨round, List.mem_range.mp less, same.symm⟩
  refine ⟨?_, ?_, ?_, ?_, ?_⟩
  · simpa using congrArg List.length arguments
  · intro round pipeline found field batched
    have same := congrArg (fun list => list[round]?) arguments
    simp only [List.getElem?_map, found, Option.map_some] at same
    have inside : round < batch.rounds := by
      by_contra outside
      rw [List.getElem?_eq_none (by simpa using outside)] at same
      cases same
    rw [List.getElem?_range inside, Option.map_some, Option.some_inj] at same
    rw [same, sliced round field batched]
  · intro pipeline member field kept
    rcases List.mem_filter.mp kept with ⟨inside, operation⟩
    rcases made pipeline member with ⟨round, _, same⟩
    rw [same, batch.get_argumentsAt round inside, ListBatch.valueAt,
      if_neg (by simpa using operation)]
  · intro field batched
    have enough : (batch.input field).length ≤ batch.rounds * field.batchSize := by
      have few := batch.batches_le_rounds batched
      have used := (batch.lt_batches_iff (batch.batchSize field batched) batch.rounds).not.mp
        (Nat.not_lt.mpr few)
      exact List.drop_eq_nil_iff.mp (not_not.mp used)
    calc pipelines.flatMap (fun pipeline =>
          ((OrderedDict.get field.name pipeline.arguments).getD .none).items)
        = (pipelines.map PipelineInstance.arguments).flatMap (fun arguments =>
            ((OrderedDict.get field.name arguments).getD .none).items) := by
          rw [List.flatMap_map]
      _ = (List.range batch.rounds).flatMap (fun round => (batch.slice field round).items) := by
          rw [arguments, List.flatMap_map]
          simp only [sliced _ field batched, Option.getD_some]
      _ = (batch.input field).take (batch.rounds * field.batchSize) := by
          rw [← flatMap_slices]
          simp only [ListBatch.slice, PyValue.items_ofSlice, ListBatch.left]
      _ = batch.input field := List.take_of_length_le enough
  · intro pipeline member
    rcases made pipeline member with ⟨round, less, same⟩
    rcases (batch.lt_rounds_iff round).mp less with ⟨field, batched, more⟩
    have positive := batch.batchSize field batched
    have some := (batch.lt_batches_iff positive round).mp more
    refine ⟨field, batched, ?_⟩
    rw [same, sliced round field batched, ListBatch.slice]
    intro none
    have items := congrArg PyValue.items (Option.some_inj.mp none)
    rw [PyValue.items_ofSlice] at items
    have sized : field.batchSize ≠ 0 := Nat.one_le_iff_ne_zero.mp positive
    exact some ((List.take_eq_nil_iff.mp items).resolve_left sized)

/-- The batches cover the data exactly when nothing stands in the way of the rounds with data
and something keeps the round behind them from being made. -/
theorem batchesCover_iff : BatchesCover interpreter batch ↔ Fits interpreter batch := by
  rw [fits_iff]
  constructor
  · rintro ⟨fuel, pipelines, raised, executed, covers⟩
    have lengths := congrArg List.length (batch.arguments_of_execute interpreter executed)
    rw [List.length_map, List.length_map, covers.count] at lengths
    have shorter := List.takeWhile_prefix (batch.accepted interpreter)
      (l := List.range (batch.tried interpreter))
    have bound := shorter.length_le
    rw [← lengths, List.length_range] at bound
    rw [List.prefix_iff_eq_take.mp shorter, ← lengths, List.take_range, Nat.min_eq_left bound]
  · intro whole
    rcases batch.execute_eq interpreter (Nat.lt_succ_self batch.rounds) with
      ⟨pipelines, raised, executed, arguments⟩
    rw [whole] at arguments
    exact ⟨_, pipelines, raised, executed, coversData_of_range batch arguments⟩

end Covering

def dummyTemplate : PipelineTemplate String where
  text := "<class 'DummyPipeline'>"
  fields := [{ name := "data", dataType := [.list], batchSize := 2 },
    { name := "name", dataType := [.other "str"] }]
  nodup := by decide

def namedBatch : ListBatch String where
  template := dummyTemplate
  arguments := [("data", .list ["1", "2", "3", "4"]), ("name", .object "test")]
  input _ := ["1", "2", "3", "4"]
  someField := by decide
  listField := by decide
  batchSize := by decide
  given := by decide

/-- Three pipelines are configured for two batches. -/
theorem not_batchesCover_namedBatch : ¬BatchesCover stringInterpreter namedBatch := by
  rintro ⟨fuel, pipelines, raised, executed, covers⟩
  have lengths := congrArg List.length
    (namedBatch.arguments_of_execute stringInterpreter executed)
  rw [List.length_map, List.length_map, covers.count] at lengths
  exact absurd lengths (by decide)

end EventPipeline
