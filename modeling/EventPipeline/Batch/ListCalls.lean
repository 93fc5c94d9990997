import EventPipeline.Batch.Repeated

/-! # Calls on list fields

For fields of lists and tuples the first call on a batch is the call of `execute` on a new
batch. With list fields only, no call configures a pipeline exactly when the template refuses
the arguments of the first round.
-/

namespace EventPipeline

section Lists

variable {Object : Type} (interpreter : Interpreter Object)

theorem slicesOf_nil {size : Nat} (positive : 1 ≤ size) :
    slicesOf size ([] : List Object) = [] := by
  have none : (0 + size - 1) / size = 0 := Nat.div_eq_of_lt (by omega)
  rw [slicesOf, List.length_nil, none]
  rfl

theorem slicesOf_of_ne_nil {size : Nat} (positive : 1 ≤ size) {items : List Object}
    (some : items ≠ []) :
    slicesOf size items = items.take size :: slicesOf size (items.drop size) := by
  have length := List.length_pos_iff.mpr some
  have one : ∀ total, size ≤ total → total < size + size → total / size = 1 :=
    fun total least most => Nat.div_eq_of_lt_le (by omega) (by omega)
  have count : (items.length + size - 1) / size =
      ((items.drop size).length + size - 1) / size + 1 := by
    rw [List.length_drop, ← Nat.add_div_right _ positive]
    by_cases short : items.length ≤ size
    · have whole : items.length - size = 0 := Nat.sub_eq_zero_of_le short
      rw [whole, one _ (by omega) (by omega), one _ (by omega) (by omega)]
    · congr 1
      omega
  rw [slicesOf, count, List.range_succ_eq_map, List.map_cons, List.map_map, slicesOf]
  refine congrArg₂ List.cons (by simp) (List.map_congr_left fun round _ => ?_)
  simp only [Function.comp_apply, List.drop_drop, Nat.succ_mul, Nat.add_comm size]

def operationsFor (iterators : BatchOpMap Object) : List (FieldOperation Object) :=
  iterators.map fun entry => ⟨entry.1, listYields entry.2.batchSize entry.2.source⟩

/-- All iterators have a batch size that `batched` takes. -/
def Sized (iterators : BatchOpMap Object) : Prop :=
  ∀ entry ∈ iterators, 1 ≤ entry.2.batchSize

theorem nextArgument_operationsFor (field : InputDataField Object)
    (iterator : BatchIterator Object) (sized : 1 ≤ iterator.batchSize) :
    (∃ error, iterator.next = .error error ∧
      ((listProcessing interpreter).nextArgument
        ⟨field, listYields iterator.batchSize iterator.source⟩).1 = .error error) ∨
    ∃ batch next, iterator.next = .ok (batch, next) ∧ next.batchSize = iterator.batchSize ∧
      (listProcessing interpreter).nextArgument
          ⟨field, listYields iterator.batchSize iterator.source⟩ =
        ((convertValueToFieldDataType interpreter field batch).map (Prod.mk batch.isNone),
          ⟨field, listYields next.batchSize next.source⟩) := by
  rcases iterator with ⟨error | items, size⟩
  · exact .inl ⟨error, rfl, rfl⟩
  · have positive : size ≠ 0 := Nat.one_le_iff_ne_zero.mp sized
    refine .inr ?_
    cases items with
    | nil =>
        refine ⟨none, ⟨.ok [], size⟩, ?_, rfl, ?_⟩
        · simp [BatchIterator.next, bind, Except.bind, pure, Except.pure]
        · simp [BatchProcessing.nextArgument, FieldOperation.next, listYields, positive,
            slicesOf_nil sized, Except.bind, BatchProcessing.convertValue, Except.map,
            convertValueToFieldDataType]
    | cons item rest =>
        obtain ⟨fewer, rfl⟩ := Nat.exists_eq_add_of_le' sized
        refine ⟨some (item :: rest.take fewer), ⟨.ok (rest.drop fewer), fewer + 1⟩, ?_, rfl, ?_⟩
        · simp [BatchIterator.next, bind, Except.bind, pure, Except.pure]
        · simp [BatchProcessing.nextArgument, FieldOperation.next, listYields,
            slicesOf_of_ne_nil sized, Except.bind, BatchProcessing.convertValue, listProcessing]

theorem executeRound_operationsFor (iterators : BatchOpMap Object) (sized : Sized iterators)
    (kwargs : Kwargs Object) :
    (∃ error, executeRound interpreter iterators kwargs = .error error ∧
      ((listProcessing interpreter).executeRound (operationsFor iterators) kwargs).2 =
        .error error) ∨
    ∃ next values consumed,
      executeRound interpreter iterators kwargs = .ok (next, values, consumed) ∧ Sized next ∧
      (listProcessing interpreter).executeRound (operationsFor iterators) kwargs =
        (operationsFor next, .ok (values, consumed)) := by
  induction iterators generalizing kwargs with
  | nil => exact .inr ⟨[], kwargs, true, rfl, sized, rfl⟩
  | cons entry rest induction =>
      rcases entry with ⟨field, iterator⟩
      have first := sized (field, iterator) List.mem_cons_self
      have others : Sized rest := fun entry member => sized entry (List.mem_cons_of_mem _ member)
      rcases nextArgument_operationsFor interpreter field iterator first with
        ⟨error, raised, step⟩ | ⟨batch, next, yielded, same, step⟩
      · refine .inl ⟨error, by simp only [executeRound, raised]; rfl, ?_⟩
        rcases argument : (listProcessing interpreter).nextArgument
          ⟨field, listYields iterator.batchSize iterator.source⟩ with ⟨result, left⟩
        rw [argument] at step
        dsimp only at step
        subst step
        simp only [operationsFor, List.map_cons, BatchProcessing.executeRound, argument]
      · rcases converted : convertValueToFieldDataType interpreter field batch with error | value
        · refine .inl ⟨error, ?_, ?_⟩
          · simp only [executeRound, yielded, bind, Except.bind, converted]
          · simp only [operationsFor, List.map_cons, BatchProcessing.executeRound, step,
              converted, Except.map]
        · rcases induction others (OrderedDict.insert field.name value kwargs) with
            ⟨error, raised, alike⟩ | ⟨further, values, consumed, ran, kept, alike⟩
          · refine .inl ⟨error, ?_, ?_⟩
            · simp only [executeRound, yielded, bind, Except.bind, converted, raised]
            · simp only [operationsFor] at alike
              simp only [operationsFor, List.map_cons, BatchProcessing.executeRound, step,
                converted, Except.map, alike]
          · refine .inr ⟨(field, next) :: further, values, batch.isNone && consumed, ?_, ?_, ?_⟩
            · simp only [executeRound, yielded, bind, Except.bind, converted, ran, pure,
                Except.pure]
            · intro entry member
              rcases List.mem_cons.mp member with rfl | member
              · exact same ▸ first
              · exact kept entry member
            · simp only [operationsFor] at alike
              simp only [operationsFor, List.map_cons, BatchProcessing.executeRound, step,
                converted, Except.map, alike]

theorem PipelineTemplate.make_list (template : PipelineTemplate Object) (kwargs : Kwargs Object) :
    template.make (listProcessing interpreter) kwargs = template.init interpreter kwargs := rfl

namespace BatchPipeline

variable (batch : BatchPipeline Object)

theorem gatherOperations_list : batch.gatherOperations (listProcessing interpreter) =
    operationsFor (batch.gatherFieldBatchIterators interpreter) := by
  simp only [gatherOperations, operationsFor, gatherFieldBatchIterators, List.map_map]
  refine List.map_congr_left fun field _ => ?_
  simp only [listProcessing, Function.comp_apply]
  cases batch.getattr field.name (.list []) <;> rfl

theorem submitPipelines_list (fuel : Nat) (iterators : BatchOpMap Object)
    (sized : Sized iterators) (kwargs : Kwargs Object) :
    (batch.submitPipelines interpreter (listProcessing interpreter) fuel
        (operationsFor iterators) kwargs).map Prod.fst =
      (batch.configurePipelines interpreter fuel iterators kwargs).map Prod.fst := by
  induction fuel generalizing iterators kwargs with
  | zero => rfl
  | succ fuel induction =>
      rcases executeRound_operationsFor interpreter iterators sized kwargs with
        ⟨error, raised, alike⟩ | ⟨next, values, consumed, ran, kept, alike⟩
      · simp only [submitPipelines, configurePipelines, raised, alike, Option.map_some]
      · simp only [submitPipelines, configurePipelines, ran, alike]
        have same : batch.submitRound interpreter (listProcessing interpreter) values =
          batch.takeRound interpreter values := rfl
        rw [same]
        rcases batch.takeRound interpreter values with error | ⟨arguments, pipeline⟩
        · rfl
        · cases consumed with
          | true => rfl
          | false =>
              have rest := congrArg (Option.map (pipeline.toList ++ ·))
                (induction next kept arguments)
              simpa [Option.map_map, Function.comp_def] using rest

theorem executeAgain_first (fuel : Nat)
    (sized : ∀ field ∈ batch.template.getBatchFields, 1 ≤ field.batchSize) :
    (batch.executeAgain interpreter (listProcessing interpreter) fuel {}).map
        (fun call => (call.pipelines, call.raised)) = batch.execute interpreter fuel := by
  have gathered := batch.gatherOperations_list interpreter
  have start : Sized (batch.gatherFieldBatchIterators interpreter) := by
    intro entry member
    rcases List.mem_map.mp member with ⟨field, among, rfl⟩
    exact sized field among
  have empty : (operationsFor (batch.gatherFieldBatchIterators interpreter)).isEmpty =
      (batch.gatherFieldBatchIterators interpreter).isEmpty := by
    simp [operationsFor]
  have loop := batch.submitPipelines_list interpreter fuel _ start []
  have others : batch.nonBatchKwargs (listProcessing interpreter) =
    batch.prepareArgsForNonBatchFields := rfl
  simp only [executeAgain, execute, List.isEmpty_nil, if_true, gathered, empty, others,
    PipelineTemplate.make_list]
  split
  · rcases batch.template.init interpreter batch.prepareArgsForNonBatchFields with
      error | pipeline <;> rfl
  · rcases made : batch.configurePipelines interpreter fuel
        (batch.gatherFieldBatchIterators interpreter) [] with _ | ⟨pipelines, error⟩ <;>
      rw [made] at loop
    · rw [Option.map_none, Option.map_eq_none_iff] at loop
      rw [loop]
      rfl
    · rcases Option.map_eq_some_iff.mp loop with ⟨result, ran, same⟩
      rw [ran]
      dsimp only at same
      simp [same, notConfigured]

end BatchPipeline

/-! ## List fields only -/

namespace ListBatch

variable (batch : ListBatch Object)

theorem sized_iteratorsAt (round : Nat) :
    Sized (batch.iteratorsAt batch.template.getBatchFields round) := by
  intro entry member
  rcases List.mem_map.mp member with ⟨field, among, rfl⟩
  exact batch.batchSize field among

theorem executeRound_iteratorsAt (round : Nat) :
    ∃ consumed, (listProcessing interpreter).executeRound
        (operationsFor (batch.iteratorsAt batch.template.getBatchFields round)) [] =
      (operationsFor (batch.iteratorsAt batch.template.getBatchFields (round + 1)),
        .ok (batch.slices round, consumed)) := by
  have nodup : (OrderedDict.keys ([] ++ batch.slices round)).Nodup := by
    rw [List.nil_append, batch.keys_slices]
    exact batch.template.nodup.sublist (List.filter_sublist.map _)
  have run := batch.executeRound_eq interpreter (List.Subset.refl _) round []
  rw [← slices, OrderedDict.update_of_disjoint nodup, List.nil_append] at run
  rcases executeRound_operationsFor interpreter _ (batch.sized_iteratorsAt round) [] with
    ⟨error, raised, _⟩ | ⟨next, values, consumed, ran, _, alike⟩
  · rw [run] at raised
    cases raised
  · rw [run] at ran
    cases ran
    exact ⟨_, alike⟩

theorem behind_iteratorsAt (rounds : Nat) :
    (listProcessing interpreter).behind^[rounds]
        (operationsFor (batch.iteratorsAt batch.template.getBatchFields 0)) =
      operationsFor (batch.iteratorsAt batch.template.getBatchFields rounds) := by
  induction rounds with
  | zero => rfl
  | succ rounds induction =>
      rcases batch.executeRound_iteratorsAt interpreter rounds with ⟨consumed, run⟩
      rw [Function.iterate_succ_apply', induction, BatchProcessing.behind, run]

theorem refuses_iteratorsAt_iff (round : Nat) :
    batch.Refuses interpreter (listProcessing interpreter)
        (operationsFor (batch.iteratorsAt batch.template.getBatchFields round)) ↔
      (round < batch.rounds → batch.accepted interpreter round = false) := by
  rcases batch.executeRound_iteratorsAt interpreter round with ⟨consumed, run⟩
  have arguments : OrderedDict.update (batch.slices round)
      (batch.nonBatchKwargs (listProcessing interpreter)) = batch.argumentsAt round :=
    OrderedDict.update_of_disjoint (batch.nodup_argumentsAt round)
  have made := batch.init_argumentsAt interpreter round
  rw [batch.refuses_iff_of_runs interpreter _ (congrArg Prod.snd run), arguments,
    PipelineTemplate.make_list, batch.any_slices interpreter round]
  apply imp_congr_right
  intro more
  constructor
  · rintro ⟨error, refused⟩
    by_contra accepted
    rw [if_pos (by simpa using accepted)] at made
    rcases made with ⟨fields, made⟩
    rw [refused] at made
    cases made
  · intro refused
    rwa [if_neg (by simp [refused])] at made

/-- A batch with list fields makes no pipeline in any call when it has no data or when its
template refuses the arguments of the first round. -/
theorem refusesEveryRound_iff :
    batch.RefusesEveryRound interpreter (listProcessing interpreter) ↔
      batch.rounds = 0 ∨ batch.accepted interpreter 0 = false := by
  have each : ∀ round, batch.Refuses interpreter (listProcessing interpreter)
      ((listProcessing interpreter).behind^[round]
        (batch.gatherOperations (listProcessing interpreter))) ↔
      (round < batch.rounds → batch.accepted interpreter round = false) := by
    intro round
    rw [batch.gatherOperations_list, batch.gather_eq, batch.behind_iteratorsAt,
      batch.refuses_iteratorsAt_iff]
  constructor
  · intro refuses
    have first := (each 0).mp (refuses 0)
    rcases Nat.eq_zero_or_pos batch.rounds with none | some
    · exact .inl none
    · exact .inr (first some)
  · intro refused round
    refine (each round).mpr fun more => ?_
    rcases refused with none | refused
    · omega
    · rw [Bool.eq_false_iff] at refused ⊢
      intro accepted
      refine refused ((batch.accepted_iff interpreter 0).mpr ?_)
      rcases (batch.accepted_iff interpreter round).mp accepted with ⟨others, lasting⟩
      exact ⟨others, fun field batched refusing =>
        Nat.lt_of_le_of_lt (Nat.zero_le round) (lasting field batched refusing)⟩

end ListBatch

end Lists

end EventPipeline
