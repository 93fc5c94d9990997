import EventPipeline.Batch.Covering
import Mathlib.Algebra.GroupWithZero.Nat

/-! # Executing a batch again

A batch keeps the iterators of its fields and the number of its pipelines from one call of
`execute` to the next one. An iterator that a call has read from goes on where that call has
left it, also when an exception has ended the call.
-/

namespace EventPipeline

/-- The batch operations of the fields of a template and their `__set__`. `yields` is what the
generator of a field, with the batch method of the field behind it if there is one, yields for
the value of the attribute, up to the exception that ends it, if one does. -/
structure BatchProcessing (Object : Type) where
  hasBatchOperation : InputDataField Object → Bool
  yields : InputDataField Object → PyValue Object → List (Except BatchError (PyValue Object))
  convert : InputDataField Object → PyValue Object → Except BatchError (PyValue Object)
  set : InputDataField Object → PyValue Object → Except BatchError (PyValue Object)

/-- An entry of `_field_batch_op_map`: what `next` has still to give. -/
structure FieldOperation (Object : Type) where
  field : InputDataField Object
  pending : List (Except BatchError (PyValue Object))

/-- What a batch keeps between calls: `_field_batch_op_map` and
`_configured_pipelines_count`. -/
structure BatchState (Object : Type) where
  fieldBatchOpMap : List (FieldOperation Object) := []
  configuredPipelinesCount : Nat := 0

/-- One call of `execute`. -/
structure ExecuteCall (Object : Type) where
  pipelines : List (PipelineInstance Object)
  raised : Option BatchError
  after : BatchState Object

section Calls

variable {Object : Type} (interpreter : Interpreter Object) (processing : BatchProcessing Object)

/-- `Pipeline.__init__` of the template -/
def PipelineTemplate.make (template : PipelineTemplate Object) (kwargs : Kwargs Object) :
    Except BatchError (PipelineInstance Object) := do
  let bound ← template.bindSignature kwargs
  let fields ← bound.mapM fun argument => do
    return (argument.1.name, ← processing.set argument.1 argument.2)
  return ⟨kwargs, fields⟩

/-- `next`: a generator that has raised an exception is finished. -/
def FieldOperation.next (operation : FieldOperation Object) :
    Except BatchError (Option (PyValue Object)) × FieldOperation Object :=
  match operation.pending with
  | [] => (.ok none, operation)
  | .ok value :: rest => (.ok (some value), { operation with pending := rest })
  | .error error :: _ => (.error error, { operation with pending := [] })

namespace BatchProcessing

def convertValue (field : InputDataField Object) :
    Option (PyValue Object) → Except BatchError (PyValue Object)
  | none | some .none => .ok .none
  | some value => processing.convert field value

/-- The next argument of a field and whether its iterator was used up before. -/
def nextArgument (operation : FieldOperation Object) :
    Except BatchError (Bool × PyValue Object) × FieldOperation Object :=
  (operation.next.1.bind fun value =>
    (processing.convertValue operation.field value).map (Prod.mk value.isNone),
    operation.next.2)

/-- One round of `_execute_field_batch_processors`: the operations behind it, and the shared
dictionary with whether all iterators were used up before, unless an exception is raised. -/
def executeRound : List (FieldOperation Object) → Kwargs Object →
    List (FieldOperation Object) × Except BatchError (Kwargs Object × Bool)
  | [], kwargs => ([], .ok (kwargs, true))
  | operation :: rest, kwargs =>
      match processing.nextArgument operation with
      | (.error error, operation) => (operation :: rest, .error error)
      | (.ok (consumed, value), operation) =>
          let (others, result) :=
            executeRound rest (OrderedDict.insert operation.field.name value kwargs)
          (operation :: others, result.map fun (kwargs, all) => (kwargs, consumed && all))

def behind (operations : List (FieldOperation Object)) : List (FieldOperation Object) :=
  (processing.executeRound operations []).1

end BatchProcessing

namespace BatchPipeline

variable (batch : BatchPipeline Object)

def nonBatchKwargs : Kwargs Object :=
  (batch.template.fields.filter fun field => !processing.hasBatchOperation field).map
    fun field => (field.name, batch.getattr field.name .none)

def gatherOperations : List (FieldOperation Object) :=
  (batch.template.fields.filter fun field => processing.hasBatchOperation field).map
    fun field => ⟨field, processing.yields field (batch.getattr field.name (.list []))⟩

/-- A pipeline is made when one of the arguments of the round is true. -/
def submitRound (kwargs : Kwargs Object) :
    Except BatchError (Kwargs Object × Option (PipelineInstance Object)) :=
  if kwargs.any fun entry => entry.2.truthy interpreter then do
    let kwargs := OrderedDict.update kwargs (batch.nonBatchKwargs processing)
    return (kwargs, some (← batch.template.make processing kwargs))
  else
    .ok (kwargs, none)

/-- The loop of `execute` with the operations that it leaves behind. An exception ends the
loop and is logged. -/
def submitPipelines : Nat → List (FieldOperation Object) → Kwargs Object →
    Option (List (PipelineInstance Object) × List (FieldOperation Object))
  | 0, _, _ => none
  | fuel + 1, operations, kwargs =>
      let (operations, result) := processing.executeRound operations kwargs
      match result with
      | .error _ => some ([], operations)
      | .ok (kwargs, consumed) =>
          match batch.submitRound interpreter processing kwargs with
          | .error _ => some ([], operations)
          | .ok (kwargs, pipeline) =>
              if consumed then some (pipeline.toList, operations)
              else
                (submitPipelines fuel operations kwargs).map fun (rest, operations) =>
                  (pipeline.toList ++ rest, operations)

/-- The exception of a call when no call so far has configured a pipeline. -/
def notConfigured : BatchError :=
  .pipelineConfigurationError
    ("Starting batch execution of pipeline '" ++ batch.template.text ++
      "' failed. No pipeline were configured.")
    "not_configured_pipeline"

/-- `execute` on a batch that has been executed before. -/
def executeAgain (fuel : Nat) (state : BatchState Object) : Option (ExecuteCall Object) :=
  let operations :=
    if state.fieldBatchOpMap.isEmpty then batch.gatherOperations processing
    else state.fieldBatchOpMap
  if operations.isEmpty then
    let after : BatchState Object := ⟨[], state.configuredPipelinesCount + 1⟩
    match batch.template.make processing (batch.nonBatchKwargs processing) with
    | .error error => some ⟨[], some error, after⟩
    | .ok pipeline => some ⟨[pipeline], none, after⟩
  else
    (batch.submitPipelines interpreter processing fuel operations []).map
      fun (pipelines, operations) =>
        let count := state.configuredPipelinesCount + pipelines.length
        ⟨pipelines, if count = 0 then some batch.notConfigured else none, ⟨operations, count⟩⟩

/-- The call number `number` on one batch, the first one being number 0. -/
def nthExecute (fuel : Nat) : Nat → Option (ExecuteCall Object)
  | 0 => batch.executeAgain interpreter processing fuel {}
  | number + 1 => (nthExecute fuel number).bind fun call =>
      batch.executeAgain interpreter processing fuel call.after

/-- Every call configures as many pipelines as the first one, with the same values of the
fields, and a call that configures none raises an exception. -/
def ProcessesWholeSet : Prop :=
  ∃ fuel first, batch.nthExecute interpreter processing fuel 0 = some first ∧
    ∀ number, ∃ call, batch.nthExecute interpreter processing fuel number = some call ∧
      call.pipelines.map PipelineInstance.fields =
        first.pipelines.map PipelineInstance.fields ∧
      (call.pipelines = [] → call.raised ≠ none)

/-- The arguments of the round, if there are any and one of them is true, are refused by the
template. -/
def Refuses (operations : List (FieldOperation Object)) : Prop :=
  ∀ kwargs consumed, (processing.executeRound operations []).2 = .ok (kwargs, consumed) →
    (kwargs.any fun entry => entry.2.truthy interpreter) = true →
    ∃ error, batch.template.make processing
      (OrderedDict.update kwargs (batch.nonBatchKwargs processing)) = .error error

/-- The arguments of every round from here on are refused. -/
def RefusesFrom (operations : List (FieldOperation Object)) : Prop :=
  ∀ rounds, batch.Refuses interpreter processing (processing.behind^[rounds] operations)

/-- The arguments of every round of the data set are refused. -/
def RefusesEveryRound : Prop :=
  batch.RefusesFrom interpreter processing (batch.gatherOperations processing)

end BatchPipeline

/-! ## Lists -/

/-- `batched`: consecutive slices of the items. -/
def slicesOf (size : Nat) (items : List Object) : List (List Object) :=
  (List.range ((items.length + size - 1) / size)).map fun round =>
    (items.drop (round * size)).take size

/-- What `list_batch_processor` yields. -/
def listYields (batchSize : Nat) :
    Except BatchError (List Object) → List (Except BatchError (PyValue Object))
  | .error error => [.error error]
  | .ok items =>
      if batchSize = 0 then [.error (.valueError "n must be at least one")]
      else (slicesOf batchSize items).map fun part => .ok (.tuple part)

/-- The items of a value, or the exception of a value that cannot be iterated over. -/
def PyValue.itemsOrError : PyValue Object → Except BatchError (List Object)
  | .list items | .tuple items => .ok items
  | .none => .error (.typeError "'NoneType' object is not iterable")
  | .object value =>
      match interpreter.iterate value with
      | some items => .ok items
      | .none => .error (.typeError
          ("'" ++ interpreter.typeName value ++ "' object is not iterable"))

/-- The fields of lists and tuples with their default batch processor. -/
def listProcessing : BatchProcessing Object where
  hasBatchOperation := InputDataField.hasBatchOperation
  yields field value := listYields field.batchSize (value.itemsOrError interpreter)
  convert field value :=
    match value with
    | .tuple batch => convertValueToFieldDataType interpreter field (some batch)
    | other => .ok other
  set := InputDataField.set interpreter

/-! ## Rounds -/

def pendingSteps (operations : List (FieldOperation Object)) : Nat :=
  (operations.map fun operation => operation.pending.length).sum

theorem FieldOperation.next_field (operation : FieldOperation Object) :
    operation.next.2.field = operation.field := by
  unfold FieldOperation.next
  split <;> rfl

theorem FieldOperation.next_pending (operation : FieldOperation Object) :
    operation.next.2.pending.length ≤ operation.pending.length ∧
      (0 < operation.pending.length →
        operation.next.2.pending.length < operation.pending.length) := by
  unfold FieldOperation.next
  split <;> rename_i shape <;> simp [shape]

namespace BatchProcessing

theorem nextArgument_next {operation next : FieldOperation Object}
    {argument : Except BatchError (Bool × PyValue Object)}
    (step : processing.nextArgument operation = (argument, next)) :
    next.field = operation.field ∧ next.pending.length ≤ operation.pending.length ∧
      (0 < operation.pending.length → next.pending.length < operation.pending.length) := by
  have same : next = operation.next.2 := (congrArg Prod.snd step).symm
  rw [same]
  exact ⟨operation.next_field, operation.next_pending⟩

theorem nextArgument_of_exhausted {operation : FieldOperation Object}
    (exhausted : operation.pending = []) :
    processing.nextArgument operation = (.ok (true, .none), operation) := by
  simp [nextArgument, FieldOperation.next, exhausted, Except.bind, convertValue, Except.map]

theorem executeRound_cases (operations : List (FieldOperation Object)) :
    ∃ after, (∃ error, ∀ kwargs,
        processing.executeRound operations kwargs = (after, .error error)) ∨
      ∃ values consumed, OrderedDict.keys values =
          operations.map (fun operation => operation.field.name) ∧
        ∀ kwargs, processing.executeRound operations kwargs =
          (after, .ok (OrderedDict.update kwargs values, consumed)) := by
  induction operations with
  | nil => exact ⟨[], .inr ⟨[], true, rfl, fun _ => rfl⟩⟩
  | cons operation rest induction =>
      rcases step : processing.nextArgument operation with ⟨error | ⟨consumed, value⟩, next⟩
      · exact ⟨next :: rest, .inl ⟨error, fun kwargs => by
          simp only [executeRound, step]⟩⟩
      · have moved := (processing.nextArgument_next step).1
        rcases induction with ⟨after, ⟨error, raises⟩ | ⟨values, others, keys, runs⟩⟩
        · exact ⟨next :: after, .inl ⟨error, fun kwargs => by
            simp only [executeRound, step, raises, Except.map]⟩⟩
        · refine ⟨next :: after, .inr ⟨(operation.field.name, value) :: values,
            consumed && others, ?_, fun kwargs => ?_⟩⟩
          · rw [List.map_cons, ← keys]
            rfl
          · simp only [executeRound, step, runs, Except.map, OrderedDict.update_cons, moved]

theorem executeRound_fields (operations : List (FieldOperation Object)) (kwargs : Kwargs Object) :
    (processing.executeRound operations kwargs).1.map FieldOperation.field =
      operations.map FieldOperation.field := by
  induction operations generalizing kwargs with
  | nil => rfl
  | cons operation rest induction =>
      rcases step : processing.nextArgument operation with ⟨error | ⟨consumed, value⟩, next⟩ <;>
        have moved := (processing.nextArgument_next step).1 <;>
        simp only [executeRound, step, List.map_cons, moved, induction]

theorem executeRound_pending (operations : List (FieldOperation Object)) (kwargs : Kwargs Object) :
    pendingSteps (processing.executeRound operations kwargs).1 ≤ pendingSteps operations ∧
      (0 < pendingSteps operations →
        pendingSteps (processing.executeRound operations kwargs).1 <
          pendingSteps operations) := by
  induction operations generalizing kwargs with
  | nil => exact ⟨Nat.le_refl _, id⟩
  | cons operation rest induction =>
      rcases step : processing.nextArgument operation with ⟨error | ⟨consumed, value⟩, next⟩ <;>
        have fewer := (processing.nextArgument_next step).2
      · have started : operation.pending ≠ [] := by
          intro exhausted
          rw [processing.nextArgument_of_exhausted exhausted] at step
          cases step
        have some := List.length_pos_iff.mpr started
        simp only [executeRound, step, pendingSteps, List.map_cons, List.sum_cons]
        omega
      · rcases induction (OrderedDict.insert next.field.name value kwargs) with ⟨le, lt⟩
        simp only [executeRound, step]
        simp only [pendingSteps, List.map_cons, List.sum_cons] at le lt ⊢
        omega

theorem executeRound_of_exhausted (operations : List (FieldOperation Object))
    (exhausted : pendingSteps operations = 0) (kwargs : Kwargs Object) :
    processing.executeRound operations kwargs =
      (operations, .ok (OrderedDict.update kwargs
        (operations.map fun operation => (operation.field.name, .none)), true)) := by
  induction operations generalizing kwargs with
  | nil => rfl
  | cons operation rest induction =>
      simp only [pendingSteps, List.map_cons, List.sum_cons, Nat.add_eq_zero_iff,
        List.length_eq_zero_iff] at exhausted
      simp only [executeRound, processing.nextArgument_of_exhausted exhausted.1,
        induction exhausted.2, Except.map, List.map_cons, OrderedDict.update_cons,
        Bool.true_and]

theorem behind_fields (operations : List (FieldOperation Object)) :
    (processing.behind operations).map FieldOperation.field =
      operations.map FieldOperation.field :=
  processing.executeRound_fields operations []

end BatchProcessing

/-! ## The loop of a call -/

/-- The arguments of the round before, or none. -/
def Overwritten (operations : List (FieldOperation Object)) (kwargs : Kwargs Object) : Prop :=
  kwargs = [] ∨
    OrderedDict.keys kwargs = operations.map fun operation => operation.field.name

theorem update_overwritten {operations : List (FieldOperation Object)}
    {kwargs values : Kwargs Object}
    (nodup : (operations.map fun operation => operation.field.name).Nodup)
    (keys : OrderedDict.keys values = operations.map fun operation => operation.field.name)
    (overwritten : Overwritten operations kwargs) : OrderedDict.update kwargs values = values := by
  rw [← keys] at nodup
  rcases overwritten with rfl | same
  · exact OrderedDict.update_of_disjoint (by simpa using nodup)
  · have replaced := @OrderedDict.update_of_keys_eq _ _ _ [] values kwargs []
      (keys.trans same.symm) (by rwa [List.nil_append, same, ← keys])
    simpa using replaced

namespace BatchPipeline

variable (batch : BatchPipeline Object)

/-- A round that ends with an exception has no arguments for the template. -/
theorem refuses_of_raises {operations after : List (FieldOperation Object)} {error : BatchError}
    (raises : processing.executeRound operations [] = (after, .error error)) :
    batch.Refuses interpreter processing operations := by
  intro values consumed same
  rw [raises] at same
  cases same

theorem refuses_iff_of_runs {operations : List (FieldOperation Object)} {values : Kwargs Object}
    {consumed : Bool}
    (runs : (processing.executeRound operations []).2 = .ok (values, consumed)) :
    batch.Refuses interpreter processing operations ↔
      ((values.any fun entry => entry.2.truthy interpreter) = true →
        ∃ error, batch.template.make processing
          (OrderedDict.update values (batch.nonBatchKwargs processing)) = .error error) := by
  constructor
  · intro refuses
    exact refuses values consumed runs
  · intro refused others used same
    rw [runs, Except.ok.injEq, Prod.mk.injEq] at same
    obtain ⟨rfl, -⟩ := same
    exact refused

theorem overwritten_behind {operations : List (FieldOperation Object)} {values : Kwargs Object}
    (keys : OrderedDict.keys values = operations.map fun operation => operation.field.name) :
    Overwritten (processing.behind operations) values := by
  have fields := congrArg (List.map InputDataField.name) (processing.behind_fields operations)
  rw [List.map_map, List.map_map] at fields
  exact .inr (keys.trans fields.symm)

theorem submitPipelines_of_runs {operations after : List (FieldOperation Object)}
    {kwargs values : Kwargs Object} {consumed : Bool}
    (runs : processing.executeRound operations kwargs = (after, .ok (values, consumed)))
    (fuel : Nat) :
    batch.submitPipelines interpreter processing (fuel + 1) operations kwargs =
      match batch.submitRound interpreter processing values with
      | .error _ => some ([], after)
      | .ok (kwargs, pipeline) =>
          if consumed then some (pipeline.toList, after)
          else
            (batch.submitPipelines interpreter processing fuel after kwargs).map
              fun (rest, operations) => (pipeline.toList ++ rest, operations) := by
  simp only [submitPipelines, runs]

theorem submitRound_of_not_truthy {values : Kwargs Object}
    (idle : ¬(values.any fun entry => entry.2.truthy interpreter) = true) :
    batch.submitRound interpreter processing values = .ok (values, none) :=
  if_neg idle

theorem submitRound_of_truthy {values : Kwargs Object}
    (truthy : (values.any fun entry => entry.2.truthy interpreter) = true) :
    batch.submitRound interpreter processing values =
      (batch.template.make processing
        (OrderedDict.update values (batch.nonBatchKwargs processing))).map fun pipeline =>
          (OrderedDict.update values (batch.nonBatchKwargs processing), some pipeline) := by
  rw [submitRound, if_pos truthy]
  cases made : batch.template.make processing
      (OrderedDict.update values (batch.nonBatchKwargs processing)) with
  | error error =>
      simp only [made]
      rfl
  | ok pipeline =>
      simp only [made]
      rfl

/-- What the loop does with one round: it ends without a pipeline, it goes on without one, or
it makes one. -/
theorem submitPipelines_step {operations : List (FieldOperation Object)}
    {kwargs : Kwargs Object}
    (nodup : (operations.map fun operation => operation.field.name).Nodup)
    (overwritten : Overwritten operations kwargs) :
    (batch.Refuses interpreter processing operations ∧
      ∀ fuel, batch.submitPipelines interpreter processing (fuel + 1) operations kwargs =
        some ([], processing.behind operations)) ∨
    (batch.Refuses interpreter processing operations ∧
      ∃ values, Overwritten (processing.behind operations) values ∧
        ∀ fuel, batch.submitPipelines interpreter processing (fuel + 1) operations kwargs =
          batch.submitPipelines interpreter processing fuel (processing.behind operations)
            values) ∨
    (¬batch.Refuses interpreter processing operations ∧
      ∀ fuel result, batch.submitPipelines interpreter processing (fuel + 1) operations kwargs =
        some result → result.1 ≠ []) := by
  rcases processing.executeRound_cases operations with
    ⟨after, ⟨error, raises⟩ | ⟨values, consumed, keys, runs⟩⟩
  · refine .inl ⟨batch.refuses_of_raises interpreter processing (raises []), fun fuel => ?_⟩
    simp only [submitPipelines, raises, BatchProcessing.behind]
  · have fresh : OrderedDict.update [] values = values :=
      update_overwritten nodup keys (.inl rfl)
    have replaced := update_overwritten nodup keys overwritten
    have ran := runs []
    have step := runs kwargs
    rw [fresh] at ran
    rw [replaced] at step
    have behind : processing.behind operations = after := by rw [BatchProcessing.behind, ran]
    have refuses_iff := batch.refuses_iff_of_runs interpreter processing (congrArg Prod.snd ran)
    have loop := batch.submitPipelines_of_runs interpreter processing step
    by_cases truthy : (values.any fun entry => entry.2.truthy interpreter) = true
    · rw [batch.submitRound_of_truthy interpreter processing truthy] at loop
      rcases made : batch.template.make processing
          (OrderedDict.update values (batch.nonBatchKwargs processing)) with error | pipeline
      · refine .inl ⟨refuses_iff.mpr fun _ => ⟨error, made⟩, fun fuel => ?_⟩
        rw [loop, made, behind]
        rfl
      · refine .inr (.inr ⟨fun refuses => ?_, fun fuel result returned => ?_⟩)
        · rcases refuses_iff.mp refuses truthy with ⟨error, refused⟩
          rw [made] at refused
          cases refused
        · simp only [loop, made, Except.map] at returned
          split at returned
          · cases returned
            simp
          · rcases Option.map_eq_some_iff.mp returned with ⟨rest, _, rfl⟩
            simp
    · rw [batch.submitRound_of_not_truthy interpreter processing truthy] at loop
      have refuses := refuses_iff.mpr fun holds => absurd holds truthy
      cases consumed with
      | true =>
          refine .inl ⟨refuses, fun fuel => ?_⟩
          rw [loop, behind]
          rfl
      | false =>
          refine .inr (.inl ⟨refuses, values, overwritten_behind processing keys, fun fuel => ?_⟩)
          rw [loop, behind]
          simp

theorem submitPipelines_after {fuel : Nat} {operations after : List (FieldOperation Object)}
    {kwargs : Kwargs Object} {pipelines : List (PipelineInstance Object)}
    (ran : batch.submitPipelines interpreter processing fuel operations kwargs =
      some (pipelines, after)) :
    after.map FieldOperation.field = operations.map FieldOperation.field ∧
      pendingSteps after ≤ pendingSteps operations ∧
      (0 < pendingSteps operations → pendingSteps after < pendingSteps operations) := by
  induction fuel generalizing operations kwargs pipelines with
  | zero => cases ran
  | succ fuel induction =>
      have fields := processing.executeRound_fields operations kwargs
      have pending := processing.executeRound_pending operations kwargs
      rcases round : processing.executeRound operations kwargs with
        ⟨next, error | ⟨values, consumed⟩⟩ <;> rw [round] at fields pending <;>
        simp only [submitPipelines, round] at ran
      · cases ran
        exact ⟨fields, pending⟩
      · split at ran
        · cases ran
          exact ⟨fields, pending⟩
        · split at ran
          · cases ran
            exact ⟨fields, pending⟩
          · rcases Option.map_eq_some_iff.mp ran with ⟨⟨rest, last⟩, further, same⟩
            cases same
            rcases induction further with ⟨sameFields, le, _⟩
            exact ⟨sameFields.trans fields, le.trans pending.1, fun some =>
              Nat.lt_of_le_of_lt le (pending.2 some)⟩

theorem submitPipelines_ends {fuel : Nat} {operations : List (FieldOperation Object)}
    (enough : pendingSteps operations < fuel) (kwargs : Kwargs Object) :
    ∃ result, batch.submitPipelines interpreter processing fuel operations kwargs =
      some result := by
  induction fuel generalizing operations kwargs with
  | zero => cases enough
  | succ fuel induction =>
      have pending := processing.executeRound_pending operations kwargs
      rcases round : processing.executeRound operations kwargs with
        ⟨next, error | ⟨values, consumed⟩⟩ <;> rw [round] at pending <;>
        simp only [submitPipelines, round]
      · exact ⟨_, rfl⟩
      · split
        · exact ⟨_, rfl⟩
        · cases consumed with
          | true => exact ⟨_, rfl⟩
          | false =>
              have some : 0 < pendingSteps operations := by
                rw [Nat.pos_iff_ne_zero]
                intro exhausted
                rw [processing.executeRound_of_exhausted operations exhausted] at round
                cases round
              have fewer := pending.2 some
              dsimp only at fewer
              rename_i values _ _
              rcases induction (show pendingSteps next < fuel by omega) values with
                ⟨result, further⟩
              rw [further]
              exact ⟨_, rfl⟩

section Distinct

variable {operations : List (FieldOperation Object)}
  (nodup : (operations.map fun operation => operation.field.name).Nodup)
include nodup

theorem nodup_behind :
    ((processing.behind operations).map fun operation => operation.field.name).Nodup := by
  have fields := congrArg (List.map InputDataField.name) (processing.behind_fields operations)
  rw [List.map_map, List.map_map] at fields
  exact fields ▸ nodup

theorem refuses_of_submitPipelines {fuel : Nat} {kwargs : Kwargs Object}
    {after : List (FieldOperation Object)} (overwritten : Overwritten operations kwargs)
    (ran : batch.submitPipelines interpreter processing fuel operations kwargs =
      some ([], after)) :
    ∃ rounds, after = processing.behind^[rounds + 1] operations ∧
      ∀ round ≤ rounds, batch.Refuses interpreter processing
        (processing.behind^[round] operations) := by
  induction fuel generalizing operations kwargs with
  | zero => cases ran
  | succ fuel induction =>
      rcases batch.submitPipelines_step interpreter processing nodup overwritten with
        ⟨refuses, ends⟩ | ⟨refuses, values, kept, goes⟩ | ⟨_, makes⟩
      · rw [ends, Option.some_inj] at ran
        cases ran
        refine ⟨0, rfl, fun round first => ?_⟩
        rw [Nat.le_zero.mp first]
        exact refuses
      · rw [goes] at ran
        rcases induction (nodup_behind processing nodup) kept ran with ⟨rounds, same, others⟩
        refine ⟨rounds + 1, same, fun round within => ?_⟩
        cases round with
        | zero => exact refuses
        | succ round => exact others round (Nat.le_of_succ_le_succ within)
      · exact absurd rfl (makes fuel _ ran)

theorem submitPipelines_of_refuses {fuel : Nat} {kwargs : Kwargs Object}
    {pipelines : List (PipelineInstance Object)} {after : List (FieldOperation Object)}
    (overwritten : Overwritten operations kwargs)
    (refuses : batch.RefusesFrom interpreter processing operations)
    (ran : batch.submitPipelines interpreter processing fuel operations kwargs =
      some (pipelines, after)) : pipelines = [] := by
  induction fuel generalizing operations kwargs with
  | zero => cases ran
  | succ fuel induction =>
      rcases batch.submitPipelines_step interpreter processing nodup overwritten with
        ⟨_, ends⟩ | ⟨_, values, kept, goes⟩ | ⟨accepts, _⟩
      · rw [ends, Option.some_inj] at ran
        cases ran
        rfl
      · rw [goes] at ran
        exact induction (nodup_behind processing nodup) kept
          (fun rounds => refuses (rounds + 1)) ran
      · exact absurd (refuses 0) accepts

theorem submitPipelines_of_exhausted (exhausted : pendingSteps operations = 0) {fuel : Nat}
    {result : List (PipelineInstance Object) × List (FieldOperation Object)}
    (ran : batch.submitPipelines interpreter processing fuel operations [] = some result) :
    result.1 = [] := by
  cases fuel with
  | zero => cases ran
  | succ fuel =>
      have none : ((operations.map fun operation => (operation.field.name, PyValue.none)).any
          fun entry => entry.2.truthy interpreter) = false := by
        simp [PyValue.truthy]
      have fresh : OrderedDict.update [] (operations.map fun operation =>
          (operation.field.name, (PyValue.none : PyValue Object))) = _ :=
        update_overwritten nodup (by simp [OrderedDict.keys, Function.comp_def]) (.inl rfl)
      simp only [submitPipelines, processing.executeRound_of_exhausted operations exhausted,
        fresh, submitRound, none] at ran
      cases ran
      rfl

end Distinct

/-! ## Calls on one batch -/

def operationsOf (state : BatchState Object) : List (FieldOperation Object) :=
  if state.fieldBatchOpMap.isEmpty then batch.gatherOperations processing
  else state.fieldBatchOpMap

section Batched

variable (batched : ∃ field ∈ batch.template.fields, processing.hasBatchOperation field = true)

theorem nodup_gatherOperations : ((batch.gatherOperations processing).map
    fun operation => operation.field.name).Nodup := by
  simp only [gatherOperations, List.map_map, Function.comp_def]
  exact batch.template.nodup.sublist (List.filter_sublist.map _)

def Gathered (operations : List (FieldOperation Object)) : Prop :=
  operations.map FieldOperation.field =
    (batch.gatherOperations processing).map FieldOperation.field

theorem Gathered.nodup {batch : BatchPipeline Object} {operations : List (FieldOperation Object)}
    (gathered : batch.Gathered processing operations) :
    (operations.map fun operation => operation.field.name).Nodup := by
  have names := congrArg (List.map InputDataField.name) gathered
  rw [List.map_map, List.map_map] at names
  exact names ▸ batch.nodup_gatherOperations processing

include batched

theorem Gathered.isEmpty {operations : List (FieldOperation Object)}
    (gathered : batch.Gathered processing operations) : operations.isEmpty = false := by
  rcases batched with ⟨field, member, operates⟩
  cases operations with
  | cons operation rest => rfl
  | nil =>
      have lengths := congrArg List.length gathered
      have inside : field ∈ batch.template.fields.filter
          fun field => processing.hasBatchOperation field :=
        List.mem_filter.mpr ⟨member, operates⟩
      simp only [gatherOperations, List.map_nil, List.length_nil, List.length_map] at lengths
      rw [List.length_eq_zero_iff.mp lengths.symm] at inside
      cases inside

/-- A call reads from the operations that the calls before have left, and adds to their
count. -/
theorem executeAgain_eq (fuel : Nat) {state : BatchState Object}
    (gathered : batch.Gathered processing (batch.operationsOf processing state)) :
    batch.executeAgain interpreter processing fuel state =
      (batch.submitPipelines interpreter processing fuel (batch.operationsOf processing state)
        []).map fun result =>
          ⟨result.1,
            if state.configuredPipelinesCount + result.1.length = 0 then
              some batch.notConfigured
            else none,
            ⟨result.2, state.configuredPipelinesCount + result.1.length⟩⟩ := by
  have some := Gathered.isEmpty processing batch batched gathered
  simp only [executeAgain]
  rw [show (if state.fieldBatchOpMap.isEmpty then batch.gatherOperations processing
    else state.fieldBatchOpMap) = batch.operationsOf processing state from rfl, some]
  rfl

theorem operationsOf_after {operations : List (FieldOperation Object)} (count : Nat)
    (gathered : batch.Gathered processing operations) :
    batch.operationsOf processing ⟨operations, count⟩ = operations := by
  simp [operationsOf, Gathered.isEmpty processing batch batched gathered]

theorem nthExecute_after {fuel number : Nat} {call : ExecuteCall Object}
    (called : batch.nthExecute interpreter processing fuel number = some call) :
    batch.Gathered processing call.after.fieldBatchOpMap ∧
      (pendingSteps call.after.fieldBatchOpMap = 0 ∨
        pendingSteps call.after.fieldBatchOpMap + number <
          pendingSteps (batch.gatherOperations processing)) := by
  induction number generalizing call with
  | zero =>
      have start : batch.operationsOf processing {} = batch.gatherOperations processing := rfl
      rw [nthExecute, batch.executeAgain_eq interpreter processing batched fuel
        (congrArg (List.map FieldOperation.field) start)] at called
      rcases Option.map_eq_some_iff.mp called with ⟨⟨pipelines, after⟩, ran, rfl⟩
      rcases batch.submitPipelines_after interpreter processing ran with ⟨fields, le, lt⟩
      refine ⟨fields, ?_⟩
      rw [start] at le lt
      dsimp only
      omega
  | succ number induction =>
      rcases Option.bind_eq_some_iff.mp called with ⟨before, earlier, called⟩
      rcases induction earlier with ⟨gathered, fewer⟩
      have start := operationsOf_after processing batch batched
        before.after.configuredPipelinesCount gathered
      rw [batch.executeAgain_eq interpreter processing batched fuel (start ▸ gathered)] at called
      rcases Option.map_eq_some_iff.mp called with ⟨⟨pipelines, after⟩, ran, rfl⟩
      rw [start] at ran
      rcases batch.submitPipelines_after interpreter processing ran with ⟨fields, le, lt⟩
      refine ⟨fields.trans gathered, ?_⟩
      dsimp only
      omega

theorem refuses_of_nthExecute {fuel : Nat}
    (none : ∀ number call, batch.nthExecute interpreter processing fuel number = some call →
      call.pipelines = []) {number : Nat} {call : ExecuteCall Object}
    (called : batch.nthExecute interpreter processing fuel number = some call) :
    ∃ rounds, number < rounds ∧
      call.after.fieldBatchOpMap =
        processing.behind^[rounds] (batch.gatherOperations processing) ∧
      ∀ round < rounds, batch.Refuses interpreter processing
        (processing.behind^[round] (batch.gatherOperations processing)) := by
  induction number generalizing call with
  | zero =>
      have start : batch.operationsOf processing {} = batch.gatherOperations processing := rfl
      have without := none 0 call called
      rw [nthExecute, batch.executeAgain_eq interpreter processing batched fuel
        (congrArg (List.map FieldOperation.field) start)] at called
      rcases Option.map_eq_some_iff.mp called with ⟨⟨pipelines, after⟩, ran, rfl⟩
      rw [start, show pipelines = [] from without] at ran
      rcases batch.refuses_of_submitPipelines interpreter processing
        (batch.nodup_gatherOperations processing) (.inl rfl) ran with ⟨rounds, same, refuses⟩
      exact ⟨rounds + 1, Nat.succ_pos _, same, fun round within =>
        refuses round (Nat.le_of_lt_succ within)⟩
  | succ number induction =>
      have without := none _ call called
      rcases Option.bind_eq_some_iff.mp called with ⟨before, earlier, called⟩
      have gathered := (batch.nthExecute_after interpreter processing batched earlier).1
      rcases induction earlier with ⟨rounds, more, place, refuses⟩
      have start := operationsOf_after processing batch batched
        before.after.configuredPipelinesCount gathered
      rw [batch.executeAgain_eq interpreter processing batched fuel (start ▸ gathered)] at called
      rcases Option.map_eq_some_iff.mp called with ⟨⟨pipelines, after⟩, ran, rfl⟩
      rw [start, show pipelines = [] from without] at ran
      rcases batch.refuses_of_submitPipelines interpreter processing
        (gathered.nodup processing) (.inl rfl) ran with ⟨further, same, others⟩
      refine ⟨further + 1 + rounds, by omega, ?_, fun round within => ?_⟩
      · rw [Function.iterate_add_apply, ← place]
        exact same
      · rcases Nat.lt_or_ge round rounds with first | later
        · exact refuses round first
        · obtain ⟨beyond, rfl⟩ := Nat.exists_eq_add_of_le' later
          rw [Function.iterate_add_apply, ← place]
          exact others beyond (by omega)

/-- When all rounds are refused, every call ends without a pipeline and raises. -/
theorem nthExecute_of_refuses (refuses : batch.RefusesEveryRound interpreter processing)
    {fuel : Nat} (enough : pendingSteps (batch.gatherOperations processing) < fuel)
    (number : Nat) :
    ∃ call, batch.nthExecute interpreter processing fuel number = some call ∧
      call.pipelines = [] ∧ call.raised = some batch.notConfigured ∧
      call.after.configuredPipelinesCount = 0 ∧
      pendingSteps call.after.fieldBatchOpMap < fuel ∧
      batch.RefusesFrom interpreter processing call.after.fieldBatchOpMap := by
  have one : ∀ (state : BatchState Object) (operations : List (FieldOperation Object)),
      batch.operationsOf processing state = operations →
      batch.Gathered processing operations → state.configuredPipelinesCount = 0 →
      pendingSteps operations < fuel → batch.RefusesFrom interpreter processing operations →
      ∃ call, batch.executeAgain interpreter processing fuel state = some call ∧
        call.pipelines = [] ∧ call.raised = some batch.notConfigured ∧
        call.after.configuredPipelinesCount = 0 ∧
        pendingSteps call.after.fieldBatchOpMap < fuel ∧
        batch.RefusesFrom interpreter processing call.after.fieldBatchOpMap := by
    rintro state operations rfl gathered zero fewer refuses
    have nodup := gathered.nodup processing
    rcases batch.submitPipelines_ends interpreter processing fewer [] with
      ⟨⟨pipelines, after⟩, ran⟩
    have without := batch.submitPipelines_of_refuses interpreter processing nodup (.inl rfl)
      refuses ran
    subst without
    rcases batch.refuses_of_submitPipelines interpreter processing nodup (.inl rfl) ran with
      ⟨rounds, rfl, _⟩
    have le := (batch.submitPipelines_after interpreter processing ran).2.1
    refine ⟨_, by rw [batch.executeAgain_eq interpreter processing batched fuel gathered, ran]; rfl,
      rfl, by simp [zero], by simp [zero], Nat.lt_of_le_of_lt le fewer, fun further => ?_⟩
    rw [← Function.iterate_add_apply]
    exact refuses _
  induction number with
  | zero => exact one {} _ rfl rfl rfl enough refuses
  | succ number induction =>
      rcases induction with ⟨before, earlier, _, _, zero, fewer, left⟩
      have gathered := (batch.nthExecute_after interpreter processing batched earlier).1
      have start := operationsOf_after processing batch batched
        before.after.configuredPipelinesCount gathered
      rcases one before.after _ start gathered zero fewer left with ⟨call, called, rest⟩
      exact ⟨call, by rw [nthExecute, earlier]; exact called, rest⟩

/-- A batch that processes its data again and again has never configured a pipeline: its
calls go on where the calls before have stopped. -/
theorem refuses_of_processesWholeSet (processes : batch.ProcessesWholeSet interpreter processing) :
    batch.RefusesEveryRound interpreter processing := by
  rcases processes with ⟨fuel, first, _, each⟩
  have without : first.pipelines = [] := by
    rcases each (pendingSteps (batch.gatherOperations processing) + 1) with
      ⟨call, called, same, _⟩
    rcases Option.bind_eq_some_iff.mp called with ⟨before, earlier, called⟩
    rcases batch.nthExecute_after interpreter processing batched earlier with ⟨gathered, few⟩
    have start := operationsOf_after processing batch batched
      before.after.configuredPipelinesCount gathered
    rw [batch.executeAgain_eq interpreter processing batched fuel (start ▸ gathered)] at called
    rcases Option.map_eq_some_iff.mp called with ⟨result, ran, rfl⟩
    rw [start] at ran
    have nothing := batch.submitPipelines_of_exhausted interpreter processing
      (gathered.nodup processing) (show pendingSteps before.after.fieldBatchOpMap = 0 by omega)
      ran
    rw [nothing] at same
    exact List.map_eq_nil_iff.mp same.symm
  have none : ∀ number call,
      batch.nthExecute interpreter processing fuel number = some call →
      call.pipelines = [] := by
    intro number call called
    rcases each number with ⟨other, otherCalled, same, _⟩
    rw [called, Option.some_inj] at otherCalled
    rw [← otherCalled, without] at same
    exact List.map_eq_nil_iff.mp same
  intro round
  rcases each round with ⟨call, called, _⟩
  rcases batch.refuses_of_nthExecute interpreter processing batched none called with
    ⟨rounds, more, _, refuses⟩
  exact refuses round more

/-- A batch processes its data again and again only if there is none that its template
accepts: the calls go on where the calls before have stopped, and no call can raise an
exception once one has configured a pipeline. -/
theorem processesWholeSet_iff : batch.ProcessesWholeSet interpreter processing ↔
    batch.RefusesEveryRound interpreter processing := by
  refine ⟨batch.refuses_of_processesWholeSet interpreter processing batched, fun refuses => ?_⟩
  have calls := batch.nthExecute_of_refuses interpreter processing batched refuses
    (Nat.lt_succ_self _)
  rcases calls 0 with ⟨first, called, without, _⟩
  refine ⟨_, first, called, fun number => ?_⟩
  rcases calls number with ⟨call, numbered, nothing, raised, _⟩
  exact ⟨call, numbered, by rw [nothing, without], fun _ => by simp [raised]⟩

end Batched

theorem refusesFrom_of_exhausted {operations : List (FieldOperation Object)}
    (nodup : (operations.map fun operation => operation.field.name).Nodup)
    (exhausted : pendingSteps operations = 0) :
    batch.RefusesFrom interpreter processing operations := by
  have round := processing.executeRound_of_exhausted operations exhausted []
  have stays : processing.behind operations = operations := congrArg Prod.fst round
  intro rounds
  rw [Function.iterate_fixed stays]
  intro kwargs consumed same truthy
  have fresh : OrderedDict.update [] (operations.map fun operation =>
      (operation.field.name, (PyValue.none : PyValue Object))) = _ :=
    update_overwritten nodup (by simp [OrderedDict.keys, Function.comp_def]) (.inl rfl)
  simp only [round, fresh, Except.ok.injEq, Prod.mk.injEq] at same
  rw [← same.1] at truthy
  simp [PyValue.truthy] at truthy

end BatchPipeline

end Calls

/-- The first call makes three pipelines, the second one none. -/
theorem not_processesWholeSet_namedBatch :
    ¬namedBatch.ProcessesWholeSet stringInterpreter (listProcessing stringInterpreter) := by
  intro processes
  have refuses := BatchPipeline.refuses_of_processesWholeSet stringInterpreter
    (listProcessing stringInterpreter) namedBatch.toBatchPipeline
    ⟨{ name := "data", dataType := [.list], batchSize := 2 }, by decide, rfl⟩ processes 0
  rcases refuses _ _ rfl (by decide) with ⟨error, refused⟩
  cases refused

/-- The template refuses the missing name in every round. -/
def namelessBatch : BatchPipeline String where
  template :=
    { text := "<class 'DummyPipeline'>"
      fields := [{ name := "data", dataType := [.list], batchSize := 2 },
        { name := "name", required := true, dataType := [.other "str"] }]
      nodup := by decide }
  arguments := [("data", .list ["1"]), ("name", .none)]

theorem processesWholeSet_namelessBatch :
    namelessBatch.ProcessesWholeSet stringInterpreter (listProcessing stringInterpreter) := by
  refine (BatchPipeline.processesWholeSet_iff stringInterpreter
    (listProcessing stringInterpreter) namelessBatch
    ⟨{ name := "data", dataType := [.list], batchSize := 2 }, by decide, rfl⟩).mpr ?_
  intro rounds
  cases rounds with
  | zero =>
      intro kwargs consumed same _
      cases same
      exact ⟨_, rfl⟩
  | succ rounds =>
      exact BatchPipeline.refusesFrom_of_exhausted stringInterpreter
        (listProcessing stringInterpreter) namelessBatch (by decide) rfl rounds

end EventPipeline
