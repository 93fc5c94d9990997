import EventPipeline.Batch.Execute
import EventPipeline.Foundation.Loop
import Mathlib.Data.List.TakeWhile
import Mathlib.Order.MinMax

/-! # Batches cover the data

The rounds of a batch with list fields go through consecutive slices of the input lists.
The round behind the last slices is the one in which the shared dictionary matters: its
arguments are all `None`, but the values of the other fields are still there.
-/

namespace EventPipeline

/-- A batch of pipelines that have list fields with the default batch processor. -/
structure ListBatch (Object : Type) extends BatchPipeline Object where
  input : InputDataField Object → List Object
  someField : template.getBatchFields ≠ []
  listField : ∀ field ∈ template.getBatchFields, field.dataType = [.list]
  batchSize : ∀ field ∈ template.getBatchFields, 1 ≤ field.batchSize
  given : ∀ field ∈ template.getBatchFields,
    toBatchPipeline.getattr field.name (.list []) = .list (input field)

section Slices

variable {Object : Type}

def PyValue.ofSlice : List Object → PyValue Object
  | [] => .none
  | part => .list part

def PyValue.items : PyValue Object → List Object
  | .list items | .tuple items => items
  | .none | .object _ => []

theorem PyValue.items_ofSlice (part : List Object) : (PyValue.ofSlice part).items = part := by
  cases part <;> rfl

theorem PyValue.truthy_ofSlice (interpreter : Interpreter Object) (part : List Object) :
    (PyValue.ofSlice part).truthy interpreter = !part.isEmpty := by
  cases part <;> rfl

namespace ListBatch

variable (batch : ListBatch Object)

/-- The number of batches of a field, `ceil(len / size)`. -/
def batches (field : InputDataField Object) : Nat :=
  ((batch.input field).length + field.batchSize - 1) / field.batchSize

def rounds : Nat :=
  (batch.template.getBatchFields.map batch.batches).foldr max 0

def left (field : InputDataField Object) (round : Nat) : List Object :=
  (batch.input field).drop (round * field.batchSize)

def slice (field : InputDataField Object) (round : Nat) : PyValue Object :=
  .ofSlice ((batch.left field round).take field.batchSize)

def slices (round : Nat) : Kwargs Object :=
  batch.template.getBatchFields.map fun field => (field.name, batch.slice field round)

def argumentsAt (round : Nat) : Kwargs Object :=
  batch.slices round ++ batch.prepareArgsForNonBatchFields

end ListBatch

end Slices

/-- The pipelines that a batch configures get the slices of the data and all other values. -/
structure CoversData {Object : Type} (batch : ListBatch Object)
    (pipelines : List (PipelineInstance Object)) : Prop where
  count : pipelines.length = batch.rounds
  slices : ∀ round pipeline, pipelines[round]? = some pipeline →
    ∀ field ∈ batch.template.getBatchFields,
      OrderedDict.get field.name pipeline.arguments = some (batch.slice field round)
  others : ∀ pipeline ∈ pipelines, ∀ field ∈ batch.template.getNonBatchFields,
    OrderedDict.get field.name pipeline.arguments = some (batch.getattr field.name .none)
  whole : ∀ field ∈ batch.template.getBatchFields,
    (pipelines.flatMap fun pipeline =>
      ((OrderedDict.get field.name pipeline.arguments).getD .none).items) = batch.input field
  used : ∀ pipeline ∈ pipelines, ∃ field ∈ batch.template.getBatchFields,
    OrderedDict.get field.name pipeline.arguments ≠ some .none

/-- The batch is executed and its pipelines cover the data. -/
def BatchesCover {Object : Type} (interpreter : Interpreter Object) (batch : ListBatch Object) :
    Prop :=
  ∃ fuel pipelines raised, batch.execute interpreter fuel = some (pipelines, raised) ∧
    CoversData batch pipelines

/-- The field takes no `None`: it is required and has no default. -/
def InputDataField.refusesNone {Object : Type} (field : InputDataField Object) : Bool :=
  field.required && field.default.isNone && field.defaultFactory.isNone

/-! ## Rounds -/

section Rounds

variable {Object : Type} (interpreter : Interpreter Object) (batch : ListBatch Object)

namespace ListBatch

theorem lt_batches_iff {field : InputDataField Object} (positive : 1 ≤ field.batchSize)
    (round : Nat) : round < batch.batches field ↔ batch.left field round ≠ [] := by
  rw [batches, left, Ne, List.drop_eq_nil_iff, Nat.not_le, ← Nat.succ_le_iff,
    Nat.le_div_iff_mul_le positive, Nat.succ_mul]
  omega

theorem lt_rounds_iff (round : Nat) :
    round < batch.rounds ↔ ∃ field ∈ batch.template.getBatchFields,
      round < batch.batches field := by
  unfold rounds
  induction batch.template.getBatchFields with
  | nil => simp
  | cons field rest induction =>
      rw [List.map_cons, List.foldr_cons, lt_max_iff, induction]
      simp

theorem batches_le_rounds {field : InputDataField Object}
    (member : field ∈ batch.template.getBatchFields) : batch.batches field ≤ batch.rounds := by
  by_contra more
  have further := (batch.lt_rounds_iff batch.rounds).mpr ⟨field, member, Nat.not_le.mp more⟩
  exact Nat.lt_irrefl _ further

theorem left_add_one (field : InputDataField Object) (round : Nat) :
    batch.left field (round + 1) = (batch.left field round).drop field.batchSize := by
  rw [left, left, List.drop_drop, Nat.add_mul, Nat.one_mul]

def iteratorsAt (fields : List (InputDataField Object)) (round : Nat) : BatchOpMap Object :=
  fields.map fun field => (field, ⟨.ok (batch.left field round), field.batchSize⟩)

theorem next_eq {field : InputDataField Object} (list : field.dataType = [.list])
    (positive : 1 ≤ field.batchSize) (round : Nat) :
    ∃ part, BatchIterator.next ⟨.ok (batch.left field round), field.batchSize⟩ =
        .ok (part, ⟨.ok (batch.left field (round + 1)), field.batchSize⟩) ∧
      part.isNone = (batch.left field round).isEmpty ∧
      convertValueToFieldDataType interpreter field part = .ok (batch.slice field round) := by
  rw [left_add_one]
  cases whole : batch.left field round with
  | nil =>
      refine ⟨none, ?_, rfl, ?_⟩
      · simp [BatchIterator.next, bind, Except.bind, pure, Except.pure]
      · rw [slice, whole, List.take_nil]
        rfl
  | cons item items =>
      obtain ⟨size, sized⟩ := Nat.exists_eq_add_of_le' positive
      refine ⟨some (item :: items.take size), ?_, rfl, ?_⟩
      · simp [BatchIterator.next, sized, bind, Except.bind, pure, Except.pure]
      · simp [convertValueToFieldDataType, list, slice, whole, sized, PyValue.ofSlice]

theorem executeRound_eq {fields : List (InputDataField Object)}
    (among : fields ⊆ batch.template.getBatchFields) (round : Nat) (kwargs : Kwargs Object) :
    executeRound interpreter (batch.iteratorsAt fields round) kwargs =
      .ok (batch.iteratorsAt fields (round + 1),
        OrderedDict.update kwargs
          (fields.map fun field => (field.name, batch.slice field round)),
        fields.all fun field => (batch.left field round).isEmpty) := by
  induction fields generalizing kwargs with
  | nil => rfl
  | cons field fields induction =>
      have member := among List.mem_cons_self
      have others := induction fun other inside => among (List.mem_cons_of_mem _ inside)
      rcases batch.next_eq interpreter (batch.listField field member)
        (batch.batchSize field member) round with ⟨part, yielded, used, value⟩
      simp only [iteratorsAt] at others ⊢
      simp only [List.map_cons, executeRound, yielded, value, others, bind, Except.bind, pure,
        Except.pure, OrderedDict.update_cons, List.all_cons, used]

end ListBatch

/-! ## Pipelines -/

theorem PipelineTemplate.mem_signature {template : PipelineTemplate Object}
    {field : InputDataField Object} : field ∈ template.signature ↔ field ∈ template.fields := by
  cases present : field.hasDefault <;> simp [PipelineTemplate.signature, present]

section Arguments

variable {template : PipelineTemplate Object} {kwargs : Kwargs Object}
  {value : InputDataField Object → PyValue Object}
  (given : ∀ field ∈ template.fields, OrderedDict.get field.name kwargs = some (value field))
  (known : ∀ entry ∈ kwargs, ∃ field ∈ template.fields, field.name = entry.1)
include given known

theorem PipelineTemplate.bindSignature_eq : template.bindSignature kwargs =
    .ok (template.signature.map fun field => (field, value field)) := by
  have each : ∀ field ∈ template.signature,
      field.argument kwargs = .ok (some (field, value field)) := by
    intro field member
    simp [InputDataField.argument, given field (PipelineTemplate.mem_signature.mp member)]
  have expected : kwargs.find? (fun entry =>
      !template.fields.any fun field => field.name = entry.1) = none := by
    rw [List.find?_eq_none]
    intro entry member
    simpa using known entry member
  rw [PipelineTemplate.bindSignature, mapM_eq_ok each]
  simp only [bind, Except.bind, expected, pure, Except.pure, List.filterMap_map,
    Function.id_comp]
  rw [List.filterMap_eq_map']

theorem PipelineTemplate.init_cases :
    if template.fields.all fun field => field.accepts interpreter (value field) then
      ∃ fields, template.init interpreter kwargs = .ok ⟨kwargs, fields⟩
    else
      ∃ error, template.init interpreter kwargs = .error error := by
  have stores : ∀ field : InputDataField Object,
      field.accepts interpreter (value field) = true ↔
        ∃ stored, (do return (field.name, ← field.set interpreter (value field)) :
          Except BatchError (String × PyValue Object)) = .ok stored := by
    intro field
    unfold InputDataField.accepts
    cases field.set interpreter (value field) <;> simp [bind, Except.bind, pure, Except.pure]
  have made : template.init interpreter kwargs = (do
      let fields ← template.signature.mapM fun field => do
        return (field.name, ← field.set interpreter (value field))
      return ⟨kwargs, fields⟩) := by
    rw [PipelineTemplate.init, PipelineTemplate.bindSignature_eq given known]
    simp only [bind, Except.bind, List.mapM_map]
    rfl
  rw [made]
  split
  · rename_i accepted
    have each := List.all_eq_true.mp accepted
    rcases mapM_ok_iff.mpr fun field member =>
      (stores field).mp (each field (PipelineTemplate.mem_signature.mp member)) with
      ⟨fields, stored⟩
    exact ⟨fields, by rw [stored]; rfl⟩
  · rename_i refused
    rcases stored : template.signature.mapM fun field => (do
      return (field.name, ← field.set interpreter (value field)) :
        Except BatchError (String × PyValue Object)) with error | fields
    · exact ⟨error, by rw [stored]; rfl⟩
    · refine absurd (List.all_eq_true.mpr fun field member => (stores field).mpr ?_) refused
      exact mapM_ok_iff.mp ⟨fields, stored⟩ field (PipelineTemplate.mem_signature.mpr member)

end Arguments

namespace ListBatch

def valueAt (round : Nat) (field : InputDataField Object) : PyValue Object :=
  if field.hasBatchOperation then batch.slice field round else batch.getattr field.name .none

def accepted (round : Nat) : Bool :=
  batch.template.fields.all fun field => field.accepts interpreter (batch.valueAt round field)

def someTruthy : Bool :=
  batch.prepareArgsForNonBatchFields.any fun entry => entry.2.truthy interpreter

theorem keys_slices (round : Nat) : OrderedDict.keys (batch.slices round) =
    batch.template.getBatchFields.map InputDataField.name := by
  simp [OrderedDict.keys, slices]

theorem nodup_argumentsAt (round : Nat) :
    (OrderedDict.keys (batch.argumentsAt round)).Nodup := by
  have keys : OrderedDict.keys (batch.argumentsAt round) =
      batch.template.getBatchFields.map InputDataField.name ++
        batch.template.getNonBatchFields.map InputDataField.name := by
    simp [OrderedDict.keys, argumentsAt, slices, BatchPipeline.prepareArgsForNonBatchFields,
      Function.comp_def]
  have apart := batch.template.nodup
  rw [keys, List.nodup_append]
  refine ⟨apart.sublist (List.filter_sublist.map _), apart.sublist (List.filter_sublist.map _), ?_⟩
  intro name inBatch other outside same
  rcases List.mem_map.mp inBatch with ⟨field, batched, rfl⟩
  rcases List.mem_map.mp outside with ⟨unbatched, kept, rfl⟩
  rcases List.mem_filter.mp batched with ⟨member, operation⟩
  rcases List.mem_filter.mp kept with ⟨otherMember, otherOperation⟩
  rw [List.inj_on_of_nodup_map apart member otherMember same] at operation
  simp [operation] at otherOperation

theorem mem_argumentsAt (round : Nat) {field : InputDataField Object}
    (member : field ∈ batch.template.fields) :
    (field.name, batch.valueAt round field) ∈ batch.argumentsAt round := by
  unfold valueAt argumentsAt
  split
  · rename_i operation
    refine List.mem_append_left _ (List.mem_map.mpr ⟨field, ?_, rfl⟩)
    exact List.mem_filter.mpr ⟨member, operation⟩
  · rename_i operation
    refine List.mem_append_right _ (List.mem_map.mpr ⟨field, ?_, rfl⟩)
    exact List.mem_filter.mpr ⟨member, by simpa using operation⟩

theorem get_argumentsAt (round : Nat) {field : InputDataField Object}
    (member : field ∈ batch.template.fields) :
    OrderedDict.get field.name (batch.argumentsAt round) = some (batch.valueAt round field) :=
  OrderedDict.get_of_mem (batch.nodup_argumentsAt round) (batch.mem_argumentsAt round member)

theorem init_argumentsAt (round : Nat) :
    if batch.accepted interpreter round then
      ∃ fields, batch.template.init interpreter (batch.argumentsAt round) =
        .ok ⟨batch.argumentsAt round, fields⟩
    else
      ∃ error, batch.template.init interpreter (batch.argumentsAt round) = .error error := by
  refine PipelineTemplate.init_cases interpreter
    (fun field member => batch.get_argumentsAt round member) fun entry member => ?_
  rcases List.mem_append.mp member with inside | inside
  · rcases List.mem_map.mp inside with ⟨field, batched, rfl⟩
    exact ⟨field, (List.mem_filter.mp batched).1, rfl⟩
  · rcases List.mem_map.mp inside with ⟨field, kept, rfl⟩
    exact ⟨field, (List.mem_filter.mp kept).1, rfl⟩

theorem any_slices (round : Nat) :
    (batch.slices round).any (fun entry => entry.2.truthy interpreter) = true ↔
      round < batch.rounds := by
  rw [lt_rounds_iff, List.any_eq_true]
  constructor
  · rintro ⟨entry, member, true⟩
    rcases List.mem_map.mp member with ⟨field, batched, rfl⟩
    refine ⟨field, batched, (batch.lt_batches_iff (batch.batchSize field batched) round).mpr ?_⟩
    intro used
    simp [slice, used, PyValue.truthy_ofSlice] at true
  · rintro ⟨field, batched, left⟩
    have positive := batch.batchSize field batched
    have some := (batch.lt_batches_iff positive round).mp left
    refine ⟨_, List.mem_map_of_mem batched, ?_⟩
    have sized : field.batchSize ≠ 0 := Nat.one_le_iff_ne_zero.mp positive
    simp [slice, PyValue.truthy_ofSlice, some, sized]

/-- The shared dictionary in front of a round. -/
def dictAt : Nat → Kwargs Object
  | 0 => []
  | round + 1 => batch.argumentsAt round

/-- The dictionary that a round yields is true as long as there is data, and behind the
first round when one of the other values is true. In any case the pipeline is made from the
slices and all other values. -/
theorem update_dictAt (round : Nat) :
    ((OrderedDict.update (batch.dictAt round) (batch.slices round)).any
        (fun entry => entry.2.truthy interpreter) =
      (decide (round < batch.rounds) || (decide (round ≠ 0) && batch.someTruthy interpreter))) ∧
    OrderedDict.update (OrderedDict.update (batch.dictAt round) (batch.slices round))
      batch.prepareArgsForNonBatchFields = batch.argumentsAt round := by
  have nodup := batch.nodup_argumentsAt round
  have slices : (batch.slices round).any (fun entry => entry.2.truthy interpreter) =
      decide (round < batch.rounds) := by
    rw [Bool.eq_iff_iff, any_slices, decide_eq_true_eq]
  cases round with
  | zero =>
      have front : (OrderedDict.keys ([] ++ batch.slices 0)).Nodup := by
        refine nodup.sublist ?_
        rw [argumentsAt, List.nil_append, OrderedDict.keys, OrderedDict.keys, List.map_append]
        exact List.sublist_append_left _ _
      rw [dictAt, OrderedDict.update_of_disjoint front, List.nil_append, slices,
        OrderedDict.update_of_disjoint nodup]
      simp [argumentsAt]
  | succ round =>
      have replaced : OrderedDict.update (batch.argumentsAt round) (batch.slices (round + 1)) =
          batch.argumentsAt (round + 1) := by
        have same : OrderedDict.keys (batch.slices (round + 1)) =
            OrderedDict.keys (batch.slices round) := by
          rw [keys_slices, keys_slices]
        apply @OrderedDict.update_of_keys_eq _ _ _ [] _ (batch.slices round) _ same
        rw [List.nil_append, ← same]
        refine nodup.sublist ?_
        rw [argumentsAt, OrderedDict.keys, OrderedDict.keys, List.map_append]
        exact List.sublist_append_left _ _
      rw [dictAt, replaced]
      constructor
      · rw [argumentsAt, List.any_append, slices]
        simp [someTruthy]
      · have again := @OrderedDict.update_of_keys_eq _ _ _ (batch.slices (round + 1))
          batch.prepareArgsForNonBatchFields batch.prepareArgsForNonBatchFields [] rfl nodup
        simpa [argumentsAt] using again

end ListBatch

end Rounds

end EventPipeline
