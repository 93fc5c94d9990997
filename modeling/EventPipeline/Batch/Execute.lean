import EventPipeline.Batch.Fields

/-! # Configuring the pipelines of a batch

`BatchPipeline.execute` reads the iterators of the batch fields in lock step and makes a
pipeline for every round. The dictionary of the arguments is shared by the generator of the
rounds and the loop that takes them: what the loop adds to it is there in the next round.
-/

namespace EventPipeline

/-- The iterator of `list_batch_processor`: the items that are left, or the exception of an
input that cannot be iterated over. -/
structure BatchIterator (Object : Type) where
  source : Except BatchError (List Object)
  batchSize : Nat
deriving DecidableEq, Repr

/-- A batch as it has been constructed: the class of its pipelines and the arguments that
were given for their fields. -/
structure BatchPipeline (Object : Type) where
  template : PipelineTemplate Object
  arguments : Kwargs Object

section Rounds

variable {Object : Type} (interpreter : Interpreter Object)

/-- `batched` yields consecutive slices, and nothing behind the last one. -/
def BatchIterator.next (iterator : BatchIterator Object) :
    Except BatchError (Option (List Object) × BatchIterator Object) := do
  let items ← iterator.source
  match items.take iterator.batchSize with
  | [] => return (none, iterator)
  | batch => return (some batch, { iterator with source := .ok (items.drop iterator.batchSize) })

/-- `_convert_value_to_field_data_type`, for the tuples of `batched`. -/
def convertValueToFieldDataType (field : InputDataField Object) :
    Option (List Object) → Except BatchError (PyValue Object)
  | none => .ok .none
  | some batch =>
      if .tuple ∈ field.dataType then .ok (.tuple batch)
      else
        match field.dataType with
        | [] => .error (.indexError "tuple index out of range")
        | .unknown :: _ => .error (.typeError "'object' object is not callable")
        | .list :: _ => .ok (.list batch)
        | .tuple :: _ => .ok (.tuple batch)
        | .other name :: _ => interpreter.construct name batch

abbrev BatchOpMap (Object : Type) := List (InputDataField Object × BatchIterator Object)

/-- One round of `_execute_field_batch_processors`: the iterators behind it, the shared
dictionary, and whether all iterators were used up before. -/
def executeRound : BatchOpMap Object → Kwargs Object →
    Except BatchError (BatchOpMap Object × Kwargs Object × Bool)
  | [], kwargs => .ok ([], kwargs, true)
  | (field, iterator) :: rest, kwargs => do
      let (batch, iterator) ← iterator.next
      let value ← convertValueToFieldDataType interpreter field batch
      let (others, kwargs, consumed) ←
        executeRound rest (OrderedDict.insert field.name value kwargs)
      return ((field, iterator) :: others, kwargs, batch.isNone && consumed)

namespace BatchPipeline

def getattr (batch : BatchPipeline Object) (name : String) (default : PyValue Object) :
    PyValue Object :=
  (OrderedDict.get name batch.arguments).getD default

def gatherFieldBatchIterators (batch : BatchPipeline Object) : BatchOpMap Object :=
  batch.template.getBatchFields.map fun field =>
    (field, ⟨match batch.getattr field.name (.list []) with
      | .list items | .tuple items => .ok items
      | .none => .error (.typeError "'NoneType' object is not iterable")
      | .object value =>
          match interpreter.iterate value with
          | some items => .ok items
          | none => .error (.typeError
              ("'" ++ interpreter.typeName value ++ "' object is not iterable")),
      field.batchSize⟩)

def prepareArgsForNonBatchFields (batch : BatchPipeline Object) : Kwargs Object :=
  batch.template.getNonBatchFields.map fun field =>
    (field.name, batch.getattr field.name .none)

/-- What the loop does with the arguments of a round: a pipeline is made when one of them is
true. -/
def takeRound (batch : BatchPipeline Object) (kwargs : Kwargs Object) :
    Except BatchError (Kwargs Object × Option (PipelineInstance Object)) :=
  if kwargs.any fun entry => entry.2.truthy interpreter then do
    let kwargs := OrderedDict.update kwargs batch.prepareArgsForNonBatchFields
    return (kwargs, some (← batch.template.init interpreter kwargs))
  else
    .ok (kwargs, none)

/-- The loop of `execute`: the pipelines that are configured, and the exception that ends it.
`none` stands for a loop that has not ended after `fuel` rounds. -/
def configurePipelines (batch : BatchPipeline Object) : Nat → BatchOpMap Object →
    Kwargs Object → Option (List (PipelineInstance Object) × Option BatchError)
  | 0, _, _ => none
  | fuel + 1, iterators, kwargs =>
      match executeRound interpreter iterators kwargs with
      | .error error => some ([], some error)
      | .ok (iterators, kwargs, consumed) =>
          match batch.takeRound interpreter kwargs with
          | .error error => some ([], some error)
          | .ok (kwargs, pipeline) =>
              if consumed then some (pipeline.toList, none)
              else
                (batch.configurePipelines fuel iterators kwargs).map fun (rest, error) =>
                  (pipeline.toList ++ rest, error)

/-- The pipelines that `execute` configures, and what it raises. The exception that ends the
loop is logged. -/
def execute (batch : BatchPipeline Object) (fuel : Nat) :
    Option (List (PipelineInstance Object) × Option BatchError) :=
  let iterators := batch.gatherFieldBatchIterators interpreter
  if iterators.isEmpty then
    match batch.template.init interpreter batch.prepareArgsForNonBatchFields with
    | .error error => some ([], some error)
    | .ok pipeline => some ([pipeline], none)
  else
    (batch.configurePipelines interpreter fuel iterators []).map fun (pipelines, _) =>
      (pipelines, if pipelines.isEmpty then
        some (.pipelineConfigurationError
          ("Starting batch execution of pipeline '" ++ batch.template.text ++
            "' failed. No pipeline were configured.")
          "not_configured_pipeline")
        else none)

end BatchPipeline

end Rounds

end EventPipeline
