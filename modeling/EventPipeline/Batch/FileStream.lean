import EventPipeline.Batch.Repeated

/-! # Batches of files

A batch keeps the path of a file as a plain attribute, so its stream processor gets the path
and not the stream that the descriptor of a template opens.
-/

namespace EventPipeline

/-- What the program sees of the file system: the streams among the objects, whether they can
be read and what is in them, and the files. -/
structure FileSystem (Object Symbol : Type) where
  stream : Object → Option (Bool × List Symbol)
  isFile : PyValue Object → Except BatchError Bool
  content : Object → Option (List Symbol)
  chunk : List Symbol → Object
  symbols : Object → List Symbol
  text : PyValue Object → String

section Files

variable {Object Symbol : Type} (files : FileSystem Object Symbol)
  (interpreter : Interpreter Object)

/-- What `file_stream_batch_processor` yields. -/
def fileStreamYields (value : PyValue Object) (chunkSize : Nat) :
    List (Except BatchError (PyValue Object)) :=
  let noStream : List (Except BatchError (PyValue Object)) :=
    [.error (.valueError ("'" ++ files.text value ++ "' is not a file stream"))]
  match value with
  | .none | .list _ | .tuple _ => noStream
  | .object object =>
      match files.stream object with
      | none => noStream
      | some (readable, content) =>
          if readable then
            (slicesOf chunkSize content).map fun part => .ok (.object (files.chunk part))
          else [.error (.valueError ("'" ++ files.text value ++ "' is not a readable stream"))]

/-- `FileInputDataField.__set__` -/
def fileSet (field : InputDataField Object) (value : PyValue Object) :
    Except BatchError (PyValue Object) := do
  if !value.isNone && !(← files.isFile value) then
    throw (.valueError ("Path '" ++ files.text value ++ "' is not a file or does not exist"))
  field.set interpreter value

/-- A conversion to the first type of the field, unless the value has one of its types. -/
def convertChunk (field : InputDataField Object) (value : PyValue Object) :
    Except BatchError (PyValue Object) :=
  if field.dataType.any (value.isInstance interpreter) then .ok value
  else
    match field.dataType with
    | .other name :: _ => interpreter.construct name (match value with
        | .object object => [object]
        | .none => []
        | .list items | .tuple items => items)
    | _ => .error (.indexError "tuple index out of range")

/-- Fields of the class `FileInputDataField` beside fields of lists and tuples. -/
def fileProcessing (isFileField : InputDataField Object → Bool) : BatchProcessing Object where
  hasBatchOperation field := isFileField field || field.hasBatchOperation
  yields field value :=
    if isFileField field then fileStreamYields files value field.batchSize
    else (listProcessing interpreter).yields field value
  convert field value :=
    if isFileField field then convertChunk interpreter field value
    else (listProcessing interpreter).convert field value
  set field value :=
    if isFileField field then fileSet files interpreter field value
    else field.set interpreter value

end Files

/-- A batch whose template has a field for a file, with the path of a file that can be read.
A path is a string or a path object and no stream. -/
structure FileBatch (Object Symbol : Type) extends BatchPipeline Object where
  files : FileSystem Object Symbol
  isFileField : InputDataField Object → Bool
  field : InputDataField Object
  member : field ∈ template.fields
  fileField : isFileField field = true
  chunkSize : 1 ≤ field.batchSize
  path : Object
  content : List Symbol
  given : toBatchPipeline.getattr field.name (.list []) = .object path
  readable : files.content path = some content
  plainPath : files.stream path = none

section Content

variable {Object Symbol : Type} (interpreter : Interpreter Object)
  (batch : FileBatch Object Symbol)

namespace FileBatch

def processing : BatchProcessing Object :=
  fileProcessing batch.files interpreter batch.isFileField

def symbolsOf (pipeline : PipelineInstance Object) : List Symbol :=
  match OrderedDict.get batch.field.name pipeline.arguments with
  | some (.object chunk) => batch.files.symbols chunk
  | _ => []

/-- There is a pipeline for every chunk of the file, and the chunks are its content. -/
def BatchedByContent : Prop :=
  ∃ fuel call, batch.executeAgain interpreter (batch.processing interpreter) fuel {} =
      some call ∧
    call.pipelines.length =
      (batch.content.length + batch.field.batchSize - 1) / batch.field.batchSize ∧
    call.pipelines.flatMap batch.symbolsOf = batch.content

end FileBatch

theorem BatchProcessing.executeRound_of_raises (processing : BatchProcessing Object)
    {operations : List (FieldOperation Object)} {operation : FieldOperation Object}
    (member : operation ∈ operations) {error : BatchError}
    (raises : (processing.nextArgument operation).1 = .error error) (kwargs : Kwargs Object) :
    ∃ raised, (processing.executeRound operations kwargs).2 = .error raised := by
  induction operations generalizing kwargs with
  | nil => cases member
  | cons first rest induction =>
      rcases step : processing.nextArgument first with ⟨other | ⟨consumed, value⟩, next⟩
      · exact ⟨other, by simp only [executeRound, step]⟩
      · rcases List.mem_cons.mp member with rfl | later
        · rw [step] at raises
          cases raises
        · rcases induction later (OrderedDict.insert next.field.name value kwargs) with
            ⟨raised, round⟩
          exact ⟨raised, by simp only [executeRound, step, round, Except.map]⟩

namespace FileBatch

theorem executeRound_raises (kwargs : Kwargs Object) :
    ∃ raised, ((batch.processing interpreter).executeRound
      (batch.gatherOperations (batch.processing interpreter)) kwargs).2 = .error raised := by
  let operation : FieldOperation Object :=
    ⟨batch.field, (batch.processing interpreter).yields batch.field (.object batch.path)⟩
  have member : operation ∈ batch.gatherOperations (batch.processing interpreter) := by
    refine List.mem_map.mpr ⟨batch.field, List.mem_filter.mpr ⟨batch.member, ?_⟩, ?_⟩
    · simp [processing, fileProcessing, batch.fileField]
    · rw [batch.given]
  have refused : operation.pending = [.error (.valueError
      ("'" ++ batch.files.text (.object batch.path) ++ "' is not a file stream"))] := by
    simp [operation, processing, fileProcessing, batch.fileField, fileStreamYields,
      batch.plainPath]
  have raises : ((batch.processing interpreter).nextArgument operation).1 = .error (.valueError
      ("'" ++ batch.files.text (.object batch.path) ++ "' is not a file stream")) := by
    simp [BatchProcessing.nextArgument, FieldOperation.next, refused, Except.bind]
  exact BatchProcessing.executeRound_of_raises _ member raises kwargs

theorem executeAgain_cases (fuel : Nat) :
    batch.executeAgain interpreter (batch.processing interpreter) 0 {} = none ∧
      ∃ after, batch.executeAgain interpreter (batch.processing interpreter) (fuel + 1) {} =
        some ⟨[], some batch.notConfigured, after⟩ := by
  rcases batch.executeRound_raises interpreter [] with ⟨raised, round⟩
  have some : (batch.gatherOperations (batch.processing interpreter)).isEmpty = false := by
    rw [List.isEmpty_eq_false_iff]
    intro empty
    rw [empty] at round
    cases round
  rcases step : (batch.processing interpreter).executeRound
    (batch.gatherOperations (batch.processing interpreter)) [] with ⟨next, result⟩
  rw [step] at round
  dsimp only at round
  subst round
  simp only [BatchPipeline.executeAgain, List.isEmpty_nil, if_true, some, Bool.false_eq_true,
    if_false, BatchPipeline.submitPipelines, step, Option.map_none, Option.map_some, true_and]
  exact ⟨_, rfl⟩

theorem content_of_batchedByContent (batched : batch.BatchedByContent interpreter) :
    batch.content = [] := by
  rcases batched with ⟨fuel, call, called, count, _⟩
  cases fuel with
  | zero =>
      rw [(batch.executeAgain_cases interpreter 0).1] at called
      cases called
  | succ fuel =>
      rcases (batch.executeAgain_cases interpreter fuel).2 with ⟨after, nothing⟩
      rw [nothing, Option.some_inj] at called
      rw [← called, List.length_nil, eq_comm, Nat.div_eq_zero_iff] at count
      have positive := batch.chunkSize
      exact List.length_eq_zero_iff.mp (by omega)

/-- A file is batched by its content exactly when it is empty. -/
theorem batchedByContent_iff : batch.BatchedByContent interpreter ↔ batch.content = [] := by
  refine ⟨batch.content_of_batchedByContent interpreter, fun empty => ?_⟩
  rcases (batch.executeAgain_cases interpreter 0).2 with ⟨after, nothing⟩
  refine ⟨1, _, nothing, ?_, by simp [empty]⟩
  have positive := batch.chunkSize
  rw [empty, List.length_nil, List.length_nil, eq_comm, Nat.div_eq_zero_iff]
  omega

end FileBatch

end Content

/-- One file with six characters. -/
def bookFiles : FileSystem String Char where
  stream _ := none
  isFile value := .ok (decide (value = .object "book.txt"))
  content path := if path = "book.txt" then some "abcdef".toList else none
  chunk := String.ofList
  symbols := String.toList
  text value :=
    match value with
    | .object text => text
    | .none => "None"
    | .list _ | .tuple _ => "[]"

def bookField : InputDataField String where
  name := "book"
  required := true
  dataType := [.other "str", .other "PathLike"]
  batchSize := 2

def bookBatch : FileBatch String Char where
  template := { text := "<class 'Simple'>", fields := [bookField], nodup := by decide }
  arguments := [("book", .object "book.txt")]
  files := bookFiles
  isFileField field := field.name = "book"
  field := bookField
  member := by decide
  fileField := rfl
  chunkSize := by decide
  path := "book.txt"
  content := "abcdef".toList
  given := rfl
  readable := rfl
  plainPath := rfl

/-- The three chunks of the file are never read. -/
theorem not_batchedByContent_bookBatch : ¬bookBatch.BatchedByContent stringInterpreter :=
  fun batched => absurd (bookBatch.content_of_batchedByContent stringInterpreter batched)
    (by decide)

end EventPipeline
