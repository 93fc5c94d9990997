import EventPipeline.Execution.Serialization

/-! # Restoring a result

The state that a result is pickled with is assigned to the attributes of a new instance. A content
that is no builtin is described by its class and its state, and built anew from these. The
parameters are taken out of the state and not assigned.
-/

namespace EventPipeline

/-- What is done with values and classes when a result is restored. -/
structure RestoringModel (Value Klass : Type) extends SerializationModel Value where
  text : String → Value
  typeOf : Value → Klass
  /-- The items with text keys, for a dictionary. -/
  entries : Value → Option (ParamsDict Value)
  importString : Value → Except SerializationError Klass
  /-- `klass.__new__(klass)` -/
  new : Klass → Except SerializationError Value
  /-- The instance after `instance.__setstate__(state)`. -/
  setstate : Value → Value → Except SerializationError Value
  /-- Optional fields have the class attribute `None`, which is read from an instance without
  the attribute. -/
  defaultsToNone : Bool

structure RestoredResult (Value : Type) where
  id : String
  backend : Option ResultBackend
  error : Bool
  eventName : String
  content : Value
  taskId : Option String
  initParams : Except SerializationError (Option (ParamsDict Value))
  callParams : Except SerializationError (Option (ParamsDict Value))
  processId : Int
  creationTime : Int

namespace RestoringModel

variable {Value Klass : Type} (model : RestoringModel Value Klass)

/-- An instance of a class that is imported by its name, with a state. -/
def rebuild (importStr state : Value) : Except SerializationError Value := do
  let klass ← model.importString importStr
  let created ← model.new klass
  model.setstate created state

/-- What `set_state` makes of the content. A dictionary with the key of a description is taken for
a description. -/
def restoreContent : SerializedContent Value → Except SerializationError Value
  | .described importStr state => model.rebuild (model.text importStr) state
  | .value content =>
      match (model.entries content).bind (OrderedDict.get "content_type_import_str") with
      | none => .ok content
      | some importStr =>
          match (model.entries content).bind (OrderedDict.get "state") with
          | none => .error (.other "KeyError")
          | some state => model.rebuild importStr state

/-- An attribute that has not been assigned. -/
def unassigned : Except SerializationError (Option (ParamsDict Value)) :=
  if model.defaultsToNone then .ok none else .error .attributeError

/-- The backend is imported; without success it is not assigned. -/
def restoreBackend : Option ResultBackend → Option ResultBackend
  | none => none
  | some backend =>
      match model.importString (model.text backend.importStr) with
      | .ok _ => some (.klass backend.importStr)
      | .error _ => none

/-- `set_state`, on a new instance. -/
def setState (state : SerializedState Value) :
    Except SerializationError (RestoredResult Value) := do
  let content ← model.restoreContent state.content
  return {
    id := state.id
    backend := model.restoreBackend state.backend
    error := state.error
    eventName := state.eventName
    content := content
    taskId := state.taskId
    initParams := model.unassigned
    callParams := model.unassigned
    processId := state.processId
    creationTime := state.creationTime }

/-- `__setstate__`, on a new instance. -/
def restore (state : SerializedState Value) :
    Except SerializationError (RestoredResult Value) :=
  match model.setState state with
  | .error .notImplementedError => .error (.other "UnpicklingError")
  | result => result

def SameContent (content restored : Value) : Prop :=
  if model.isNone content = true ∨ model.isBuiltin content = true then restored = content
  else model.typeOf restored = model.typeOf content ∧
    model.getObjState restored = model.getObjState content

/-- The same parameters, but for an execution context that is replaced by its identity. -/
def SameUpToContext (original restored : Option (ParamsDict Value)) : Prop :=
  restored = original ∨ ∃ initParams executionContext id,
    original = some initParams ∧ model.contextToReplace initParams = some executionContext ∧
      model.id executionContext = .ok id ∧
      restored = some (OrderedDict.insert "execution_context" id initParams)

structure RestoredAs (live : LiveResult Value) (restored : RestoredResult Value) : Prop where
  id : restored.id = live.object.id
  error : restored.error = live.object.error
  eventName : restored.eventName = live.object.eventName
  content : model.SameContent live.object.content restored.content
  taskId : restored.taskId = live.object.taskId
  processId : restored.processId = live.object.processId
  creationTime : restored.creationTime = live.object.creationTime
  callParams : restored.callParams = .ok (live.object.callParams.map live.dictAt)
  initParams : ∃ params, restored.initParams = .ok params ∧
    model.SameUpToContext (live.object.initParams.map live.dictAt) params

/-- The state of the result can be taken and restored, and what is restored is the same. -/
def SurvivesStorage (live : LiveResult Value) : Prop :=
  ∃ state next restored, model.pickle live = .ok state next ∧
    model.restore state = .ok restored ∧ model.RestoredAs live restored

/-- A builtin content is no dictionary that is taken for a description of another object; any
other content can be built anew from its class and its state. -/
def Rebuilds (content : Value) : Prop :=
  if model.isNone content = true ∨ model.isBuiltin content = true then
    ∀ importStr, (model.entries content).bind (OrderedDict.get "content_type_import_str") =
        some importStr →
      ∃ state, (model.entries content).bind (OrderedDict.get "state") = some state ∧
        model.rebuild importStr state = .ok content
  else ∃ state restored, model.getObjState content = .ok state ∧
    model.rebuild (model.text (model.klassImportStr content)) state = .ok restored ∧
    model.typeOf restored = model.typeOf content ∧ model.getObjState restored = .ok state

/-- There are no parameters, which are read as `None`, and the content is built anew. -/
structure KeptByStorage (live : LiveResult Value) : Prop where
  defaultsToNone : model.defaultsToNone = true
  initParams : live.object.initParams = none
  callParams : live.object.callParams = none
  content : model.Rebuilds live.object.content

variable {model}

/-! ## The content -/

theorem rebuilds_iff (content : Value) :
    model.Rebuilds content ↔ ∃ saved restored, model.saveContent content = .ok saved ∧
      model.restoreContent saved = .ok restored ∧ model.SameContent content restored := by
  by_cases plain : model.isNone content = true ∨ model.isBuiltin content = true
  · rw [Rebuilds, if_pos plain, SerializationModel.saveContent, if_pos plain]
    simp only [SameContent, if_pos plain]
    constructor
    · intro rebuilds
      refine ⟨.value content, content, rfl, ?_, rfl⟩
      rw [restoreContent]
      cases described : (model.entries content).bind
          (OrderedDict.get "content_type_import_str") with
      | none => rfl
      | some importStr =>
          rcases rebuilds importStr described with ⟨state, found, rebuilt⟩
          simp only [found, rebuilt]
    · rintro ⟨saved, restored, same, returned, rfl⟩ importStr described
      obtain rfl := Except.ok.inj same
      rw [restoreContent, described] at returned
      cases found : (model.entries restored).bind (OrderedDict.get "state") with
      | none =>
          rw [found] at returned
          cases returned
      | some state =>
          rw [found] at returned
          exact ⟨state, rfl, returned⟩
  · rw [Rebuilds, if_neg plain, SerializationModel.saveContent, if_neg plain]
    simp only [SameContent, if_neg plain]
    constructor
    · rintro ⟨state, restored, taken, rebuilt, type, same⟩
      refine ⟨.described (model.klassImportStr content) state, restored, ?_, rebuilt, type, ?_⟩
      · rw [taken]
        rfl
      · rw [same, taken]
    · rintro ⟨saved, restored, same, returned, type, equal⟩
      cases taken : model.getObjState content with
      | error error =>
          rw [taken] at same
          cases same
      | ok state =>
          rw [taken] at same
          obtain rfl := Except.ok.inj same
          exact ⟨state, restored, rfl, returned, type, equal.trans taken⟩

/-! ## The whole result -/

variable (model) in
def stateWith (live : LiveResult Value) (saved : SerializedContent Value) :
    SerializedState Value where
  id := live.object.id
  backend := live.object.backend.map fun backend => .name backend.importStr
  error := live.object.error
  eventName := live.object.eventName
  content := saved
  taskId := live.object.taskId
  initParams := [("execution_context", model.emptyDict)]
  callParams := live.object.callParams.map live.dictAt
  processId := live.object.processId
  creationTime := live.object.creationTime

section Pickling

variable {live next : LiveResult Value} {state : SerializedState Value}
  {saved : SerializedContent Value} {restored : RestoredResult Value}

theorem saveInitParams_of_noParams (noParams : live.object.initParams = none) :
    model.saveInitParams live = .ok [("execution_context", model.emptyDict)] live := by
  rw [SerializationModel.saveInitParams, Effects.run_get_bind]
  simp only [noParams]
  rfl

theorem pickle_of_noParams (noParams : live.object.initParams = none)
    (taken : model.saveContent live.object.content = .ok saved) :
    model.pickle live = .ok (model.stateWith live saved) live := by
  rw [SerializationModel.pickle, SerializationModel.stateOf,
    Effects.run_bind_ok (saveInitParams_of_noParams noParams), Effects.run_get_bind, taken]
  rfl

theorem saveContent_of_pickle (noParams : live.object.initParams = none)
    (pickled : model.pickle live = .ok state next) :
    ∃ saved, model.saveContent live.object.content = .ok saved ∧
      state = model.stateWith live saved := by
  cases taken : model.saveContent live.object.content with
  | ok saved =>
      rw [pickle_of_noParams noParams taken] at pickled
      injection pickled with same
      exact ⟨saved, rfl, same.symm⟩
  | error error =>
      rw [SerializationModel.pickle, SerializationModel.stateOf,
        Effects.run_bind_ok (saveInitParams_of_noParams noParams), Effects.run_get_bind,
        taken] at pickled
      cases error <;> cases pickled

theorem setState_of_restore (restores : model.restore state = .ok restored) :
    model.setState state = .ok restored := by
  rw [restore] at restores
  split at restores
  · cases restores
  · exact restores

/-- What a restored result has is what was saved, except for its parameters. -/
theorem restored_eq (restores : model.restore state = .ok restored) :
    ∃ content, model.restoreContent state.content = .ok content ∧
      restored = {
        id := state.id
        backend := model.restoreBackend state.backend
        error := state.error
        eventName := state.eventName
        content := content
        taskId := state.taskId
        initParams := model.unassigned
        callParams := model.unassigned
        processId := state.processId
        creationTime := state.creationTime } := by
  have assigned := setState_of_restore restores
  rw [setState] at assigned
  cases returned : model.restoreContent state.content with
  | error error =>
      rw [returned] at assigned
      cases assigned
  | ok content =>
      rw [returned] at assigned
      exact ⟨content, rfl, (Except.ok.inj assigned).symm⟩

theorem restore_of_content {content : Value}
    (returned : model.restoreContent state.content = .ok content) :
    ∃ restored, model.restore state = .ok restored := by
  rw [restore, setState, returned]
  exact ⟨_, rfl⟩

theorem unassigned_eq_ok_iff {params : Option (ParamsDict Value)} :
    model.unassigned = .ok params ↔ model.defaultsToNone = true ∧ params = none := by
  rw [unassigned]
  split
  · rename_i default
    simp [default, eq_comm]
  · rename_i default
    simp [default]

end Pickling

/-- A result survives storage exactly if it has no parameters and its content is built anew. -/
theorem survivesStorage_iff (model : RestoringModel Value Klass) (live : LiveResult Value) :
    model.SurvivesStorage live ↔ model.KeptByStorage live := by
  constructor
  · rintro ⟨state, next, restored, pickled, restores, same⟩
    rcases restored_eq restores with ⟨content, returned, rfl⟩
    rcases same.initParams with ⟨params, read, upTo⟩
    rcases unassigned_eq_ok_iff.mp read with ⟨default, rfl⟩
    have callParams := (unassigned_eq_ok_iff.mp same.callParams).2
    rw [Option.map_eq_none_iff] at callParams
    have initParams : live.object.initParams = none := by
      rcases upTo with equal | ⟨_, _, _, -, -, -, replaced⟩
      · exact Option.map_eq_none_iff.mp equal.symm
      · cases replaced
    rcases saveContent_of_pickle initParams pickled with ⟨saved, taken, rfl⟩
    refine ⟨default, initParams, callParams, ?_⟩
    exact (rebuilds_iff _).mpr ⟨saved, content, taken, returned, same.content⟩
  · intro kept
    rcases (rebuilds_iff _).mp kept.content with ⟨saved, content, taken, returned, same⟩
    have pickled := pickle_of_noParams kept.initParams taken
    have found : model.restoreContent (model.stateWith live saved).content = .ok content := returned
    rcases restore_of_content found with ⟨restored, restores⟩
    rcases restored_eq restores with ⟨other, also, rfl⟩
    obtain rfl := Except.ok.inj (found.symm.trans also)
    have read := unassigned_eq_ok_iff.mpr ⟨kept.defaultsToNone, rfl⟩
    refine ⟨_, _, _, pickled, restores, rfl, rfl, rfl, same, rfl, rfl, rfl, ?_, none, read, ?_⟩
    · rw [kept.callParams]
      exact read
    · rw [kept.initParams]
      exact .inl rfl

end RestoringModel

/-- Values of which only texts name classes, and none can be given a state. -/
def restoringParams : RestoringModel ParamValue String where
  toSerializationModel := paramModel
  text := .text
  typeOf := paramModel.klassImportStr
  entries value :=
    match value with
    | .emptyDict => some []
    | _ => none
  importString value :=
    match value with
    | .text name => .ok name
    | _ => .error .attributeError
  new _ := .ok .emptyDict
  setstate _ _ := .error .attributeError
  defaultsToNone := true

/-- An event that was called with an argument. -/
def calledResult : LiveResult ParamValue where
  object := {
    id := "EventResult-1"
    backend := none
    error := false
    eventName := "Fetch"
    content := .text "page"
    taskId := some "task-1"
    initParams := none
    callParams := some 0
    processId := 1
    creationTime := 0 }
  dicts := Arena.empty.alloc [("url", .text "/index")]

/-- Its arguments are lost. -/
theorem not_survivesStorage_calledResult : ¬ restoringParams.SurvivesStorage calledResult := by
  intro survives
  have kept := (RestoringModel.survivesStorage_iff restoringParams calledResult).mp survives
  cases kept.callParams

end EventPipeline
