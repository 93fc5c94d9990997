import EventPipeline.Execution.Lossless
import EventPipeline.Foundation.Arena
import EventPipeline.Foundation.Effects

/-! # Serializing a result

A result is turned into a dictionary, and into the state that it is pickled with. Its parameters
are dictionaries, which it refers to. What the values in them do is left to a model, like copying
them, which pickles the result itself if it can be reached from them.
-/

namespace EventPipeline

inductive SerializationError
  | attributeError
  | notImplementedError
  | pickleError
  | other (name : String)
deriving DecidableEq, Repr

structure SerializationModel (Value : Type) where
  none : Value
  emptyDict : Value
  isNone : Value → Bool
  isException : Value → Bool
  isException_none : isException none = false
  isBuiltin : Value → Bool
  isStr : Value → Bool
  truthy : Value → Bool
  id : Value → Except SerializationError Value
  klassImportStr : Value → String
  getState : Value → Except SerializationError Value
  getstate : Value → Except SerializationError Value
  asDict : Value → Option (Except SerializationError Value)
  toDict : Value → Option (Except SerializationError Value)
  deepcopy : Value → Except SerializationError Value
  picklesResult : Value → Bool

inductive ResultBackend
  | name (importStr : String)
  | klass (importStr : String)
deriving DecidableEq, Repr

def ResultBackend.importStr : ResultBackend → String
  | name importStr | klass importStr => importStr

/-- The attributes of a result. Its parameters are addresses of dictionaries. -/
structure ResultObject (Value : Type) where
  id : String
  backend : Option ResultBackend
  error : Bool
  eventName : String
  content : Value
  taskId : Option String
  initParams : Option Nat
  callParams : Option Nat
  processId : Int
  creationTime : Int
deriving DecidableEq, Repr

abbrev ParamsDict (Value : Type) := List (String × Value)

/-- A result and the dictionaries. -/
structure LiveResult (Value : Type) where
  object : ResultObject Value
  dicts : Arena (ParamsDict Value)
deriving DecidableEq, Repr

inductive SerializedContent (Value : Type)
  | value (content : Value)
  | described (contentTypeImportStr : String) (state : Value)
deriving DecidableEq, Repr

/-- What `get_state` and `__getstate__` return. -/
structure SerializedState (Value : Type) where
  id : String
  backend : Option ResultBackend
  error : Bool
  eventName : String
  content : SerializedContent Value
  taskId : Option String
  initParams : ParamsDict Value
  callParams : Option (ParamsDict Value)
  processId : Int
  creationTime : Int
deriving DecidableEq, Repr

/-- What `as_dict` returns. -/
structure ResultDict (Value : Type) where
  error : Bool
  eventName : String
  content : Value
  taskId : Option String
  initParams : Option (ParamsDict Value)
  callParams : Option (ParamsDict Value)
  processId : Int
  creationTime : Int
deriving DecidableEq, Repr

inductive SerializationCall
  | asDict
  | getState
  | pickle
deriving DecidableEq, Repr

inductive SerializationOutput (Value : Type)
  | dict (dict : ResultDict Value)
  | state (state : SerializedState Value)
deriving DecidableEq, Repr

namespace LiveResult

variable {Value : Type}

def dictAt (live : LiveResult Value) (address : Nat) : ParamsDict Value :=
  (live.dicts.get? address).getD []

/-- Assign to a key of a dictionary. -/
def store (live : LiveResult Value) (address : Nat) (key : String) (value : Value) :
    LiveResult Value :=
  { live with dicts := live.dicts.modify address (OrderedDict.insert key value) }

def setContent (live : LiveResult Value) (content : Value) : LiveResult Value :=
  { live with object := { live.object with content := content } }

end LiveResult

abbrev Serializing (Value Output : Type) :=
  EStateM SerializationError (LiveResult Value) Output

namespace SerializationModel

variable {Value : Type} (model : SerializationModel Value)

def contextToReplace (initParams : ParamsDict Value) : Option Value :=
  (OrderedDict.get "execution_context" initParams).filter fun executionContext =>
    model.truthy executionContext && !model.isStr executionContext

/-- What becomes of `init_params` in the state. -/
def saveInitParams : Serializing Value (ParamsDict Value) := do
  let live ← get
  match live.object.initParams with
  | .none => return [("execution_context", model.emptyDict)]
  | some address =>
      let initParams := live.dictAt address
      if initParams.isEmpty then return [("execution_context", model.emptyDict)]
      else
        match model.contextToReplace initParams with
        | .none => return initParams
        | some executionContext =>
            let id ← Effects.lift (model.id executionContext)
            set (live.store address "execution_context" id)
            return OrderedDict.insert "execution_context" id initParams

def getObjState (obj : Value) : Except SerializationError Value :=
  match model.getState obj with
  | .error .attributeError | .error .notImplementedError => model.getstate obj
  | result => result

def saveContent (content : Value) : Except SerializationError (SerializedContent Value) :=
  if model.isNone content ∨ model.isBuiltin content then .ok (.value content)
  else (model.getObjState content).map (.described (model.klassImportStr content))

/-- `get_state` -/
def stateOf : Serializing Value (SerializedState Value) := do
  let initParams ← model.saveInitParams
  let live ← get
  let content ← Effects.lift (model.saveContent live.object.content)
  return {
    id := live.object.id
    backend := live.object.backend
    error := live.object.error
    eventName := live.object.eventName
    content := content
    taskId := live.object.taskId
    initParams := initParams
    callParams := live.object.callParams.map live.dictAt
    processId := live.object.processId
    creationTime := live.object.creationTime }

def pickle : Serializing Value (SerializedState Value) := fun live =>
  match model.stateOf live with
  | .ok state live =>
      .ok { state with backend := state.backend.map fun backend => .name backend.importStr } live
  | .error .notImplementedError live => .error .pickleError live
  | .error error live => .error error live

/-- The copy of a value in the result of `asdict`. -/
def copyValue (value : Value) : Serializing Value Value := do
  if model.picklesResult value then
    let _ ← model.pickle
    Effects.lift (model.deepcopy value)
  else Effects.lift (model.deepcopy value)

/-- The values are read while the dictionary is gone through. -/
def copyEntries (address : Nat) : List String → Serializing Value (ParamsDict Value)
  | [] => return []
  | key :: keys => do
      let live ← get
      match OrderedDict.get key (live.dictAt address) with
      | .none => copyEntries address keys
      | some value =>
          let copied ← model.copyValue value
          let entries ← copyEntries address keys
          return (key, copied) :: entries

def copyDict : Option Nat → Serializing Value (Option (ParamsDict Value))
  | .none => return .none
  | some address => do
      let live ← get
      let entries ← model.copyEntries address (OrderedDict.keys (live.dictAt address))
      return some entries

/-- `asdict` of the fields. -/
def fieldsOf : Serializing Value (ResultDict Value) := do
  let live ← get
  let content ← model.copyValue live.object.content
  let initParams ← model.copyDict live.object.initParams
  let callParams ← model.copyDict live.object.callParams
  return {
    error := live.object.error
    eventName := live.object.eventName
    content := content
    taskId := live.object.taskId
    initParams := initParams
    callParams := callParams
    processId := live.object.processId
    creationTime := live.object.creationTime }

/-- An exception in the form in which it is put into the dictionary. -/
def exceptionContent (content : Value) : Except SerializationError Value :=
  match model.asDict content with
  | some result => result
  | .none =>
      match model.toDict content with
      | some result => result
      | .none => .ok content

/-- `as_dict` -/
def dictOf : Serializing Value (ResultDict Value) := do
  let live ← get
  if model.isException live.object.content then
    set (live.setContent model.none)
    let dict ← model.fieldsOf
    let content ← Effects.lift (model.exceptionContent live.object.content)
    return { dict with content := content }
  else model.fieldsOf

def perform : SerializationCall → Serializing Value (SerializationOutput Value)
  | .asDict => .dict <$> model.dictOf
  | .getState => .state <$> model.stateOf
  | .pickle => .state <$> model.pickle

/-- The result and its dictionaries after any number of calls. -/
def run (live : LiveResult Value) (calls : List SerializationCall) : LiveResult Value :=
  calls.foldl (fun live call => Effects.after (model.perform call) live) live

/-- The calls change nothing, and each of them always returns the same. -/
structure SerializationPure (live : LiveResult Value) : Prop where
  unchanged : ∀ calls, model.run live calls = live
  repeatable : ∀ calls call, Effects.outcome (model.perform call) (model.run live calls) =
    Effects.outcome (model.perform call) live

/-- The content is no exception, and the parameters hold no execution context that would be
replaced by another object. -/
structure Settled (live : LiveResult Value) : Prop where
  content : model.isException live.object.content = false
  context : ∀ address executionContext id, live.object.initParams = some address →
    model.contextToReplace (live.dictAt address) = some executionContext →
    model.id executionContext = .ok id → id = executionContext

end SerializationModel

namespace SerializationModel

variable {Value : Type} {model : SerializationModel Value}

section Rules

/-! ## What all actions do to a result is done by `get_state` to its parameters -/

variable {relation : LiveResult Value → LiveResult Value → Prop}
  (refl : ∀ live, relation live live)
  (trans : ∀ first second third, relation first second → relation second third →
    relation first third)
  (saves : Effects.Respects relation model.saveInitParams)

include refl trans saves

theorem respects_stateOf : Effects.Respects relation model.stateOf := by
  apply Effects.respects_bind trans saves
  intro initParams
  apply Effects.respects_get_bind
  intro live
  apply Effects.respects_bind trans (Effects.respects_lift refl _)
  exact fun content => Effects.respects_pure refl _

theorem respects_pickle : Effects.Respects relation model.pickle := by
  intro live
  have state := respects_stateOf refl trans saves live
  unfold Effects.after at state
  unfold Effects.after pickle
  cases ran : model.stateOf live with
  | ok saved next =>
      rw [ran] at state
      exact state
  | error error next =>
      rw [ran] at state
      cases error with
      | attributeError | notImplementedError | pickleError => exact state
      | other name => exact state

theorem respects_copyValue (value : Value) :
    Effects.Respects relation (model.copyValue value) := by
  unfold copyValue
  split
  · apply Effects.respects_bind trans (respects_pickle refl trans saves)
    exact fun state => Effects.respects_lift refl _
  · exact Effects.respects_lift refl _

theorem respects_copyEntries (address : Nat) (keys : List String) :
    Effects.Respects relation (model.copyEntries address keys) := by
  induction keys with
  | nil => exact Effects.respects_pure refl _
  | cons key keys induction =>
      apply Effects.respects_get_bind
      intro live
      cases OrderedDict.get key (live.dictAt address) with
      | none => exact induction live
      | some value =>
          apply Effects.respects_bind trans (respects_copyValue refl trans saves value)
          intro copied
          apply Effects.respects_bind trans induction
          exact fun entries => Effects.respects_pure refl _

theorem respects_copyDict (address : Option Nat) :
    Effects.Respects relation (model.copyDict address) := by
  cases address with
  | none => exact Effects.respects_pure refl _
  | some address =>
      apply Effects.respects_get_bind
      intro live
      apply Effects.respects_bind trans (respects_copyEntries refl trans saves address _)
      exact fun entries => Effects.respects_pure refl _

theorem respects_fieldsOf : Effects.Respects relation model.fieldsOf := by
  apply Effects.respects_get_bind
  intro live
  apply Effects.respects_bind trans (respects_copyValue refl trans saves _)
  intro content
  apply Effects.respects_bind trans (respects_copyDict refl trans saves _)
  intro initParams
  apply Effects.respects_bind trans (respects_copyDict refl trans saves _)
  exact fun callParams => Effects.respects_pure refl _

end Rules

def SameObject (before after : LiveResult Value) : Prop :=
  after.object = before.object

theorem sameObject_refl (live : LiveResult Value) : SameObject live live := rfl

theorem sameObject_trans (first second third : LiveResult Value)
    (firstStep : SameObject first second) (secondStep : SameObject second third) :
    SameObject first third :=
  Eq.trans secondStep firstStep

theorem saveInitParams_object : Effects.Respects SameObject model.saveInitParams := by
  apply Effects.respects_get_bind
  intro live
  cases live.object.initParams with
  | none => rfl
  | some address =>
      simp only
      split
      · rfl
      · cases model.contextToReplace (live.dictAt address) with
        | none => rfl
        | some executionContext =>
            simp only
            cases model.id executionContext with
            | error error => rfl
            | ok id => rfl

theorem store_of_get {live : LiveResult Value} {address : Nat} {key : String} {value : Value}
    (found : OrderedDict.get key (live.dictAt address) = some value) :
    live.store address key value = live := by
  have kept : live.dicts.modify address (OrderedDict.insert key value) = live.dicts := by
    rw [Arena.modify, Arena.mk.injEq]
    apply List.ext_getElem?
    intro place
    by_cases here : address = place
    · subst here
      rw [List.getElem?_modify_eq]
      unfold LiveResult.dictAt Arena.get? at found
      cases stored : live.dicts.cells[address]? with
      | none => rfl
      | some dict =>
          rw [stored] at found
          exact congrArg some (OrderedDict.insert_of_get found)
    · exact List.getElem?_modify_ne _ _ here
  rw [LiveResult.store, kept]

theorem get_of_contextToReplace {initParams : ParamsDict Value} {executionContext : Value}
    (replaced : model.contextToReplace initParams = some executionContext) :
    OrderedDict.get "execution_context" initParams = some executionContext :=
  (Option.filter_eq_some_iff.mp replaced).1

theorem saveInitParams_settled :
    Effects.Respects (fun before after => model.Settled before → after = before)
      model.saveInitParams := by
  apply Effects.respects_get_bind
  intro live settled
  cases initParams : live.object.initParams with
  | none => rfl
  | some address =>
      simp only
      split
      · rfl
      · cases replaced : model.contextToReplace (live.dictAt address) with
        | none => rfl
        | some executionContext =>
            simp only
            cases identity : model.id executionContext with
            | error error => rfl
            | ok id =>
                have same := settled.context address executionContext id initParams replaced
                  identity
                subst same
                exact store_of_get (get_of_contextToReplace replaced)

theorem settled_refl (live : LiveResult Value) : model.Settled live → live = live :=
  fun _ => rfl

theorem settled_trans (first second third : LiveResult Value)
    (firstStep : model.Settled first → second = first)
    (secondStep : model.Settled second → third = second) :
    model.Settled first → third = first := by
  intro settled
  have same := firstStep settled
  subst same
  exact secondStep settled

theorem after_perform_settled {live : LiveResult Value} (settled : model.Settled live)
    (call : SerializationCall) : Effects.after (model.perform call) live = live := by
  cases call with
  | asDict =>
      have fields := respects_fieldsOf settled_refl settled_trans saveInitParams_settled live
        settled
      rw [perform, Effects.after_map, dictOf, Effects.after_get_bind, settled.content,
        if_neg Bool.false_ne_true]
      exact fields
  | getState =>
      rw [perform, Effects.after_map]
      exact respects_stateOf settled_refl settled_trans saveInitParams_settled live settled
  | pickle =>
      rw [perform, Effects.after_map]
      exact respects_pickle settled_refl settled_trans saveInitParams_settled live settled

theorem run_settled {live : LiveResult Value} (settled : model.Settled live)
    (calls : List SerializationCall) : model.run live calls = live := by
  induction calls with
  | nil => rfl
  | cons call calls induction =>
      rw [run, List.foldl_cons, after_perform_settled settled call]
      exact induction

theorem content_after_asDict {live : LiveResult Value}
    (exception : model.isException live.object.content = true) :
    (Effects.after (model.perform .asDict) live).object.content = model.none := by
  have keeps : Effects.Respects SameObject
      (do
        let dict ← model.fieldsOf
        let content ← Effects.lift (model.exceptionContent live.object.content)
        return { dict with content := content }) := by
    apply Effects.respects_bind sameObject_trans
      (respects_fieldsOf sameObject_refl sameObject_trans saveInitParams_object)
    intro dict
    apply Effects.respects_bind sameObject_trans (Effects.respects_lift sameObject_refl _)
    exact fun content => Effects.respects_pure sameObject_refl _
  rw [perform, Effects.after_map, dictOf, Effects.after_get_bind, if_pos exception,
    Effects.after_set_bind]
  exact congrArg ResultObject.content (keeps (live.setContent model.none))

theorem context_after_getState {live : LiveResult Value} {address : Nat}
    {executionContext id : Value} (initParams : live.object.initParams = some address)
    (replaced : model.contextToReplace (live.dictAt address) = some executionContext)
    (identity : model.id executionContext = .ok id) :
    OrderedDict.get "execution_context"
      ((Effects.after (model.perform .getState) live).dictAt address) = some id := by
  have found := get_of_contextToReplace replaced
  have some : (live.dictAt address).isEmpty = false := by
    cases dict : live.dictAt address with
    | nil =>
        rw [dict] at found
        cases found
    | cons entry rest => rfl
  have saved : model.saveInitParams live =
      .ok (OrderedDict.insert "execution_context" id (live.dictAt address))
        (live.store address "execution_context" id) := by
    rw [saveInitParams, Effects.run_get_bind]
    simp only [initParams, some, replaced, identity, Bool.false_eq_true, if_false]
    rfl
  have after : Effects.after (model.perform .getState) live =
      live.store address "execution_context" id := by
    rw [perform, Effects.after_map, stateOf, Effects.after_bind_ok saved,
      Effects.after_get_bind]
    cases model.saveContent (live.store address "execution_context" id).object.content with
    | error error => rfl
    | ok content => rfl
  rw [after]
  unfold LiveResult.dictAt LiveResult.store
  rw [Arena.get?_modify_self]
  cases stored : live.dicts.get? address with
  | none =>
      rw [LiveResult.dictAt, stored] at found
      cases found
  | some dict =>
      rw [Option.map_some, Option.getD_some, OrderedDict.get_insert, if_pos rfl]

theorem serializationPure_iff (live : LiveResult Value) :
    model.SerializationPure live ↔ model.Settled live := by
  constructor
  · intro pure
    constructor
    · cases exception : model.isException live.object.content with
      | false => rfl
      | true =>
          have lost := content_after_asDict exception
          have same : Effects.after (model.perform .asDict) live = live :=
            pure.unchanged [.asDict]
          rw [same] at lost
          rw [lost, model.isException_none] at exception
          exact exception.symm
    · intro address executionContext id initParams replaced identity
      have stored := context_after_getState initParams replaced identity
      have same : Effects.after (model.perform .getState) live = live :=
        pure.unchanged [.getState]
      rw [same, get_of_contextToReplace replaced] at stored
      exact (Option.some.inj stored).symm
  · intro settled
    refine ⟨run_settled settled, fun calls call => ?_⟩
    rw [run_settled settled calls]

end SerializationModel

/-- Whatever has been processed before and is processed afterwards, `process_executor_results`
keeps the error with the content that the future has delivered. -/
def EventResult.StaysAsCreated (result : EventResult) : Prop :=
  ∀ heap context outcome switch rest, Outcome.result outcome = .ok (result, switch) →
    (∀ later ∈ rest, Outcome.resultId later ≠ result.id) →
    OrderedDict.get result.id
      (EventExecutionContext.processExecutorResults heap context
        (outcome :: rest)).1.executionResult
        = some result

section Processing

open EventExecutionContext

theorem get_of_result {heap : Heap} {context : EventExecutionContext} {result : EventResult}
    {outcome : Outcome} {switch : Option Int} {rest : List Outcome}
    (made : outcome.result = .ok (result, switch))
    (others : ∀ later ∈ rest, later.resultId ≠ result.id) :
    OrderedDict.get result.id
        (context.processExecutorResults heap (outcome :: rest)).1.executionResult =
      some (if result.error then result.asDict.2 else result) := by
  rw [Outcome.id_of_result made] at others ⊢
  exact get_processExecutorResults_cons made others

theorem staysAsCreated_iff (result : EventResult) :
    result.StaysAsCreated ↔ (result.error = true → result.content.isException = false) := by
  constructor
  · intro stays error
    cases exception : result.content.isException with
    | false => rfl
    | true =>
        obtain ⟨switch, made⟩ : ∃ switch,
            (Outcome.returned result).result = .ok (result, switch) := by
          rw [Outcome.result]
          split
          · exact ⟨_, rfl⟩
          · exact ⟨_, rfl⟩
        have others : ∀ later ∈ ([] : List Outcome), later.resultId ≠ result.id := by simp
        have kept := stays Arena.empty (executing []) (.returned result) switch [] made others
        rw [get_of_result made others, if_pos error, EventResult.asDict,
          if_pos exception, Option.some.injEq] at kept
        have lost := congrArg EventResult.content kept
        rw [← lost] at exception
        cases exception
  · intro plain heap context outcome switch rest made others
    rw [get_of_result made others]
    cases error : result.error with
    | false => rfl
    | true => rw [if_pos rfl, EventResult.asDict, if_neg (by simp [plain error])]

end Processing

/-- Serializing changes nothing exactly if the content is no exception and no execution context is
replaced, and an error keeps what it has been created with exactly if that is no exception. -/
theorem serializing_iff {Value : Type} (model : SerializationModel Value)
    (live : LiveResult Value) (result : EventResult) :
    (model.SerializationPure live ↔ model.Settled live) ∧
      (result.StaysAsCreated ↔ (result.error = true → result.content.isException = false)) :=
  ⟨SerializationModel.serializationPure_iff live, staysAsCreated_iff result⟩

/-- Values of parameters and contents. -/
inductive ParamValue
  | none
  | emptyDict
  | text (value : String)
  | exception (message : String)
  | executionContext (id : String)
deriving DecidableEq, Repr

def paramModel : SerializationModel ParamValue where
  none := .none
  emptyDict := .emptyDict
  isNone value := value = .none
  isException value :=
    match value with
    | .exception _ => true
    | _ => false
  isException_none := rfl
  isBuiltin value :=
    match value with
    | .none | .emptyDict | .text _ => true
    | .exception _ | .executionContext _ => false
  isStr value :=
    match value with
    | .text _ => true
    | _ => false
  truthy value :=
    match value with
    | .none | .emptyDict => false
    | .text text => text ≠ ""
    | .exception _ | .executionContext _ => true
  id value :=
    match value with
    | .executionContext id => .ok (.text id)
    | _ => .error .attributeError
  klassImportStr value :=
    match value with
    | .none => "builtins.NoneType"
    | .emptyDict => "builtins.dict"
    | .text _ => "builtins.str"
    | .exception _ => "builtins.ValueError"
    | .executionContext _ => "nexus.task.EventExecutionContext"
  getState value :=
    match value with
    | .executionContext _ => .error .notImplementedError
    | _ => .error .attributeError
  getstate _ := .ok .emptyDict
  asDict _ := Option.none
  toDict _ := Option.none
  deepcopy value := .ok value
  picklesResult _ := false

/-- An event that failed with an exception, in an execution context. -/
def failedResult : LiveResult ParamValue where
  object := {
    id := "EventResult-1"
    backend := none
    error := true
    eventName := "Fetch"
    content := .exception "timed out"
    taskId := some "task-1"
    initParams := some 0
    callParams := none
    processId := 1
    creationTime := 0 }
  dicts := Arena.empty.alloc [("execution_context", .executionContext "context-1")]

theorem not_serializationPure_failedResult : ¬paramModel.SerializationPure failedResult := by
  intro pure
  have unchanged := pure.unchanged [.asDict]
  revert unchanged
  decide

end EventPipeline
