import EventPipeline.Execution.Dispatch
import EventPipeline.Execution.EventCall
import EventPipeline.Executors.Resolution

/-! # Events through the gRPC executor

An event is submitted to the default executor, which calls it, or to the gRPC executor, which has
it called by the server. The server hands back the text of an exception and the client raises a
plain `Exception`, so that a context cannot tell any more what was raised.
-/

namespace EventPipeline

/-! ## The two executors -/

/-- The Python objects that cross the wire. -/
inductive PyObject
  | event (event : EventBase)
  | arguments
  | keywords (kwargs : CallKwargs)
  | result (result : EventResult)
  | exception (exception : EventException)

/-- `cloudpickle` and `zlib`. -/
structure Pickle (Data : Type) where
  dumps : PyObject → Except EventException Data
  loads : Data → Except EventException PyObject
  noData : Data

/-- Every object is delivered unchanged. -/
def Pickle.Faithful {Data : Type} (pickle : Pickle Data) : Prop :=
  ∀ object, ∃ data, pickle.dumps object = .ok data ∧ pickle.loads data = .ok object

/-- Events are called; the exceptions that gRPC and `concurrent.futures` raise have no
`params`. -/
def eventRuntime {Data : Type} (pickle : Pickle Data) :
    RemoteRuntime PyObject Data EventException where
  serializeObject := pickle.dumps
  deserialize := pickle.loads
  call := fun fn _ kwargs =>
    match fn, kwargs with
    | .event event, .keywords kwargs => (event.call kwargs).map .result
    | _, _ => .error (.builtin "TypeError" "object is not callable")
  getEventName := fun
    | .event event => event.name
    | _ => ""
  object := .exception
  str := EventException.message
  exception := .builtin "Exception"
  rpcError := fun error => .builtin "RpcError" error.message
  invalidStateError := .builtin "InvalidStateError" ""
  noData := pickle.noData

/-- `kwargs.pop("long_running", False)`. -/
def popLongRunning (kwargs : CallKwargs) : Bool × CallKwargs :=
  (((kwargs.lookup "long_running").map Argument.truthy).getD false,
    kwargs.filter fun argument => argument.1 ≠ "long_running")

/-- The future that `GRPCExecutor.submit` returns, when `_submit_task` has returned. -/
def GrpcExecutor.submit {Data : Type} (pickle : Pickle Data) (taskId : String)
    (event : EventBase) (kwargs : CallKwargs) : Future PyObject EventException :=
  (GrpcExecutor.submitTask (eventRuntime pickle) (taskExecutorServicer (eventRuntime pickle))
    (popLongRunning kwargs).1 taskId (.event event) .arguments
    (.keywords (popLongRunning kwargs).2) { cancels := fun _ => false }).2.future

def DefaultExecutor.submit (event : EventBase) (kwargs : CallKwargs) :
    Future PyObject EventException :=
  .finished ((event.call kwargs).map .result)

/-! ## The context -/

def EventException.outcome (resultId : ResultId) : EventException → Outcome
  | .switchTask _ nextTaskDescriptor result => .switched nextTaskDescriptor result
  | .maxRetry message _ =>
      .raised { stopProcessing := false, params := .missing, text := message } resultId
  | .other _ _ fields => .raised fields resultId

/-- What a future that is done is to the context. -/
def Future.delivered (resultId : ResultId) : Future PyObject EventException → Option Outcome
  | .finished (.ok (.result result)) => some (.returned result)
  | .finished (.error exception) => some (exception.outcome resultId)
  | _ => none

/-- The state of a context, and the names and task ids in its results and errors. -/
structure Observation where
  state : ExecutionState
  results : List (String × Option TaskId)
  errors : List (Option TaskId × Option (String × Option TaskId))
deriving DecidableEq, Repr

def EventExecutionContext.observation (context : EventExecutionContext) : Observation where
  state := context.state
  results := context.executionResult.map fun entry => (entry.2.eventName, entry.2.taskId)
  errors := context.errors.map fun error =>
    (error.code, error.params.map fun result => (result.eventName, result.taskId))

def observe (heap : Heap) (task : TaskId) (previous : Option ContextId) (resultId : ResultId)
    (future : Future PyObject EventException) : Option Observation :=
  (future.delivered resultId).map fun outcome =>
    (({ taskProfiles := [task], previousContext := previous } :
      EventExecutionContext).dispatch heap (.ok [outcome])).1.observation

/-- Both executors lead to the same observation. -/
def Transparent {Data : Type} (pickle : Pickle Data) (heap : Heap)
    (previous : Option ContextId) (taskId : String) (event : EventBase) (kwargs : CallKwargs)
    (resultId : ResultId) : Prop :=
  observe heap event.taskId previous resultId (GrpcExecutor.submit pickle taskId event kwargs) =
    observe heap event.taskId previous resultId (DefaultExecutor.submit event kwargs)

/-! ## When they do -/

/-- The state in which a future leaves the context of one task. -/
def Outcome.endState (task : PipelineTask) (outcome : Outcome) : ExecutionState :=
  match outcome.receive with
  | .error _ => .aborted
  | .ok (_, none) => if outcome.stops then .cancelled else .finished
  | .ok (_, some descriptor) =>
      match descriptor.toNat?.bind task.extraConfig.getDescriptorConfig with
      | none => .cancelled
      | some _ => .executing

def EventResult.endState (task : PipelineTask) (result : EventResult) : ExecutionState :=
  (Outcome.returned result).endState task

/-- The exception is to the context what a plain `Exception` is. -/
def EventException.Plain : EventException → Prop
  | .switchTask _ _ _ => False
  | .maxRetry _ _ => True
  | .other _ _ fields =>
      fields.stopProcessing = false ∧ fields.resultError = none ∧ fields.copyError = none ∧
        match fields.params with
        | .missing => True
        | .none | .unreadable _ => False
        | .dictionary eventName taskId _ _ => eventName.getD "unknown" = "unknown" ∧ taskId = none

/-- The context makes a result of the exception that names what the given result names, is an
error if that is one, and leaves the context in the same state. -/
def EventException.Resembles (task : PipelineTask) (resultId : ResultId) (result : EventResult)
    (exception : EventException) : Prop :=
  ∃ made switch, (exception.outcome resultId).result = .ok (made, switch) ∧
    result.eventName = made.eventName ∧ result.taskId = made.taskId ∧
    result.error = made.error ∧
    result.endState task = (exception.outcome resultId).endState task

/-- How the call of the event that the server makes, without `long_running`, must end, beside
how the call with all arguments ends. -/
def EndsAlike (task : PipelineTask) (resultId : ResultId) :
    Except EventException EventResult → Except EventException EventResult → Prop
  | .ok remote, .ok result =>
      remote.error = result.error ∧ remote.endState task = result.endState task
  -- the event that has all its arguments is stopped, or its result cannot be made
  | .ok remote, .error exception => exception.Resembles task resultId remote
  | .error _, .ok _ => False
  | .error _, .error exception => exception.Plain

section Remote

variable {Data : Type} {pickle : Pickle Data} (faithful : pickle.Faithful)
include faithful

theorem deserializeCall_eq (taskId : String) (event : EventBase) (kwargs : CallKwargs) :
    ∃ request,
      GrpcExecutor.serializeCall (eventRuntime pickle) taskId (.event event) .arguments
        (.keywords kwargs) = .ok request ∧
      TaskExecutorServicer.deserializeCall (eventRuntime pickle) request =
        .ok (.event event, .arguments, .keywords kwargs) := by
  rcases faithful (.event event) with ⟨fn, dumpedFn, loadedFn⟩
  rcases faithful .arguments with ⟨args, dumpedArgs, loadedArgs⟩
  rcases faithful (.keywords kwargs) with ⟨keywords, dumpedKeywords, loadedKeywords⟩
  refine ⟨⟨taskId, fn, event.name, args, keywords⟩, ?_, ?_⟩
  · simp only [GrpcExecutor.serializeCall, eventRuntime, dumpedFn, dumpedArgs, dumpedKeywords,
      bind, Except.bind, pure, Except.pure]
  · simp only [TaskExecutorServicer.deserializeCall, eventRuntime, loadedFn, loadedArgs,
      loadedKeywords, bind, Except.bind, pure, Except.pure]

/-- A result is delivered as it is, and of an exception the text. -/
theorem grpcSubmit_eq (taskId : String) (event : EventBase) (kwargs : CallKwargs) :
    GrpcExecutor.submit pickle taskId event kwargs =
      .finished (match event.call (popLongRunning kwargs).2 with
        | .ok result => .ok (.result result)
        | .error exception => .error (.builtin "Exception" exception.message)) := by
  unfold GrpcExecutor.submit
  rw [GrpcExecutor.submitTask_future _
    (GrpcExecutor.serves_taskExecutorServicer (eventRuntime pickle))]
  rcases deserializeCall_eq faithful taskId event (popLongRunning kwargs).2 with
    ⟨request, serialized, deserialized⟩
  simp only [GrpcExecutor.outcome, serialized, bind, Except.bind, GrpcExecutor.answer,
    deserialized, TaskExecutorServicer.run]
  cases called : event.call (popLongRunning kwargs).2 with
  | ok result =>
      rcases faithful (.result result) with ⟨data, dumped, loaded⟩
      simp only [eventRuntime, called, Except.map, dumped, loaded]
  | error exception =>
      rcases faithful (.exception exception) with ⟨data, dumped, loaded⟩
      simp only [eventRuntime, called, Except.map, GrpcExecutor.remoteError, dumped]

end Remote

section Observations

/-- What is seen of a context whose only future is the given one. -/
def Outcome.observation (task : PipelineTask) (outcome : Outcome) : Observation :=
  match outcome.result with
  | .error _ => ⟨.aborted, [], [(none, none)]⟩
  | .ok (result, _) =>
      ⟨outcome.endState task, [(result.eventName, result.taskId)],
        if outcome.endState task = .aborted then [(none, none)]
        else if result.error then [(result.taskId, some (result.eventName, result.taskId))]
        else []⟩

theorem EventResult.asDict_names (result : EventResult) :
    result.asDict.2.eventName = result.eventName ∧ result.asDict.2.taskId = result.taskId := by
  rw [EventResult.asDict]
  cases result.content.isException <;> exact ⟨rfl, rfl⟩

theorem observation_recorded (context : EventExecutionContext) (result : EventResult)
    (results : context.executionResult = []) (errors : context.errors = []) :
    (context.recorded result).observation = ⟨context.state, [(result.eventName, result.taskId)],
      if result.error then [(result.taskId, some (result.eventName, result.taskId))] else []⟩ := by
  have names := result.asDict_names
  cases failed : result.error <;>
    simp [EventExecutionContext.observation, EventExecutionContext.recorded, results, errors,
      failed, ResultSet.add, OrderedDict.insert, names]

/-- The context of one task while its future is waited for. -/
def soleContext (id : TaskId) (previous : Option ContextId) : EventExecutionContext :=
  { taskProfiles := [id], previousContext := previous, state := .executing }

variable {heap : Heap} {id : TaskId} {task : PipelineTask} {previous : Option ContextId}
  {outcome : Outcome}

theorem dispatch_sole :
    EventExecutionContext.dispatch heap (.ok [outcome])
        { taskProfiles := [id], previousContext := previous } =
      match (soleContext id previous).recordOutcome heap outcome with
      | (context, none) =>
          if context.state = .executing then ({ context with state := .finished }, none)
          else (context, none)
      | (context, some (.switchTask descriptor configured)) =>
          (context, some ⟨descriptor, configured⟩)
      | (context, some (.error error)) => (context.fail error.text, none) := by
  simp only [EventExecutionContext.dispatch, EventExecutionContext.processExecutorResults,
    soleContext]
  rcases EventExecutionContext.recordOutcome heap _ outcome with ⟨after, _ | interruption⟩ <;>
    rfl

theorem observation_refused {error : PyError} (refused : outcome.receive = .error error)
    {after : EventExecutionContext}
    (left : EventExecutionContext.Interrupted (soleContext id previous) after outcome)
    (text : String) : (after.fail text).observation = outcome.observation task := by
  have aborted : outcome.endState task = .aborted := by rw [Outcome.endState, refused]
  have results := left.executionResult
  have errors : after.errors = [] := left.errors
  rw [Outcome.observation, aborted]
  cases made : outcome.result with
  | error reason =>
      rw [made] at results
      simp [EventExecutionContext.observation, EventExecutionContext.fail,
        EventExecutionContext.abort, errors, results, soleContext]
  | ok answer =>
      rw [made] at results
      simp [EventExecutionContext.observation, EventExecutionContext.fail,
        EventExecutionContext.abort, errors, results, soleContext, ResultSet.add,
        OrderedDict.insert, answer.1.asDict_names]

theorem observation_received {result : EventResult} {switch : Option Int}
    (received : outcome.receive = .ok (result, switch))
    {after : EventExecutionContext} (state : after.state = outcome.endState task)
    (results : after.executionResult =
      ((soleContext id previous).recorded result).executionResult)
    (errors : after.errors = ((soleContext id previous).recorded result).errors) :
    after.observation = outcome.observation task := by
  have running : outcome.endState task ≠ .aborted := by
    rw [Outcome.endState, received]
    cases switch with
    | none => cases outcome.stops <;> nofun
    | some descriptor =>
        dsimp only
        cases descriptor.toNat?.bind task.extraConfig.getDescriptorConfig <;> nofun
  have same : after.observation =
      { ((soleContext id previous).recorded result).observation with state := after.state } := by
    rw [EventExecutionContext.observation, results, errors]
    rfl
  rw [same, observation_recorded _ result rfl rfl, state, Outcome.observation,
    (Outcome.result_of_receive received).1]
  simp only [if_neg running]

theorem stoppedBy_sole (result : EventResult) :
    (((soleContext id previous).stoppedBy outcome).recorded result).executionResult =
        ((soleContext id previous).recorded result).executionResult ∧
      (((soleContext id previous).stoppedBy outcome).recorded result).errors =
        ((soleContext id previous).recorded result).errors := by
  rw [EventExecutionContext.stoppedBy]
  cases outcome.stops <;> exact ⟨rfl, rfl⟩

theorem dispatch_observation (found : heap.get? id = some task) :
    (EventExecutionContext.dispatch heap (.ok [outcome])
      { taskProfiles := [id], previousContext := previous }).1.observation =
        outcome.observation task := by
  rw [dispatch_sole]
  rcases received : outcome.receive with error | ⟨result, _ | descriptor⟩
  · obtain ⟨ends, left⟩ := @EventExecutionContext.recordOutcome_of_refused heap
      (soleContext id previous) outcome error received
    rcases recorded : (soleContext id previous).recordOutcome heap outcome with
      ⟨after, interruption⟩
    rw [recorded] at ends left
    cases ends
    exact observation_refused received left _
  · have state := EventExecutionContext.stoppedBy_state (soleContext id previous) outcome result
    have kept := @stoppedBy_sole id previous outcome result
    rw [EventExecutionContext.recordOutcome_of_receive received]
    have ended : outcome.endState task = if outcome.stops then .cancelled else .finished := by
      rw [Outcome.endState, received]
    cases stops : outcome.stops with
    | true =>
        rw [stops, if_pos rfl] at state ended
        simp only [state, reduceCtorEq, if_false]
        exact observation_received received (state.trans ended.symm) kept.1 kept.2
    | false =>
        rw [stops, if_neg (by simp)] at state ended
        have executing : (((soleContext id previous).stoppedBy outcome).recorded result).state =
            .executing := state
        simp only [if_pos executing]
        exact observation_received received ended.symm kept.1 kept.2
  · have unstopped := Outcome.stops_of_result (Outcome.result_of_receive received).1
    have kept := @stoppedBy_sole id previous outcome result
    have state := EventExecutionContext.stoppedBy_state (soleContext id previous) outcome result
    have ended := Outcome.endState.eq_def task outcome
    rw [unstopped, if_neg (by simp)] at state
    rw [received] at ended
    have last : (((soleContext id previous).stoppedBy outcome).recorded
        result).getLastTaskProfileInChain heap = some id := by
      rw [EventExecutionContext.getLastTaskProfileInChain_congr
        (EventExecutionContext.stoppedBy_samePlace _ _ _).taskProfiles]
      rfl
    rw [EventExecutionContext.recordOutcome_of_receive received]
    simp only [EventExecutionContext.switchTo, last, Option.bind_some, found]
    dsimp only at ended
    cases configured : descriptor.toNat?.bind task.extraConfig.getDescriptorConfig with
    | none =>
        rw [configured] at ended
        exact observation_received received ended.symm kept.1 kept.2
    | some config =>
        rw [configured] at ended
        exact observation_received received (state.trans ended.symm) kept.1 kept.2

theorem observe_eq (found : heap.get? id = some task) (resultId : ResultId)
    (future : Future PyObject EventException) :
    observe heap id previous resultId future =
      (future.delivered resultId).map (Outcome.observation task) := by
  rw [observe]
  apply congrFun
  apply congrArg
  funext outcome
  exact dispatch_observation found

/-! ## When the same is seen -/

theorem Outcome.error_of_aborted {result : EventResult} {switch : Option Int}
    (made : outcome.result = .ok (result, switch)) (aborted : outcome.endState task = .aborted) :
    result.error = true := by
  by_contra fine
  have received : outcome.receive = .ok (result, switch) :=
    Outcome.receive_of_result made fun failed => absurd failed fine
  rw [Outcome.endState, received] at aborted
  cases switch with
  | none =>
      dsimp only at aborted
      split at aborted <;> cases aborted
  | some descriptor =>
      dsimp only at aborted
      split at aborted <;> cases aborted

theorem Outcome.endState_ne_finished {result : EventResult} {descriptor : Int}
    (made : outcome.result = .ok (result, some descriptor)) :
    outcome.endState task ≠ .finished := by
  rw [Outcome.endState, Outcome.receive, made]
  intro finished
  cases failed : result.error with
  | false =>
      simp only [failed, Bool.false_eq_true, if_false] at finished
      split at finished <;> cases finished
  | true =>
      cases copied : result.asDict.1 with
      | error error =>
          simp only [failed, if_true, copied] at finished
          cases finished
      | ok copy =>
          simp only [failed, if_true, copied, Except.map] at finished
          split at finished <;> cases finished

/-- Two futures whose results are made are seen as the same exactly when the results name the
same, both are errors or none is, and the contexts are left in the same state. -/
theorem Outcome.observation_eq_iff {other : Outcome} {first second : EventResult}
    {switch target : Option Int} (made : outcome.result = .ok (first, switch))
    (otherMade : other.result = .ok (second, target)) :
    outcome.observation task = other.observation task ↔
      first.eventName = second.eventName ∧ first.taskId = second.taskId ∧
        first.error = second.error ∧ outcome.endState task = other.endState task := by
  have fails := @Outcome.error_of_aborted task outcome _ _ made
  have otherFails := @Outcome.error_of_aborted task other _ _ otherMade
  simp only [Outcome.observation, made, otherMade, Observation.mk.injEq, List.cons.injEq,
    Prod.mk.injEq, and_true]
  constructor
  · rintro ⟨states, ⟨names, tasks⟩, errors⟩
    refine ⟨names, tasks, ?_, states⟩
    by_cases aborted : outcome.endState task = .aborted
    · rw [fails aborted, otherFails (states.symm.trans aborted)]
    · rw [← states, if_neg aborted, if_neg aborted] at errors
      cases failed : first.error <;> cases otherFailed : second.error
      · rfl
      · simp [failed, otherFailed] at errors
      · simp [failed, otherFailed] at errors
      · rfl
  · rintro ⟨names, tasks, errors, states⟩
    refine ⟨states, ⟨names, tasks⟩, ?_⟩
    rw [states, names, tasks, errors]

theorem EventException.observation_builtin (className message : String) (resultId : ResultId) :
    ((EventException.builtin className message).outcome resultId).observation task =
      ⟨.finished, [("unknown", none)], [(none, some ("unknown", none))]⟩ := rfl

theorem Outcome.observation_raised (fields : RaisedException) (resultId : ResultId) :
    (Outcome.raised fields resultId).observation task =
      match fields.params.read, fields.resultError, fields.copyError with
      | .ok (eventName, taskId, _), none, none =>
          ⟨if fields.stopProcessing then .cancelled else .finished, [(eventName, taskId)],
            [(taskId, some (eventName, taskId))]⟩
      | .ok (eventName, taskId, _), none, some _ =>
          ⟨.aborted, [(eventName, taskId)], [(none, none)]⟩
      | _, _, _ => ⟨.aborted, [], [(none, none)]⟩ := by
  rcases fields with ⟨stops, params, content, _ | refused, _ | uncopied⟩
  · cases params <;> cases stops <;> rfl
  · cases params <;> rfl
  · cases params <;> rfl
  · cases params <;> rfl

/-- Only a plain exception is seen as what the gRPC client raises. -/
theorem EventException.plain_iff (className message : String) (resultId : ResultId)
    (exception : EventException) :
    ((EventException.builtin className message).outcome resultId).observation task =
        (exception.outcome resultId).observation task ↔ exception.Plain := by
  rw [observation_builtin]
  cases exception with
  | switchTask text descriptor result =>
      apply iff_of_false _ id
      intro same
      have finished : (Outcome.switched descriptor result).endState task = .finished :=
        (congrArg Observation.state same).symm
      exact Outcome.endState_ne_finished rfl finished
  | maxRetry text cause => exact iff_of_true rfl trivial
  | other kind text fields =>
      rw [EventException.outcome, eq_comm, Outcome.observation_raised]
      rcases fields with ⟨stops, params, content, _ | refused, _ | uncopied⟩
      · cases stops <;> cases params <;> simp +contextual [Plain, ExceptionParams.read]
      all_goals cases params <;> simp [Plain, ExceptionParams.read]

end Observations

theorem Outcome.result_returned (result : EventResult) :
    ∃ switch, (Outcome.returned result).result = .ok (result, switch) := by
  rw [Outcome.result]
  cases result.content <;> exact ⟨_, rfl⟩

/-- The context sees the same through both executors exactly when the event ends alike. -/
theorem transparent_iff {Data : Type} (pickle : Pickle Data) (faithful : pickle.Faithful)
    (heap : Heap) (previous : Option ContextId) (taskId : String) (event : EventBase)
    (task : PipelineTask) (found : heap.get? event.taskId = some task) (kwargs : CallKwargs)
    (resultId : ResultId) :
    Transparent pickle heap previous taskId event kwargs resultId ↔
      EndsAlike task resultId (event.call (popLongRunning kwargs).2) (event.call kwargs) := by
  unfold Transparent DefaultExecutor.submit
  rw [grpcSubmit_eq faithful, observe_eq found, observe_eq found]
  cases remote : event.call (popLongRunning kwargs).2 with
  | error raised =>
      cases here : event.call kwargs with
      | error exception =>
          simp only [Except.map, Future.delivered, Option.map_some, Option.some_inj]
          exact EventException.plain_iff _ _ _ _
      | ok result =>
          obtain ⟨failed, content, rfl⟩ := EventBase.result_of_call here
          simp only [Except.map, Future.delivered, Option.map_some, Option.some_inj, EndsAlike]
          apply iff_of_false _ id
          rw [EventException.observation_builtin]
          intro same
          obtain ⟨switch, made⟩ := Outcome.result_returned (event.resultWith kwargs failed content)
          rw [Outcome.observation, made] at same
          simp [EventBase.resultWith] at same
  | ok answered =>
      obtain ⟨failed, content, rfl⟩ := EventBase.result_of_call remote
      obtain ⟨switch, made⟩ := Outcome.result_returned
        (event.resultWith (popLongRunning kwargs).2 failed content)
      cases here : event.call kwargs with
      | error exception =>
          simp only [Except.map, Future.delivered, Option.map_some, Option.some_inj, EndsAlike,
            EventException.Resembles]
          cases raised : (exception.outcome resultId).result with
          | error error =>
              apply iff_of_false
              · rw [Outcome.observation, Outcome.observation, made, raised]
                intro same
                simp at same
              · rintro ⟨_, _, ⟨⟩, _⟩
          | ok answer =>
              obtain ⟨result, target⟩ := answer
              rw [Outcome.observation_eq_iff made raised]
              constructor
              · exact fun same => ⟨result, target, rfl, same⟩
              · rintro ⟨_, _, ⟨⟩, same⟩
                exact same
      | ok result =>
          obtain ⟨hereFailed, hereContent, rfl⟩ := EventBase.result_of_call here
          obtain ⟨hereSwitch, hereMade⟩ := Outcome.result_returned
            (event.resultWith kwargs hereFailed hereContent)
          simp only [Except.map, Future.delivered, Option.map_some, Option.some_inj, EndsAlike,
            Outcome.observation_eq_iff made hereMade]
          constructor
          · exact fun same => same.2.2
          · exact fun same => ⟨rfl, rfl, same⟩

def identityPickle : Pickle PyObject := ⟨.ok, .ok, .arguments⟩

/-- An event whose `process` always ends in the same way. -/
def constantEvent (attempt : Attempt) : EventBase :=
  { name := "A", taskId := 0, process := fun _ _ => attempt }

/-- An event without flags fails. -/
theorem transparent_failing :
    Transparent identityPickle ⟨[{ event := "A" }]⟩ none "1"
      (constantEvent (.returned false (.value "no"))) [] 7 :=
  (transparent_iff identityPickle (fun object => ⟨object, rfl, rfl⟩) ⟨[{ event := "A" }]⟩ none "1"
    (constantEvent (.returned false (.value "no"))) { event := "A" } rfl [] 7).mpr ⟨rfl, rfl⟩

/-- An event that is to stop the pipeline when it fails cancels the context only where it is
called directly. -/
theorem not_transparent_stopOnError :
    ¬ Transparent identityPickle ⟨[{ event := "A" }]⟩ none "1"
      { constantEvent (.returned false (.value "no")) with stopOnError := true } [] 7 := by
  intro same
  have remote : observe ⟨[{ event := "A" }]⟩ 0 none 7
      (GrpcExecutor.submit identityPickle "1"
        { constantEvent (.returned false (.value "no")) with stopOnError := true } []) =
      some ⟨.finished, [("unknown", none)], [(none, some ("unknown", none))]⟩ := rfl
  have here : observe ⟨[{ event := "A" }]⟩ 0 none 7
      (DefaultExecutor.submit
        { constantEvent (.returned false (.value "no")) with stopOnError := true } []) =
      some ⟨.cancelled, [("A", some 0)], [(some 0, some ("A", some 0))]⟩ := rfl
  have equal := remote.symm.trans (same.trans here)
  cases equal

end EventPipeline
