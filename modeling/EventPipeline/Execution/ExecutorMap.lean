import EventPipeline.Execution.ExecutorConfig
import EventPipeline.Execution.FilterByEvent
import EventPipeline.Execution.PreviousResult
import EventPipeline.Execution.RetryPolicy
import EventPipeline.Foundation.Effects
import EventPipeline.Foundation.Grouping

/-! # Gathering the executors of a context

The events of the tasks are made one after the other, and kept under the classes of their
executors: in one dictionary for each class, next to the arguments that the executor is made with.
Apart from these arguments, the dictionary groups the events by class.
-/

namespace EventPipeline

/-- An event class: its executor and what it declares for it, and the signatures of its
constructor and of `process`. -/
structure EventDeclaration (Value : Type) where
  executor : ExecutorKlass
  executorConfig : DeclaredExecutorConfig Value
  initSignature : Option (CallSignature Value)
  processSignature : Option (CallSignature Value)

/-- An event. Its address is the number of events that have been made before it, and events are
equal if they are identical. -/
structure TaskEvent where
  address : Nat
  task : TaskId
  klass : EventKlass
deriving DecidableEq, Repr

/-- What the events of a context are made and executed with. The constructors of events and of
executors return or raise, and `submit` returns a future or raises. -/
structure ExecutionEnvironment (Value Future : Type) where
  values : ArgumentValues Value
  heap : Heap
  execution : EventExecutionContext
  resolver : EventResolver
  declarations : EventKlass → EventDeclaration Value
  executors : ExecutorKlass → ExecutorDeclaration Value
  pipeline : String → Option Value
  executionContext : Value
  taskId : TaskId → Value
  executionResult : ContextId → Value
  makeEvent : EventKlass → Arguments Value → Except String Unit
  makeExecutor : ExecutorKlass → Arguments Value → Except String Unit
  submit : ExecutorKlass → TaskEvent → Arguments Value → Except String Future

/-- What `_get_executor_context_and_event` finds for a task. -/
structure PreparedEvent (Value : Type) where
  profile : PipelineTask
  klass : EventKlass
  executor : ExecutorKlass
  context : Arguments Value
  callArguments : Arguments Value
deriving DecidableEq, Repr

namespace ExecutionEnvironment

variable {Value Future : Type} [DecidableEq Value] (env : ExecutionEnvironment Value Future)

def getEventKlass (profile : PipelineTask) : Except String EventKlass :=
  (env.resolver.resolveEventName (.name profile.event)).1.mapError EventDoesNotExist.message

def eventInitArguments (task : TaskId) (klass : EventKlass) : Arguments Value :=
  let arguments :=
    getFunctionCallArgs env.values (env.declarations klass).initSignature env.pipeline
  let arguments := OrderedDict.insert "execution_context" env.executionContext arguments
  let arguments := OrderedDict.insert "task_id" (env.taskId task) arguments
  match env.execution.previousResult env.heap task with
  | .absent => arguments
  | .empty => OrderedDict.insert "previous_result" env.values.emptyKlass arguments
  | .results context =>
      OrderedDict.insert "previous_result" (env.executionResult context) arguments

/-- `_get_executor_context_and_event`. The constructor of an event reads the configuration that
its class declares. -/
def getExecutorContextAndEvent (task : TaskId) : Except String (PreparedEvent Value) := do
  let some profile := env.heap.get? task | .error "no such task"
  let klass ← env.getEventKlass profile
  let declaration := env.declarations klass
  let executor := env.executors declaration.executor
  if !executor.isExecutor then
    .error "Event executor must inherit <class 'concurrent.futures._base.Executor'>"
  let callArguments := getFunctionCallArgs env.values declaration.processSignature env.pipeline
  env.makeEvent klass (env.eventInitArguments task klass)
  let config ← declaration.executorConfig.getExecutorInitializerConfig env.values
  return {
    profile, klass, callArguments
    executor := declaration.executor
    context := executor.constructorArguments env.values config }

/-- The options that the event of a task declares for its executor. -/
def executorConfig (task : TaskId) : Except String (ExecutorInitializerConfig Value) := do
  let some profile := env.heap.get? task | .error "no such task"
  let klass ← env.getEventKlass profile
  (env.declarations klass).executorConfig.getExecutorInitializerConfig env.values

/-- The arguments of a task are found under the names of the parameters of its `process`. -/
theorem getExecutorContextAndEvent_callArguments {env : ExecutionEnvironment Value Future}
    {task : TaskId} {prepared : PreparedEvent Value}
    (made : env.getExecutorContextAndEvent task = .ok prepared) :
    prepared.callArguments = getFunctionCallArgs env.values
      (env.declarations prepared.klass).processSignature env.pipeline := by
  rw [getExecutorContextAndEvent] at made
  cases found : env.heap.get? task with
  | none =>
      rw [found] at made
      cases made
  | some profile =>
      cases resolved : env.getEventKlass profile with
      | error error => simp [found, resolved, bind, Except.bind] at made
      | ok klass =>
          simp only [found, resolved, bind, Except.bind] at made
          split at made
          · cases made
          · split at made
            · cases made
            · split at made
              · cases made
              · cases made
                rfl

theorem getExecutorContextAndEvent_context {env : ExecutionEnvironment Value Future}
    {task : TaskId} {prepared : PreparedEvent Value}
    (made : env.getExecutorContextAndEvent task = .ok prepared) :
    ∃ config, env.executorConfig task = .ok config ∧ prepared.context =
      (env.executors prepared.executor).constructorArguments env.values config := by
  rw [getExecutorContextAndEvent] at made
  rw [executorConfig]
  cases found : env.heap.get? task with
  | none =>
      rw [found] at made
      cases made
  | some profile =>
      cases resolved : env.getEventKlass profile with
      | error error => simp [found, resolved, bind, Except.bind] at made
      | ok klass =>
          simp only [found, resolved, bind, Except.bind] at made ⊢
          split at made
          · cases made
          · cases constructed : env.makeEvent klass (env.eventInitArguments task klass) with
            | error error => simp [constructed] at made
            | ok _ =>
                cases declared : (env.declarations klass).executorConfig.getExecutorInitializerConfig
                    env.values with
                | error error => simp [constructed, declared] at made
                | ok config =>
                    simp only [constructed, declared, pure, Except.pure, Except.ok.injEq] at made
                    exact ⟨config, rfl, by rw [← made]⟩

end ExecutionEnvironment

/-! ## The dictionary -/

structure EventConfig (Value : Type) where
  event : TaskEvent
  callArgs : Arguments Value
deriving DecidableEq, Repr

/-- A key is the text `"context"`, or an event. -/
inductive ExecutionKey
  | context
  | event (address : Nat)
deriving DecidableEq, Repr

inductive ExecutionEntry (Value : Type)
  | configuration (context : Arguments Value)
  | event (config : EventConfig Value)
deriving DecidableEq, Repr

abbrev ExecutionConfig (Value : Type) := List (ExecutionKey × ExecutionEntry Value)

abbrev ExecutorsMap (Value : Type) := List (ExecutorKlass × ExecutionConfig Value)

section Dictionary

variable {Value : Type} (values : ArgumentValues Value)

/-- One turn of the loop that merges the options of an event. -/
def mergeOption (previousContext : Arguments Value) (key : String) (value : Value) :
    Except String (Arguments Value) :=
  let previousValue := (OrderedDict.get key previousContext).getD (values.ofInt 0)
  if values.equal previousValue value then .ok previousContext
  else if values.isEmptyInstance value then .ok previousContext
  else if values.isNumeric value then
    if values.isNumeric previousValue then do
      let number ← values.int value
      let previousNumber ← values.int previousValue
      return OrderedDict.insert key (values.ofInt (max number previousNumber)) previousContext
    else .ok previousContext
  else .ok previousContext

def mergeContext (previousContext context : Arguments Value) : Except String (Arguments Value) :=
  context.foldlM (fun previousContext entry =>
    mergeOption values previousContext entry.1 entry.2) previousContext

/-- The options are merged if those of the events before are empty. -/
def nextContext (previousContext context : Arguments Value) : Except String (Arguments Value) :=
  if previousContext ≠ [] then .ok previousContext
  else mergeContext values previousContext context

def addEvent (executorsMap : ExecutorsMap Value) (executor : ExecutorKlass)
    (context : Arguments Value) (config : EventConfig Value) :
    Except String (ExecutorsMap Value) :=
  match OrderedDict.get executor executorsMap with
  | none =>
      .ok (OrderedDict.insert executor
        [(.context, .configuration context), (.event config.event.address, .event config)]
        executorsMap)
  | some entries =>
      let entries := OrderedDict.insert (.event config.event.address) (.event config) entries
      match OrderedDict.get .context entries with
      | some (.configuration previousContext) => do
          let nextContext ← nextContext values previousContext context
          return OrderedDict.insert executor
            (OrderedDict.insert .context (.configuration nextContext) entries) executorsMap
      | some (.event _) | none => .error "'context'"

end Dictionary

/-! ## Gathering -/

/-- What happens while a context executes its events: signals are emitted, executors are made and
shut down, and events are submitted. -/
inductive ExecutionAction (Value : Type)
  | executionInit (event : TaskEvent) (executor : ExecutorKlass) (callKwargs : Arguments Value)
  | makeExecutor (executor : ExecutorKlass) (config : Arguments Value)
  | executionStart (event : TaskEvent)
  | submit (executor : ExecutorKlass) (event : TaskEvent) (callArgs : Arguments Value)
  | addDoneCallback (event : TaskEvent)
  | shutdown (executor : ExecutorKlass)
deriving DecidableEq, Repr

/-- The events that have been made, with their retry policies, and what has happened. -/
structure SubmissionState (Value : Type) where
  retries : RetryState
  log : List (ExecutionAction Value) := []

abbrev Submitting (Value Output : Type) := EStateM String (SubmissionState Value) Output

def logAction {Value : Type} (action : ExecutionAction Value) : Submitting Value Unit :=
  modify fun state => { state with log := state.log ++ [action] }

namespace ExecutionEnvironment

variable {Value Future : Type} [DecidableEq Value] (env : ExecutionEnvironment Value Future)

/-- One turn of the loop over the tasks. -/
def gatherExecutor (executorsMap : ExecutorsMap Value) (task : TaskId) :
    Submitting Value (ExecutorsMap Value) := do
  let prepared ← Effects.lift (env.getExecutorContextAndEvent task)
  let state ← get
  let event : TaskEvent := {
    address := state.retries.events.length
    task
    klass := prepared.klass }
  set { state with retries := state.retries.step (.configure prepared.profile) }
  logAction (.executionInit event prepared.executor prepared.callArguments)
  Effects.lift (addEvent env.values executorsMap prepared.executor prepared.context
    { event, callArgs := prepared.callArguments })

def gatherExecutors (tasks : List TaskId) : Submitting Value (ExecutorsMap Value) :=
  tasks.foldlM env.gatherExecutor []

end ExecutionEnvironment

/-! ## The dictionary groups the events -/

/-- An event as it is gathered: with the class of its executor, and what it declares for it. -/
structure GatheredEvent (Value : Type) where
  executor : ExecutorKlass
  context : Arguments Value
  config : EventConfig Value
deriving DecidableEq, Repr

namespace GatheredEvent

variable {Value : Type}

def entry (gathered : GatheredEvent Value) : ExecutionKey × ExecutionEntry Value :=
  (.event gathered.config.event.address, .event gathered.config)

/-- The dictionary for a group of events. The first of them is the one whose options count. -/
def executionConfig : List (GatheredEvent Value) → ExecutionConfig Value
  | [] => []
  | first :: rest =>
      (.context, .configuration first.context) :: (first :: rest).map entry

def executorsMap (events : List (GatheredEvent Value)) : ExecutorsMap Value :=
  (Grouping.groupBy executor events).map fun group => (group.1, executionConfig group.2)

theorem insert_executionConfig {first item : GatheredEvent Value}
    {rest : List (GatheredEvent Value)}
    (fresh : ∀ other ∈ first :: rest,
      other.config.event.address ≠ item.config.event.address) :
    OrderedDict.insert (.event item.config.event.address) (.event item.config)
      (executionConfig (first :: rest)) = executionConfig (first :: rest ++ [item]) := by
  rw [OrderedDict.insert_of_not_mem]
  · simp [executionConfig, entry]
  · intro present
    simp only [OrderedDict.keys, executionConfig, List.map_cons, List.map_map, List.mem_cons,
      reduceCtorEq, false_or] at present
    rcases present with same | present
    · exact fresh first List.mem_cons_self (ExecutionKey.event.inj same).symm
    · rcases List.mem_map.mp present with ⟨other, member, same⟩
      exact fresh other (List.mem_cons_of_mem _ member) (ExecutionKey.event.inj same)

/-- An event is added to the group of its executor. That the options are merged only if there are
none does not matter when all events with the executor have some, or none of them has. -/
theorem addEvent_executorsMap (values : ArgumentValues Value)
    {events : List (GatheredEvent Value)} {item : GatheredEvent Value}
    (fresh : ∀ other ∈ events, other.config.event.address ≠ item.config.event.address)
    (agree : ∀ other ∈ events, other.executor = item.executor →
      (other.context = [] → item.context = [])) :
    addEvent values (executorsMap events) item.executor item.context item.config =
      .ok (executorsMap (events ++ [item])) := by
  have looked := OrderedDict.get_map executionConfig item.executor
    (Grouping.groupBy executor events)
  rw [executorsMap, executorsMap, Grouping.groupBy_concat, Grouping.addTo,
    OrderedDict.insert_map, addEvent, looked]
  cases found : OrderedDict.get item.executor (Grouping.groupBy executor events) with
  | none => rfl
  | some members =>
      rcases Grouping.eq_filter_of_mem_groupBy executor (OrderedDict.mem_of_get found) with
        ⟨nonempty, filtered⟩
      have among : ∀ other ∈ members, other ∈ events ∧ other.executor = item.executor := by
        intro other member
        rw [filtered] at member
        simpa using List.mem_filter.mp member
      cases members with
      | nil => exact absurd rfl nonempty
      | cons first rest =>
          have apart : ∀ other ∈ first :: rest,
              other.config.event.address ≠ item.config.event.address :=
            fun other member => fresh other (among other member).1
          have stored : OrderedDict.get .context (executionConfig (first :: rest ++ [item])) =
              some (.configuration first.context) := by
            simp [executionConfig, OrderedDict.get]
          have kept : nextContext values first.context item.context = .ok first.context := by
            rw [nextContext]
            by_cases empty : first.context = []
            · have nothing := agree first (among first List.mem_cons_self).1
                (among first List.mem_cons_self).2 empty
              rw [if_neg (not_not_intro empty), nothing]
              rfl
            · exact if_pos empty
          simp only [Option.map_some, Option.getD_some]
          rw [insert_executionConfig apart, stored]
          simp only [kept]
          change Except.ok _ = Except.ok _
          rw [OrderedDict.insert_of_get stored]

end GatheredEvent

end EventPipeline
