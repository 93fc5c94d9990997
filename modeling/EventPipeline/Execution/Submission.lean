import EventPipeline.Execution.Gathering

/-! # Submitting the events of a context

When the executors have been gathered, one executor of each class is made, the events that have
been gathered for it are submitted to it, and it is shut down before the next one is made.
-/

namespace EventPipeline

namespace ExecutionEnvironment

variable {Value Future : Type} [DecidableEq Value] (env : ExecutionEnvironment Value Future)

def submitEventToExecutor (executor : ExecutorKlass) (config : EventConfig Value) :
    Submitting Value Future := do
  logAction (.executionStart config.event)
  logAction (.submit executor config.event config.callArgs)
  let future ← Effects.lift (env.submit executor config.event config.callArgs)
  logAction (.addDoneCallback config.event)
  return future

/-- The block of a `with` statement. The executor is shut down also if the block raises. -/
def withExecutor {Output : Type} (executor : ExecutorKlass) (config : Arguments Value)
    (block : Submitting Value Output) : Submitting Value Output := do
  logAction (.makeExecutor executor config)
  Effects.lift (env.makeExecutor executor config)
  try block finally logAction (.shutdown executor)

/-- Submit what is stored under a key other than `"context"`. -/
def submitEntry (executor : ExecutorKlass) (entry : ExecutionKey × ExecutionEntry Value) :
    Submitting Value Future :=
  match entry.2 with
  | .event config => env.submitEventToExecutor executor config
  | .configuration _ => throw "'event'"

/-- The entry `"context"`, which is removed. -/
def popContext (executionConfig : ExecutionConfig Value) :
    Arguments Value × ExecutionConfig Value :=
  (match OrderedDict.get .context executionConfig with
    | some (.configuration context) => context
    | some (.event _) | none => [],
    executionConfig.filter fun entry => entry.1 ≠ .context)

def executeEvents (executor : ExecutorKlass) (executionConfig : ExecutionConfig Value) :
    Submitting Value (List Future) := do
  let (executorConfig, executionConfig) := popContext executionConfig
  match executionConfig with
  | [entry] =>
      env.withExecutor executor executorConfig do
        let future ← env.submitEntry executor entry
        return [future]
  | entries =>
      env.withExecutor executor executorConfig (entries.mapM (env.submitEntry executor))

/-- One turn of the loop over the executor classes. -/
def executeNext (futures : List Future) (entry : ExecutorKlass × ExecutionConfig Value) :
    Submitting Value (List Future) := do
  let more ← env.executeEvents entry.1 entry.2
  return futures ++ more

def initAndExecuteEvents (tasks : List TaskId) : Submitting Value (List Future) := do
  let executorsMap ← env.gatherExecutors tasks
  executorsMap.foldlM env.executeNext []

end ExecutionEnvironment

/-! ## What is submitted -/

/-- What happens when an event is submitted. -/
def submissionActions {Value : Type} (executor : ExecutorKlass) (config : EventConfig Value) :
    List (ExecutionAction Value) :=
  [.executionStart config.event, .submit executor config.event config.callArgs,
    .addDoneCallback config.event]

/-- An executor that is made, and the events that are submitted to it. -/
structure ExecutorGroup (Value : Type) where
  executor : ExecutorKlass
  config : Arguments Value
  events : List (EventConfig Value)
deriving DecidableEq, Repr

namespace ExecutorGroup

variable {Value : Type} (group : ExecutorGroup Value)

def actions : List (ExecutionAction Value) :=
  .makeExecutor group.executor group.config ::
    group.events.flatMap (submissionActions group.executor) ++ [.shutdown group.executor]

def submissions : List (ExecutorKlass × EventConfig Value) :=
  group.events.map fun config => (group.executor, config)

end ExecutorGroup

namespace ExecutionEnvironment

variable {Value Future : Type} [DecidableEq Value] (env : ExecutionEnvironment Value Future)

/-- The executors of the events are made from the options that these declare, and accept what is
submitted to them. -/
def Cooperates (tasks : List TaskId) : Prop :=
  ∀ task ∈ tasks, ∀ prepared, env.getExecutorContextAndEvent task = .ok prepared →
    env.makeExecutor prepared.executor prepared.context = .ok () ∧
      ∀ address, ∃ future,
        env.submit prepared.executor ⟨address, task, prepared.klass⟩ prepared.callArguments =
          .ok future

def ownSubmissions (before : SubmissionState Value) (tasks : List TaskId) :
    List (ExecutorKlass × EventConfig Value) :=
  (env.gatheredEvents before.retries.events.length tasks).map fun gathered =>
    (gathered.executor, gathered.config)

/-- After the signals for the events, one executor of each of their classes is made, the event of
each task is submitted to its own executor once, and its future is returned. -/
def SubmitsEachOnce (tasks : List TaskId) (before after : SubmissionState Value)
    (futures : List Future) : Prop :=
  (env.ownSubmissions before tasks).map (fun submission => submission.2.event.task) = tasks ∧
    futures.length = tasks.length ∧
    ∃ groups : List (ExecutorGroup Value),
      after.log = before.log ++ (env.ownSubmissions before tasks).map (fun submission =>
        .executionInit submission.2.event submission.1 submission.2.callArgs) ++
        groups.flatMap ExecutorGroup.actions ∧
      (groups.map ExecutorGroup.executor).Nodup ∧
      (∀ executor, executor ∈ groups.map ExecutorGroup.executor ↔
        ∃ task ∈ tasks, ∃ prepared,
          env.getExecutorContextAndEvent task = .ok prepared ∧ prepared.executor = executor) ∧
      (groups.flatMap ExecutorGroup.submissions).Perm (env.ownSubmissions before tasks) ∧
      List.Forall₂ (fun submission future =>
        env.submit submission.1 submission.2.event submission.2.callArgs = .ok future)
        (groups.flatMap ExecutorGroup.submissions) futures

/-- The call raises an exception, and nothing but signals for events has been emitted: no executor
is made and no event is submitted. -/
def RefusesAll (tasks : List TaskId) (before : SubmissionState Value) : Prop :=
  ∃ error after, env.initAndExecuteEvents tasks before = .error error after ∧
    OnlyInits before after

end ExecutionEnvironment

/-! ## Execution runs -/

namespace ExecutionEnvironment

section Executing

variable {Value Future : Type} {env : ExecutionEnvironment Value Future}

theorem submitEventToExecutor_eq_ok {executor : ExecutorKlass} {config : EventConfig Value}
    {future : Future} (submitted : env.submit executor config.event config.callArgs = .ok future)
    (state : SubmissionState Value) :
    env.submitEventToExecutor executor config state =
      .ok future { state with log := state.log ++ submissionActions executor config } := by
  rw [submitEventToExecutor, submitted]
  change EStateM.Result.ok _ _ = _
  simp [submissionActions]

theorem withExecutor_eq_ok {Output : Type} {executor : ExecutorKlass} {config : Arguments Value}
    {block : Submitting Value Output} {state next : SubmissionState Value} {output : Output}
    (made : env.makeExecutor executor config = .ok ())
    (ran : block { state with log := state.log ++ [.makeExecutor executor config] } =
      .ok output next) :
    env.withExecutor executor config block state =
      .ok output { next with log := next.log ++ [.shutdown executor] } := by
  rw [withExecutor, made]
  change (tryFinally block (logAction (.shutdown executor)) : Submitting Value Output)
    { state with log := state.log ++ [.makeExecutor executor config] } = _
  simp only [tryFinally, tryFinally', Functor.map, EStateM.map, ran]
  rfl

theorem mapM_submitEntry {executor : ExecutorKlass} {events : List (GatheredEvent Value)}
    (submitted : ∀ gathered ∈ events, ∃ future,
      env.submit executor gathered.config.event gathered.config.callArgs = .ok future)
    (state : SubmissionState Value) :
    ∃ futures, (events.map GatheredEvent.entry).mapM (env.submitEntry executor) state =
      .ok futures { state with
        log := state.log ++
          (events.map GatheredEvent.config).flatMap (submissionActions executor) } ∧
      List.Forall₂ (fun config future =>
        env.submit executor config.event config.callArgs = .ok future)
        (events.map GatheredEvent.config) futures := by
  induction events generalizing state with
  | nil => exact ⟨[], by simp [pure, EStateM.pure], .nil⟩
  | cons gathered events induction =>
      rcases submitted gathered List.mem_cons_self with ⟨future, accepted⟩
      have first : env.submitEntry executor gathered.entry state = _ :=
        submitEventToExecutor_eq_ok accepted state
      rcases induction (fun other member => submitted other (List.mem_cons_of_mem _ member))
        { state with log := state.log ++ submissionActions executor gathered.config } with
        ⟨futures, rest, each⟩
      refine ⟨future :: futures, ?_, .cons accepted each⟩
      rw [List.map_cons, List.mapM_cons, Effects.run_bind_ok first, Effects.run_bind_ok rest]
      simp [pure, EStateM.pure]

def submissionGroup (entry : ExecutorKlass × List (GatheredEvent Value)) : ExecutorGroup Value where
  executor := entry.1
  config := (entry.2.head?.map GatheredEvent.context).getD []
  events := entry.2.map GatheredEvent.config

theorem popContext_executionConfig (first : GatheredEvent Value)
    (rest : List (GatheredEvent Value)) :
    popContext (GatheredEvent.executionConfig (first :: rest)) =
      (first.context, (first :: rest).map GatheredEvent.entry) := by
  rw [popContext, GatheredEvent.executionConfig]
  refine Prod.ext rfl ?_
  rw [List.filter_cons_of_neg (by simp), List.filter_eq_self]
  intro entry member
  rcases List.mem_map.mp member with ⟨gathered, -, rfl⟩
  simp [GatheredEvent.entry]

theorem executeEvents_eq_ok {executor : ExecutorKlass} {events : List (GatheredEvent Value)}
    (nonempty : events ≠ [])
    (made : env.makeExecutor executor (submissionGroup (executor, events)).config = .ok ())
    (submitted : ∀ gathered ∈ events, ∃ future,
      env.submit executor gathered.config.event gathered.config.callArgs = .ok future)
    (state : SubmissionState Value) :
    ∃ futures, env.executeEvents executor (GatheredEvent.executionConfig events) state =
      .ok futures { state with log := state.log ++ (submissionGroup (executor, events)).actions } ∧
      List.Forall₂ (fun submission future =>
        env.submit submission.1 submission.2.event submission.2.callArgs = .ok future)
        (submissionGroup (executor, events)).submissions futures := by
  rcases mapM_submitEntry submitted { state with
    log := state.log ++ [.makeExecutor executor (submissionGroup (executor, events)).config] } with
    ⟨futures, ran, each⟩
  have entered := withExecutor_eq_ok made ran
  cases events with
  | nil => exact absurd rfl nonempty
  | cons first rest =>
      refine ⟨futures, ?_, ?_⟩
      · rw [executeEvents, popContext_executionConfig]
        refine Eq.trans ?_ (entered.trans ?_)
        · cases rest with
          | nil =>
              have single : [first.entry].mapM (env.submitEntry executor) = do
                  let future ← env.submitEntry executor first.entry
                  return [future] := by simp
              exact congrArg (fun block => env.withExecutor executor first.context block state)
                single.symm
          | cons second rest => rfl
        · simp [ExecutorGroup.actions, submissionGroup]
      · rw [ExecutorGroup.submissions, List.forall₂_map_left_iff]
        exact each

theorem foldlM_executeNext {groups : List (ExecutorKlass × List (GatheredEvent Value))}
    (nonempty : ∀ group ∈ groups, group.2 ≠ [])
    (made : ∀ group ∈ groups, env.makeExecutor group.1 (submissionGroup group).config = .ok ())
    (submitted : ∀ group ∈ groups, ∀ gathered ∈ group.2, ∃ future,
      env.submit group.1 gathered.config.event gathered.config.callArgs = .ok future)
    (futures : List Future) (state : SubmissionState Value) :
    ∃ more, (groups.map fun group => (group.1, GatheredEvent.executionConfig group.2)).foldlM
        env.executeNext futures state =
      .ok (futures ++ more) { state with
        log := state.log ++ (groups.map submissionGroup).flatMap ExecutorGroup.actions } ∧
      List.Forall₂ (fun submission future =>
        env.submit submission.1 submission.2.event submission.2.callArgs = .ok future)
        ((groups.map submissionGroup).flatMap ExecutorGroup.submissions) more := by
  induction groups generalizing futures state with
  | nil => exact ⟨[], by simp [pure, EStateM.pure], .nil⟩
  | cons group groups induction =>
      rcases executeEvents_eq_ok (nonempty group List.mem_cons_self)
        (made group List.mem_cons_self) (submitted group List.mem_cons_self) state with
        ⟨firsts, ran, each⟩
      rcases induction (fun other member => nonempty other (List.mem_cons_of_mem _ member))
        (fun other member => made other (List.mem_cons_of_mem _ member))
        (fun other member => submitted other (List.mem_cons_of_mem _ member))
        (futures ++ firsts) { state with log := state.log ++ (submissionGroup group).actions } with
        ⟨more, rest, others⟩
      refine ⟨firsts ++ more, ?_, List.rel_append each others⟩
      have turn : env.executeNext futures (group.1, GatheredEvent.executionConfig group.2) state =
          .ok (futures ++ firsts)
            { state with log := state.log ++ (submissionGroup group).actions } := by
        rw [executeNext, Effects.run_bind_ok ran]
        rfl
      rw [List.map_cons, List.foldlM_cons, Effects.run_bind_ok turn, rest]
      simp

end Executing

/-! ## Every event is submitted once -/

section Results

variable {Value Future : Type}

theorem submissions_submissionGroup {group : ExecutorKlass × List (GatheredEvent Value)}
    (own : ∀ gathered ∈ group.2, gathered.executor = group.1) :
    (submissionGroup group).submissions =
      group.2.map fun gathered => (gathered.executor, gathered.config) := by
  rw [ExecutorGroup.submissions, submissionGroup, List.map_map]
  apply List.map_congr_left
  intro gathered member
  rw [Function.comp_apply, own gathered member]

theorem of_mem_groupBy {events members : List (GatheredEvent Value)} {executor : ExecutorKlass}
    (member : (executor, members) ∈ Grouping.groupBy GatheredEvent.executor events) :
    members ≠ [] ∧ ∀ gathered ∈ members, gathered ∈ events ∧ gathered.executor = executor := by
  rcases Grouping.eq_filter_of_mem_groupBy _ member with ⟨nonempty, filtered⟩
  refine ⟨nonempty, fun gathered among => ?_⟩
  rw [filtered] at among
  simpa using List.mem_filter.mp among

theorem submissions_groupBy_perm (events : List (GatheredEvent Value)) :
    (((Grouping.groupBy GatheredEvent.executor events).map submissionGroup).flatMap
      ExecutorGroup.submissions).Perm
        (events.map fun gathered => (gathered.executor, gathered.config)) := by
  have ungrouped : ((Grouping.groupBy GatheredEvent.executor events).map submissionGroup).flatMap
      ExecutorGroup.submissions =
        ((Grouping.groupBy GatheredEvent.executor events).flatMap Prod.snd).map
          fun gathered => (gathered.executor, gathered.config) := by
    rw [List.flatMap_map, List.map_flatMap]
    apply List.flatMap_congr
    intro group member
    exact submissions_submissionGroup fun gathered among =>
      ((of_mem_groupBy member).2 gathered among).2
  rw [ungrouped]
  exact (Grouping.flatMap_groupBy_perm _ events).map _

variable [DecidableEq Value] {env : ExecutionEnvironment Value Future}

theorem Cooperates.group {tasks : List TaskId} {address : Nat}
    {members : List (GatheredEvent Value)}
    {executor : ExecutorKlass} (cooperates : env.Cooperates tasks)
    (member : (executor, members) ∈
      Grouping.groupBy GatheredEvent.executor (env.gatheredEvents address tasks)) :
    env.makeExecutor executor (submissionGroup (executor, members)).config = .ok () ∧
      ∀ gathered ∈ members, ∃ future,
        env.submit executor gathered.config.event gathered.config.callArgs = .ok future := by
  rcases of_mem_groupBy member with ⟨nonempty, own⟩
  constructor
  · cases members with
    | nil => exact absurd rfl nonempty
    | cons first rest =>
        rcases own first List.mem_cons_self with ⟨among, rfl⟩
        rcases mem_gatheredEvents among with ⟨task, present, prepared, made, executor, context, -⟩
        have accepted := (cooperates task present prepared made).1
        rw [← executor, ← context] at accepted
        exact accepted
  · intro gathered inside
    rcases own gathered inside with ⟨among, rfl⟩
    rcases mem_gatheredEvents among with
      ⟨task, present, prepared, made, executor, -, callArgs, position, event⟩
    rw [executor, callArgs, event]
    exact (cooperates task present prepared made).2 position

theorem initAndExecuteEvents_eq_ok {tasks : List TaskId} (cooperates : env.Cooperates tasks)
    (instantiable : ∀ task ∈ tasks, env.Instantiable task) (before : SubmissionState Value) :
    ∃ futures after, env.initAndExecuteEvents tasks before = .ok futures after ∧
      env.SubmitsEachOnce tasks before after futures := by
  rcases gatherExecutors_eq_ok before instantiable with ⟨retries, gathered⟩
  rcases @foldlM_executeNext _ _ env
      (Grouping.groupBy GatheredEvent.executor
        (env.gatheredEvents before.retries.events.length tasks))
      (fun _ member => (of_mem_groupBy member).1)
      (fun _ member => (cooperates.group member).1)
      (fun _ member => (cooperates.group member).2) []
      { retries
        log := before.log ++ (env.gatheredEvents before.retries.events.length tasks).map
          fun gathered => .executionInit gathered.config.event gathered.executor
            gathered.config.callArgs } with
    ⟨futures, ran, each⟩
  have perm := submissions_groupBy_perm (env.gatheredEvents before.retries.events.length tasks)
  have named : (env.ownSubmissions before tasks).map
      (fun submission => submission.2.event.task) = tasks := by
    rw [ownSubmissions, List.map_map]
    exact gatheredEvents_tasks instantiable _
  have sameLength : futures.length = tasks.length := by
    have counted := congrArg List.length named
    rw [List.length_map] at counted
    rw [← each.length_eq, perm.length_eq, ← counted]
    rfl
  refine ⟨futures, _, (Effects.run_bind_ok gathered _).trans ran, named, sameLength,
    (Grouping.groupBy GatheredEvent.executor
      (env.gatheredEvents before.retries.events.length tasks)).map submissionGroup,
    ?_, ?_, ?_, perm, each⟩
  · rw [ownSubmissions, List.map_map]
    rfl
  · rw [List.map_map]
    exact Grouping.nodup_keys_groupBy _ _
  · intro executor
    rw [List.map_map]
    refine (Grouping.mem_keys_groupBy GatheredEvent.executor).trans ?_
    constructor
    · rintro ⟨gathered, among, rfl⟩
      rcases mem_gatheredEvents among with ⟨task, present, prepared, made, executor, -⟩
      exact ⟨task, present, prepared, made, executor.symm⟩
    · rintro ⟨task, present, prepared, made, rfl⟩
      exact exists_mem_gatheredEvents instantiable present made _

/-- The own argument of an event for a parameter of `process` is what its pipeline has under the
name of the parameter, or else the default. Only `args` and `kwargs` may be left out. -/
theorem get_callArgs_ownSubmissions {tasks : List TaskId} {before : SubmissionState Value}
    {submission : ExecutorKlass × EventConfig Value}
    (member : submission ∈ env.ownSubmissions before tasks) {signature : CallSignature Value}
    (declared : (env.declarations submission.2.event.klass).processSignature = some signature)
    {parameter : CallParameter Value} (among : parameter ∈ signature.parameters)
    (other : parameter.name ≠ "self") (required : parameter.name ∉ optionalArguments) :
    OrderedDict.get parameter.name submission.2.callArgs =
      some (parameter.argument env.values env.pipeline) := by
  rcases List.mem_map.mp member with ⟨gathered, gatheredMember, rfl⟩
  rcases mem_gatheredEvents gatheredMember with
    ⟨task, -, prepared, made, -, -, callArgs, position, event⟩
  rw [event] at declared
  rw [callArgs, getExecutorContextAndEvent_callArguments made, declared]
  exact get_getFunctionCallArgs among other fun optional => required optional.1

theorem initAndExecuteEvents_eq_error {tasks : List TaskId}
    (refused : ∃ task ∈ tasks, ¬ env.Instantiable task) (before : SubmissionState Value) :
    env.RefusesAll tasks before := by
  rcases gatherExecutors_eq_error refused [] before with ⟨error, after, raised, inits⟩
  refine ⟨error, after, ?_, inits⟩
  rw [initAndExecuteEvents]
  exact Effects.run_bind_error raised _

/-- If the event of every task can be made, each of them is submitted once, with its own arguments
to the one executor that is made of its class, and its future is returned. If one cannot be made,
none is submitted. -/
theorem submitsEachOnce_or_refusesAll {tasks : List TaskId} (cooperates : env.Cooperates tasks)
    (before : SubmissionState Value) :
    ((∀ task ∈ tasks, env.Instantiable task) →
      ∃ futures after, env.initAndExecuteEvents tasks before = .ok futures after ∧
        env.SubmitsEachOnce tasks before after futures) ∧
    ((∃ task ∈ tasks, ¬ env.Instantiable task) → env.RefusesAll tasks before) :=
  ⟨fun instantiable => initAndExecuteEvents_eq_ok cooperates instantiable before,
    fun refused => initAndExecuteEvents_eq_error refused before⟩

end Results

end ExecutionEnvironment

/-! ## Two thread pools and the default executor -/

inductive PlainValue
  | none
  | false
  | emptyKlass
  | spawnContext
  | emptyTuple
  | int (number : Int)
  | text (text : String)
deriving DecidableEq, Repr

def plainValues : ArgumentValues PlainValue where
  noneObject := .none
  falseObject := .false
  emptyKlass := .emptyKlass
  spawnContext := .spawnContext
  ofInt := .int
  isEmptyInstance _ := Bool.false
  equal left right :=
    decide (left = right) ||
      decide ((left, right) ∈ [(PlainValue.false, PlainValue.int 0), (.int 0, .false)])
  isNumeric
    | .int number => decide (0 ≤ number)
    | .text text => text ≠ "" && text.all Char.isDigit
    | _ => Bool.false
  int
    | .int number => .ok number
    | .text text => .ok (text.foldl (fun number digit => 10 * number + (digit.toNat - 48)) 0)
    | _ => .error "int() argument must be a string, a bytes-like object or a real number"

/-- The parameters of `object.__init__`, which `DefaultExecutor` inherits, of
`ThreadPoolExecutor.__init__` and of `EventBase.__init__`. -/
def objectParameters : List (CallParameter PlainValue) := [⟨"self", none⟩, ⟨"args", none⟩,
  ⟨"kwargs", none⟩]

def threadPoolParameters : List (CallParameter PlainValue) := [⟨"self", none⟩,
  ⟨"max_workers", some .none⟩, ⟨"thread_name_prefix", some (.text "")⟩,
  ⟨"initializer", some .none⟩, ⟨"initargs", some .emptyTuple⟩]

def eventParameters : List (CallParameter PlainValue) := [⟨"self", none⟩,
  ⟨"execution_context", none⟩, ⟨"task_id", none⟩, ⟨"args", none⟩,
  ⟨"previous_result", some .emptyKlass⟩, ⟨"stop_on_exception", some .false⟩,
  ⟨"stop_on_success", some .false⟩, ⟨"stop_on_error", some .false⟩,
  ⟨"run_bypass_event_checks", some .false⟩, ⟨"kwargs", none⟩]

theorem nodup_objectParameters : (objectParameters.map CallParameter.name).Nodup := by decide

theorem nodup_threadPoolParameters :
    (threadPoolParameters.map CallParameter.name).Nodup := by decide

theorem nodup_eventParameters : (eventParameters.map CallParameter.name).Nodup := by decide

/-- A class of events that are executed in a thread pool. -/
def pooledEvent (maxWorkers : Int) : EventDeclaration PlainValue where
  executor := 1
  executorConfig := .dictionary [("max_workers", .int maxWorkers)]
  initSignature := some ⟨eventParameters, nodup_eventParameters⟩
  processSignature := some ⟨objectParameters, nodup_objectParameters⟩

def letterTasks : Heap := ⟨[
  { event := "C", onSuccessEvent := some 1, onSuccessPipe := some .pointer },
  { event := "A", parentNode := some 0, onSuccessEvent := some 2,
    onSuccessPipe := some .parallelism },
  { event := "B", parentNode := some 1, onSuccessEvent := some 3,
    onSuccessPipe := some .parallelism },
  { event := "C", parentNode := some 2 }]⟩

/-- The group of `C->A||B||C`: `A` asks for a pool of two workers, `B` for one of four, and `C` has
the default executor. -/
def letterExecution : ExecutionEnvironment PlainValue Nat where
  values := plainValues
  heap := letterTasks
  execution := { taskProfiles := [1, 2, 3], previousContext := some 0 }
  resolver := lettersResolver
  declarations klass :=
    if klass.name = "A" then pooledEvent 2
    else if klass.name = "B" then pooledEvent 4
    else { pooledEvent 0 with executor := 0, executorConfig := .unset }
  executors executor := {
    isExecutor := true
    isMultiprocessing := Bool.false
    spawnContext := none
    initSignature :=
      if executor = 0 then some ⟨objectParameters, nodup_objectParameters⟩
      else some ⟨threadPoolParameters, nodup_threadPoolParameters⟩ }
  pipeline _ := none
  executionContext := .text "context"
  taskId _ := .text "task"
  executionResult _ := .text "results"
  makeEvent _ _ := .ok ()
  makeExecutor _ _ := .ok ()
  submit _ event _ := .ok event.address

/-- No policies are declared, and no events have been made. -/
def noRetries : RetryState where
  policies := ⟨fun _ => .none, 5, fun _ => 5⟩

theorem instantiable_letterTasks : ∀ task ∈ [1, 2, 3], letterExecution.Instantiable task := by
  intro task member
  simp only [List.mem_cons, List.not_mem_nil, or_false] at member
  rcases member with rfl | rfl | rfl <;> exact ⟨_, rfl⟩

theorem submitsEachOnce_letterTasks :
    ∃ futures after, letterExecution.initAndExecuteEvents [1, 2, 3] ⟨noRetries, []⟩ =
        .ok futures after ∧
      letterExecution.SubmitsEachOnce [1, 2, 3] ⟨noRetries, []⟩ after futures := by
  have cooperates : letterExecution.Cooperates [1, 2, 3] :=
    fun task _ prepared _ => ⟨rfl, fun address => ⟨address, rfl⟩⟩
  exact (ExecutionEnvironment.submitsEachOnce_or_refusesAll cooperates ⟨noRetries, []⟩).1
    instantiable_letterTasks

end EventPipeline
