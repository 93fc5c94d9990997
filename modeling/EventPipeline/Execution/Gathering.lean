import EventPipeline.Execution.ExecutorMap

/-! # Gathering runs

The events that are gathered for the tasks of a context, and what has happened when they are all
there, or when one of them could not be made.
-/

namespace EventPipeline

/-- Between the states, nothing but signals for events that have been made has been emitted. -/
def OnlyInits {Value : Type} (before after : SubmissionState Value) : Prop :=
  ∃ actions, after.log = before.log ++ actions ∧ ∀ action ∈ actions, ∃ event executor callKwargs,
    action = .executionInit event executor callKwargs

theorem OnlyInits.refl {Value : Type} (state : SubmissionState Value) : OnlyInits state state :=
  ⟨[], by simp, by simp⟩

theorem OnlyInits.trans {Value : Type} {first second third : SubmissionState Value}
    (front : OnlyInits first second) (back : OnlyInits second third) : OnlyInits first third := by
  rcases front with ⟨actions, firstLog, inits⟩
  rcases back with ⟨others, secondLog, otherInits⟩
  refine ⟨actions ++ others, by rw [secondLog, firstLog, List.append_assoc], ?_⟩
  intro action member
  exact (List.mem_append.mp member).elim (inits action) (otherInits action)

theorem OnlyInits.of_log {Value : Type} {before after : SubmissionState Value} {event : TaskEvent}
    {executor : ExecutorKlass} {callKwargs : Arguments Value}
    (log : after.log = before.log ++ [.executionInit event executor callKwargs]) :
    OnlyInits before after :=
  ⟨_, log, fun _ member => ⟨event, executor, callKwargs, List.mem_singleton.mp member⟩⟩

def PreparedEvent.gathered {Value : Type} (prepared : PreparedEvent Value) (task : TaskId)
    (address : Nat) : GatheredEvent Value where
  executor := prepared.executor
  context := prepared.context
  config := {
    event := ⟨address, task, prepared.klass⟩
    callArgs := prepared.callArguments }

def SubmissionState.announce {Value : Type} (state : SubmissionState Value) (task : TaskId)
    (prepared : PreparedEvent Value) : SubmissionState Value where
  retries := state.retries.step (.configure prepared.profile)
  log := state.log ++ [.executionInit ⟨state.retries.events.length, task, prepared.klass⟩
    prepared.executor prepared.callArguments]

theorem SubmissionState.length_announce {Value : Type} (state : SubmissionState Value)
    (task : TaskId) (prepared : PreparedEvent Value) :
    (state.announce task prepared).retries.events.length = state.retries.events.length + 1 := by
  simp [announce, RetryState.step]

namespace ExecutionEnvironment

variable {Value Future : Type} [DecidableEq Value] (env : ExecutionEnvironment Value Future)

/-- The event of the task can be made. -/
def Instantiable (task : TaskId) : Prop :=
  ∃ prepared, env.getExecutorContextAndEvent task = .ok prepared

def gatheredEvents (address : Nat) (tasks : List TaskId) : List (GatheredEvent Value) :=
  (tasks.zipIdx address).filterMap fun entry =>
    match env.getExecutorContextAndEvent entry.1 with
    | .ok prepared => some (prepared.gathered entry.1 entry.2)
    | .error _ => none

def Configured (gathered : GatheredEvent Value) : Prop :=
  ∃ config, gathered.context =
    (env.executors gathered.executor).constructorArguments env.values config

/-- The events that have been gathered were made before, with options of their own. -/
structure Gathers (done : List (GatheredEvent Value)) (state : SubmissionState Value) : Prop where
  older : ∀ other ∈ done, other.config.event.address < state.retries.events.length
  configured : ∀ other ∈ done, env.Configured other

/-! ## One task -/

section Gathering

variable {env} {task : TaskId} {prepared : PreparedEvent Value}

theorem gatherExecutor_announce (made : env.getExecutorContextAndEvent task = .ok prepared)
    (executorsMap : ExecutorsMap Value) (state : SubmissionState Value) :
    env.gatherExecutor executorsMap task state =
      Effects.lift (addEvent env.values executorsMap prepared.executor prepared.context
        (prepared.gathered task state.retries.events.length).config)
        (state.announce task prepared) := by
  rw [gatherExecutor, made]
  rfl

theorem gatherExecutor_eq_error {executorsMap : ExecutorsMap Value} {error : String}
    (raised : env.getExecutorContextAndEvent task = .error error)
    (state : SubmissionState Value) :
    env.gatherExecutor executorsMap task state = .error error state := by
  rw [gatherExecutor, raised]
  rfl

theorem Configured.eq_nil {first second : GatheredEvent Value} (made : env.Configured first)
    (others : env.Configured second) (same : first.executor = second.executor)
    (empty : first.context = []) : second.context = [] := by
  rcases made with ⟨config, made⟩
  rcases others with ⟨other, others⟩
  rw [made, same, ExecutorDeclaration.constructorArguments_eq_nil_iff] at empty
  rw [others, ExecutorDeclaration.constructorArguments_eq_nil_iff]
  exact empty

theorem configured_gathered (made : env.getExecutorContextAndEvent task = .ok prepared)
    (address : Nat) : env.Configured (prepared.gathered task address) := by
  rcases getExecutorContextAndEvent_context made with ⟨config, -, context⟩
  exact ⟨config, context⟩

theorem Gathers.gatherExecutor {done : List (GatheredEvent Value)} {state : SubmissionState Value}
    (gathers : env.Gathers done state)
    (made : env.getExecutorContextAndEvent task = .ok prepared) :
    env.gatherExecutor (GatheredEvent.executorsMap done) task state =
        .ok (GatheredEvent.executorsMap
          (done ++ [prepared.gathered task state.retries.events.length]))
          (state.announce task prepared) ∧
      env.Gathers (done ++ [prepared.gathered task state.retries.events.length])
        (state.announce task prepared) := by
  have configured := configured_gathered made state.retries.events.length
  have added : addEvent env.values (GatheredEvent.executorsMap done) prepared.executor
      prepared.context (prepared.gathered task state.retries.events.length).config = .ok _ :=
    GatheredEvent.addEvent_executorsMap env.values
      (fun other member => (gathers.older other member).ne)
      (fun other member same empty =>
        (gathers.configured other member).eq_nil configured same empty)
  refine ⟨?_, ?_, ?_⟩
  · have ran := gatherExecutor_announce made (GatheredEvent.executorsMap done) state
    rw [added] at ran
    exact ran
  · intro other member
    rw [SubmissionState.length_announce]
    rcases List.mem_append.mp member with member | member
    · exact (gathers.older other member).trans (Nat.lt_succ_self _)
    · rw [List.mem_singleton.mp member]
      exact Nat.lt_succ_self _
  · intro other member
    rcases List.mem_append.mp member with member | member
    · exact gathers.configured other member
    · rw [List.mem_singleton.mp member]
      exact configured

/-! ## All tasks -/

theorem gatheredEvents_cons (made : env.getExecutorContextAndEvent task = .ok prepared)
    (address : Nat) (tasks : List TaskId) :
    env.gatheredEvents address (task :: tasks) =
      prepared.gathered task address :: env.gatheredEvents (address + 1) tasks := by
  rw [gatheredEvents, List.zipIdx_cons, List.filterMap_cons]
  simp only [made]
  rfl

theorem Gathers.run {tasks : List TaskId} {done : List (GatheredEvent Value)}
    {state : SubmissionState Value} (gathers : env.Gathers done state)
    (instantiable : ∀ task ∈ tasks, env.Instantiable task) :
    ∃ retries, tasks.foldlM env.gatherExecutor (GatheredEvent.executorsMap done) state =
      .ok (GatheredEvent.executorsMap
          (done ++ env.gatheredEvents state.retries.events.length tasks))
        { retries
          log := state.log ++ (env.gatheredEvents state.retries.events.length tasks).map
            fun gathered => .executionInit gathered.config.event gathered.executor
              gathered.config.callArgs } := by
  induction tasks generalizing done state with
  | nil => exact ⟨state.retries, by simp [gatheredEvents, pure, EStateM.pure]⟩
  | cons task tasks induction =>
      rcases instantiable task List.mem_cons_self with ⟨prepared, made⟩
      rcases gathers.gatherExecutor made with ⟨ran, next⟩
      rcases induction next fun other member =>
        instantiable other (List.mem_cons_of_mem _ member) with ⟨retries, rest⟩
      rw [SubmissionState.length_announce] at rest
      rw [gatheredEvents_cons made, List.foldlM_cons, Effects.run_bind_ok ran]
      refine ⟨retries, rest.trans ?_⟩
      simp [SubmissionState.announce, PreparedEvent.gathered]

theorem gatherExecutors_eq_ok {tasks : List TaskId} (state : SubmissionState Value)
    (instantiable : ∀ task ∈ tasks, env.Instantiable task) :
    ∃ retries, env.gatherExecutors tasks state =
      .ok (GatheredEvent.executorsMap (env.gatheredEvents state.retries.events.length tasks))
        { retries
          log := state.log ++ (env.gatheredEvents state.retries.events.length tasks).map
            fun gathered => .executionInit gathered.config.event gathered.executor
              gathered.config.callArgs } := by
  have start : env.Gathers [] state := ⟨by simp, by simp⟩
  exact start.run instantiable

theorem gatherExecutors_eq_error {tasks : List TaskId}
    (refused : ∃ task ∈ tasks, ¬ env.Instantiable task) (executorsMap : ExecutorsMap Value)
    (state : SubmissionState Value) :
    ∃ error next, tasks.foldlM env.gatherExecutor executorsMap state = .error error next ∧
      OnlyInits state next := by
  induction tasks generalizing executorsMap state with
  | nil => simp at refused
  | cons task tasks induction =>
      rw [List.foldlM_cons]
      cases made : env.getExecutorContextAndEvent task with
      | error error =>
          have raised := @gatherExecutor_eq_error _ _ _ env task executorsMap _ made state
          exact ⟨error, state, Effects.run_bind_error raised _, .refl state⟩
      | ok prepared =>
          have later : ∃ task ∈ tasks, ¬ env.Instantiable task := by
            rcases refused with ⟨other, member, refused⟩
            rcases List.mem_cons.mp member with rfl | member
            · exact absurd ⟨prepared, made⟩ refused
            · exact ⟨other, member, refused⟩
          have ran := gatherExecutor_announce made executorsMap state
          cases added : addEvent env.values executorsMap prepared.executor prepared.context
              (prepared.gathered task state.retries.events.length).config with
          | error error =>
              rw [added] at ran
              exact ⟨error, _, Effects.run_bind_error ran _, .of_log rfl⟩
          | ok next =>
              rw [added] at ran
              rw [Effects.run_bind_ok ran]
              rcases induction later next (state.announce task prepared) with
                ⟨error, after, raised, inits⟩
              exact ⟨error, after, raised, .trans (.of_log rfl) inits⟩

theorem mem_gatheredEvents {address : Nat} {tasks : List TaskId} {gathered : GatheredEvent Value}
    (member : gathered ∈ env.gatheredEvents address tasks) :
    ∃ task ∈ tasks, ∃ prepared, env.getExecutorContextAndEvent task = .ok prepared ∧
      gathered.executor = prepared.executor ∧ gathered.context = prepared.context ∧
      gathered.config.callArgs = prepared.callArguments ∧
      ∃ position, gathered.config.event = ⟨position, task, prepared.klass⟩ := by
  rcases List.mem_filterMap.mp member with ⟨⟨task, position⟩, among, found⟩
  have present : task ∈ tasks := by
    rw [← List.zipIdx_map_fst address tasks]
    exact List.mem_map_of_mem among
  cases made : env.getExecutorContextAndEvent task with
  | error error => simp [made] at found
  | ok prepared =>
      simp only [made, Option.some.injEq] at found
      subst found
      exact ⟨task, present, prepared, made, rfl, rfl, rfl, position, rfl⟩

theorem gatheredEvents_tasks {tasks : List TaskId}
    (instantiable : ∀ task ∈ tasks, env.Instantiable task) (address : Nat) :
    (env.gatheredEvents address tasks).map (fun gathered => gathered.config.event.task) =
      tasks := by
  induction tasks generalizing address with
  | nil => rfl
  | cons task tasks induction =>
      rcases instantiable task List.mem_cons_self with ⟨prepared, made⟩
      rw [gatheredEvents_cons made, List.map_cons,
        induction fun other member => instantiable other (List.mem_cons_of_mem _ member)]
      rfl

theorem exists_mem_gatheredEvents {tasks : List TaskId} {task : TaskId}
    {prepared : PreparedEvent Value} (instantiable : ∀ task ∈ tasks, env.Instantiable task)
    (member : task ∈ tasks) (made : env.getExecutorContextAndEvent task = .ok prepared)
    (address : Nat) :
    ∃ gathered ∈ env.gatheredEvents address tasks, gathered.executor = prepared.executor := by
  rw [← gatheredEvents_tasks instantiable address] at member
  rcases List.mem_map.mp member with ⟨gathered, among, named⟩
  rcases mem_gatheredEvents among with ⟨other, -, own, otherMade, executor, -, -, position, event⟩
  have same : other = task := by rw [← named, event]
  subst same
  have equal : own = prepared := Except.ok.inj (otherMade.symm.trans made)
  exact ⟨gathered, among, by rw [executor, equal]⟩

end Gathering

end ExecutionEnvironment

end EventPipeline
