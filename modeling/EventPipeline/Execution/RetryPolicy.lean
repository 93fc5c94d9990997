import EventPipeline.Task.PipelineTask
import Mathlib.Data.List.Induction
import Mathlib.Logic.Function.Basic

/-! # Retry policies

An event class declares no policy, a dictionary, or a policy object. An event makes an object
of its own from a dictionary, and shares the object that its class declares. The retry factor
of a task is assigned to the policy of its event when the event is made.
-/

namespace EventPipeline

abbrev PolicyId := Nat

inductive DeclaredPolicy
  | none
  | dictionary (maxAttempts : Option Int)
  | object (policy : PolicyId)
deriving DecidableEq, Repr

/-- The attribute `retry_policy` of an event. -/
inductive EventPolicy
  | none
  | own (maxAttempts : Int)
  | shared (policy : PolicyId)
deriving DecidableEq, Repr

/-- The policies that event classes declare, the default of `max_attempts`, and the objects. -/
structure RetryPolicies where
  declared : String → DeclaredPolicy
  maxRetries : Int
  maxAttempts : PolicyId → Int

/-- The factor that is written behind the task. It is never zero. -/
def PipelineTask.retryFactor (task : PipelineTask) : Option Nat :=
  task.extraConfig.numberOfRetries.filter (· ≠ 0)

namespace RetryPolicies

/-- `get_retry_policy`, which events call when they are made. -/
def getRetryPolicy (policies : RetryPolicies) (event : String) : EventPolicy :=
  match policies.declared event with
  | .none => .none
  | .dictionary maxAttempts => .own (maxAttempts.getD policies.maxRetries)
  | .object policy => .shared policy

/-- `_configure_event` of a new event: the policy of the event, and the objects. -/
def configureEvent (policies : RetryPolicies) (task : PipelineTask) :
    EventPolicy × RetryPolicies :=
  match task.retryFactor with
  | none => (policies.getRetryPolicy task.event, policies)
  | some factor =>
      match policies.getRetryPolicy task.event with
      | .none | .own _ => (.own factor, policies)
      | .shared policy =>
          (.shared policy,
            { policies with maxAttempts := Function.update policies.maxAttempts policy factor })

/-- What `is_exhausted` compares the number of attempts with. Without a policy the event is
processed once and nothing is compared. -/
def attempts (policies : RetryPolicies) : EventPolicy → Option Int
  | .none => none
  | .own maxAttempts => some maxAttempts
  | .shared policy => some (policies.maxAttempts policy)

/-- The number of attempts that the task should get: its factor, or what its event class
declares. -/
def promised (policies : RetryPolicies) (task : PipelineTask) : Option Int :=
  match task.retryFactor with
  | some factor => some factor
  | none => policies.attempts (policies.getRetryPolicy task.event)

end RetryPolicies

/-! ## Runs -/

structure EventObject where
  task : PipelineTask
  policy : EventPolicy
deriving DecidableEq, Repr

/-- Any order of execution: the event of a task is made and configured, or an event that has
been made looks whether it may try again. All of it happens in one process, in which the classes of
events are shared; a process that is spawned imports them anew. -/
inductive RetryStep
  | configure (task : PipelineTask)
  | attempt (event : Nat)
deriving DecidableEq, Repr

structure RetryState where
  policies : RetryPolicies
  events : List EventObject := []

namespace RetryState

def step (state : RetryState) : RetryStep → RetryState
  | .configure task =>
      { policies := (state.policies.configureEvent task).2
        events := state.events ++ [⟨task, (state.policies.configureEvent task).1⟩] }
  | .attempt _ => state

def after (policies : RetryPolicies) (steps : List RetryStep) : RetryState :=
  steps.foldl step { policies }

end RetryState

/-- Whenever an event looks whether it may try again, it finds the number of attempts that its
task should get. -/
def OwnFactors (policies : RetryPolicies) (steps : List RetryStep) : Prop :=
  ∀ front position rest, front ++ .attempt position :: rest = steps → ∀ event,
    (RetryState.after policies front).events[position]? = some event →
    (RetryState.after policies front).policies.attempts event.policy =
      policies.promised event.task

def configuredTasks (steps : List RetryStep) : List PipelineTask :=
  steps.filterMap fun
    | .configure task => some task
    | .attempt _ => none

def lastFactor (policies : RetryPolicies) (policy : PolicyId) (tasks : List PipelineTask) :
    Option Nat :=
  ((tasks.filter fun task => policies.declared task.event = .object policy).filterMap
    PipelineTask.retryFactor).getLast?

/-- The factor that was assigned last to the policy of the task is what the task should get. -/
def Unshared (policies : RetryPolicies) (tasks : List PipelineTask) (task : PipelineTask) :
    Prop :=
  ∀ policy factor, policies.declared task.event = .object policy →
    lastFactor policies policy tasks = some factor → policies.promised task = some (factor : Int)

/-! ## What the objects hold -/

section Objects

variable {policies : RetryPolicies}

theorem lastFactor_append (policy : PolicyId) (tasks : List PipelineTask) (task : PipelineTask) :
    lastFactor policies policy (tasks ++ [task]) =
      if policies.declared task.event = .object policy then
        task.retryFactor <|> lastFactor policies policy tasks
      else lastFactor policies policy tasks := by
  unfold lastFactor
  rw [List.filter_append]
  by_cases declared : policies.declared task.event = .object policy
  · rw [List.filter_cons_of_pos (by simpa using declared), if_pos declared]
    cases factor : task.retryFactor with
    | none => simp [factor]
    | some number => simp [factor]
  · rw [List.filter_cons_of_neg (by simpa using declared), if_neg declared, List.filter_nil,
      List.append_nil]

theorem lastFactor_isSome {policy : PolicyId} {tasks : List PipelineTask} {task : PipelineTask}
    (member : task ∈ tasks) (declared : policies.declared task.event = .object policy)
    {factor : Nat} (written : task.retryFactor = some factor) :
    ∃ last, lastFactor policies policy tasks = some last := by
  have assigned : factor ∈ (tasks.filter fun task =>
      policies.declared task.event = .object policy).filterMap PipelineTask.retryFactor :=
    List.mem_filterMap.mpr ⟨task, List.mem_filter.mpr ⟨member, by simpa using declared⟩, written⟩
  exact ⟨_, List.getLast?_eq_some_getLast (List.ne_nil_of_mem assigned)⟩

structure RetryState.Holds (policies : RetryPolicies) (tasks : List PipelineTask)
    (state : RetryState) : Prop where
  declared : state.policies.declared = policies.declared
  maxRetries : state.policies.maxRetries = policies.maxRetries
  maxAttempts : ∀ policy, state.policies.maxAttempts policy =
    ((lastFactor policies policy tasks).map Int.ofNat).getD (policies.maxAttempts policy)
  events : state.events = tasks.map fun task => ⟨task, (policies.configureEvent task).1⟩

theorem configureEvent_policy {state : RetryPolicies}
    (declared : state.declared = policies.declared)
    (maxRetries : state.maxRetries = policies.maxRetries) (task : PipelineTask) :
    (state.configureEvent task).1 = (policies.configureEvent task).1 := by
  have same : state.getRetryPolicy task.event = policies.getRetryPolicy task.event := by
    rw [RetryPolicies.getRetryPolicy, declared, maxRetries]
    rfl
  unfold RetryPolicies.configureEvent
  rw [same]
  split
  · rfl
  · split <;> rfl

theorem configureEvent_maxAttempts (policies : RetryPolicies) (task : PipelineTask)
    (policy : PolicyId) :
    (policies.configureEvent task).2.maxAttempts policy =
      if policies.declared task.event = .object policy then
        (task.retryFactor.map Int.ofNat).getD (policies.maxAttempts policy)
      else policies.maxAttempts policy := by
  unfold RetryPolicies.configureEvent RetryPolicies.getRetryPolicy
  cases task.retryFactor with
  | none => exact (ite_self _).symm
  | some factor =>
      cases declared : policies.declared task.event with
      | none => rfl
      | dictionary maxAttempts => rfl
      | object kept =>
          by_cases same : policy = kept
          · simp [same]
          · have different : ¬ DeclaredPolicy.object kept = .object policy := fun equal =>
              same (DeclaredPolicy.object.inj equal).symm
            rw [if_neg different]
            exact Function.update_of_ne same _ _

theorem configureEvent_declared (policies : RetryPolicies) (task : PipelineTask) :
    (policies.configureEvent task).2.declared = policies.declared ∧
      (policies.configureEvent task).2.maxRetries = policies.maxRetries := by
  unfold RetryPolicies.configureEvent
  split
  · exact ⟨rfl, rfl⟩
  · split <;> exact ⟨rfl, rfl⟩

/-- Making an event changes the object that its class declares, and only that. -/
theorem RetryState.Holds.configure {tasks : List PipelineTask} {state : RetryState}
    (holds : state.Holds policies tasks) (task : PipelineTask) :
    (state.step (.configure task)).Holds policies (tasks ++ [task]) where
  declared := by
    change (state.policies.configureEvent task).2.declared = _
    rw [(configureEvent_declared state.policies task).1, holds.declared]
  maxRetries := by
    change (state.policies.configureEvent task).2.maxRetries = _
    rw [(configureEvent_declared state.policies task).2, holds.maxRetries]
  maxAttempts policy := by
    change (state.policies.configureEvent task).2.maxAttempts policy = _
    rw [configureEvent_maxAttempts, holds.declared, holds.maxAttempts, lastFactor_append]
    split
    · cases task.retryFactor <;> rfl
    · rfl
  events := by
    change state.events ++ [_] = _
    rw [holds.events, configureEvent_policy holds.declared holds.maxRetries, List.map_append]
    rfl

theorem RetryState.holds_after (policies : RetryPolicies) (steps : List RetryStep) :
    (RetryState.after policies steps).Holds policies (configuredTasks steps) := by
  induction steps using List.reverseRecOn with
  | nil => exact ⟨rfl, rfl, fun _ => rfl, rfl⟩
  | append_singleton front step induction =>
      rw [RetryState.after, List.foldl_append, configuredTasks, List.filterMap_append]
      cases step with
      | configure task => exact induction.configure task
      | attempt event =>
          rw [List.filterMap_cons_none rfl, List.filterMap_nil, List.append_nil]
          exact induction

/-- An event finds what its task should get exactly when nobody else has assigned another
factor to its policy. -/
theorem attempts_eq_promised_iff {tasks : List PipelineTask} {state : RetryState}
    (holds : state.Holds policies tasks) {task : PipelineTask} (member : task ∈ tasks) :
    state.policies.attempts (policies.configureEvent task).1 = policies.promised task ↔
      Unshared policies tasks task := by
  unfold Unshared
  cases declared : policies.declared task.event with
  | none =>
      refine iff_of_true ?_ (by simp)
      unfold RetryPolicies.configureEvent RetryPolicies.promised RetryPolicies.getRetryPolicy
      rw [declared]
      cases task.retryFactor <;> rfl
  | dictionary maxAttempts =>
      refine iff_of_true ?_ (by simp)
      unfold RetryPolicies.configureEvent RetryPolicies.promised RetryPolicies.getRetryPolicy
      rw [declared]
      cases task.retryFactor <;> rfl
  | object policy =>
      have shares : (policies.configureEvent task).1 = .shared policy := by
        unfold RetryPolicies.configureEvent RetryPolicies.getRetryPolicy
        rw [declared]
        cases task.retryFactor <;> rfl
      rw [shares, RetryPolicies.attempts, holds.maxAttempts]
      cases last : lastFactor policies policy tasks with
      | none =>
          -- the task has no factor, since it would have assigned it
          refine iff_of_true ?_ ?_
          · cases written : task.retryFactor with
            | none =>
                rw [RetryPolicies.promised, written]
                unfold RetryPolicies.getRetryPolicy
                rw [declared]
                rfl
            | some factor =>
                rcases lastFactor_isSome member declared written with ⟨other, assigned⟩
                rw [last] at assigned
                cases assigned
          · intro other factor same assigned
            cases same
            rw [last] at assigned
            cases assigned
      | some factor =>
          constructor
          · intro found other number same assigned
            cases same
            rw [last] at assigned
            cases assigned
            exact found.symm
          · intro unshared
            exact (unshared policy factor rfl last).symm

end Objects

/-- Every task gets its own number of attempts exactly as long as the factor that was assigned
last to the policy object of its event class, if its class has one, is that number. -/
theorem ownFactors_iff (policies : RetryPolicies) (steps : List RetryStep) :
    OwnFactors policies steps ↔
      ∀ front position rest, front ++ .attempt position :: rest = steps → ∀ task,
        (configuredTasks front)[position]? = some task →
        Unshared policies (configuredTasks front) task := by
  unfold OwnFactors
  constructor
  · intro own front position rest parts task found
    have holds := RetryState.holds_after policies front
    have made := own front position rest parts ⟨task, (policies.configureEvent task).1⟩ (by
      rw [holds.events, List.getElem?_map, found]
      rfl)
    exact (attempts_eq_promised_iff holds (List.mem_of_getElem? found)).mp made
  · intro unshared front position rest parts event found
    have holds := RetryState.holds_after policies front
    rw [holds.events, List.getElem?_map, Option.map_eq_some_iff] at found
    rcases found with ⟨task, there, rfl⟩
    exact (attempts_eq_promised_iff holds (List.mem_of_getElem? there)).mpr
      (unshared front position rest parts task there)

/-- An event class `A` that declares a policy object with three attempts. -/
def sharedPolicy : RetryPolicies where
  declared _ := .object 0
  maxRetries := 5
  maxAttempts _ := 3

/-- `A * 5` and then `A`. -/
def factorThenNone : List RetryStep :=
  [.configure { event := "A", extraConfig := { numberOfRetries := some 5 } }, .attempt 0,
    .configure { event := "A" }, .attempt 1]

/-- The second task gets the five attempts of the first. -/
theorem not_ownFactors_factorThenNone : ¬ OwnFactors sharedPolicy factorThenNone := by
  intro own
  have second := own (factorThenNone.take 3) 1 [] rfl ⟨{ event := "A" }, .shared 0⟩ rfl
  revert second
  decide

end EventPipeline
