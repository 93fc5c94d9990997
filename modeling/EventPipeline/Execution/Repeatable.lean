import EventPipeline.Execution.SharedRun
import EventPipeline.Execution.Unordered

/-! # Repeated runs

Runs of the instances of a pipeline class share the tasks and leave them alone. When what an
event does depends on its task only, and it is unambiguous in each context which event decides,
all runs dispatch the same sets of tasks in the same order.
-/

namespace EventPipeline

/-- Building or submitting an event raises, or it raises a request to switch. -/
inductive Refusal
  | raises
  | switches
deriving DecidableEq, Repr

def SubmissionFailure.refusal : SubmissionFailure → Refusal
  | .raised _ => .raises
  | .switchTask _ => .switches

structure Behaviour where
  outcome : TaskId → Outcome
  refuses : TaskId → Option Refusal
  policies : String → EventExecutionEvaluationState

/-- The events deliver what their tasks say. -/
structure Environment.Follows (env : Environment) (behaviour : Behaviour) : Prop where
  policies : env.policies = behaviour.policies
  outcome : ∀ id task, env.outcome id task = behaviour.outcome task

/-- The submission of a context fails as one of its tasks refuses. -/
def Environment.SubmitsGroup (env : Environment) (behaviour : Behaviour) (id : ContextId)
    (group : List TaskId) : Prop :=
  match env.submission id with
  | none => ∀ task ∈ group, behaviour.refuses task = none
  | some failure => ∃ task ∈ group, behaviour.refuses task = some failure.refusal

/-- The submissions that fail are those of contexts with a task that refuses. -/
def Environment.Submits (env : Environment) (behaviour : Behaviour)
    (groups : List (List TaskId)) : Prop :=
  ∀ (id : Nat) (group : List TaskId), groups[id]? = some group →
    env.SubmitsGroup behaviour id group

/-- In a context with these tasks it is unambiguous which event decides: those that refuse do
so in one way, and without any the futures agree. -/
structure Behaviour.Clear (behaviour : Behaviour) (heap : Heap) (group : List TaskId) :
    Prop where
  refusals : ∀ task ∈ group, ∀ other ∈ group, ∀ refusal another,
    behaviour.refuses task = some refusal → behaviour.refuses other = some another →
    refusal = another
  futures : (∀ task ∈ group, behaviour.refuses task = none) →
    Unambiguous heap { taskProfiles := group } (group.map behaviour.outcome)

/-- The same sets of tasks have been dispatched, and the same sinks are waiting. -/
structure RunState.Alike (first second : RunState) : Prop where
  groups : List.Forall₂ List.Perm first.groups second.groups
  sinkQueue : first.sinkQueue = second.sinkQueue

section Step

variable {env other : Environment} {heap : Heap} {behaviour : Behaviour} {id : ContextId}

theorem Environment.Follows.futures (follows : env.Follows behaviour) (profiles : List TaskId)
    (submitted : env.submission id = none) :
    env.futures id profiles = .ok ((env.doneOrder id profiles).map behaviour.outcome) := by
  have same : env.outcome id = behaviour.outcome := funext (follows.outcome id)
  rw [Environment.futures, submitted, same]

theorem Unambiguous.congr {first second : EventExecutionContext} {outcomes others : List Outcome}
    (unambiguous : Unambiguous heap first outcomes)
    (same : second.taskProfiles = first.taskProfiles) (permuted : others.Perm outcomes) :
    Unambiguous heap second others := by
  intro outcome member descriptor asks configured decided decidedMember
  exact unambiguous outcome (permuted.mem_iff.mp member) descriptor asks
    ((EventExecutionContext.configured_congr same descriptor).mp configured) decided
    (permuted.mem_iff.mp decidedMember)

theorem dispatch_alike (follows : env.Follows behaviour) (again : other.Follows behaviour)
    {tasks profiles others : List TaskId} {last : TaskId} (previous : Option ContextId)
    (permuted : profiles.Perm (tasks ++ [last])) (otherPermuted : others.Perm (tasks ++ [last]))
    (leads : ∀ task ∈ tasks,
      (heap.get? task).bind PipelineTask.onSuccessPipe = some .parallelism)
    (submits : env.SubmitsGroup behaviour id profiles)
    (submitsAgain : other.SubmitsGroup behaviour id others)
    (clear : behaviour.Clear heap profiles) :
    SameEnd
      (({ taskProfiles := profiles, previousContext := previous } :
        EventExecutionContext).dispatch heap (env.futures id profiles))
      (({ taskProfiles := others, previousContext := previous } :
        EventExecutionContext).dispatch heap (other.futures id others)) := by
  have alike : others.Perm profiles := otherPermuted.trans permuted.symm
  rw [Environment.SubmitsGroup] at submits submitsAgain
  cases refused : env.submission id with
  | some failure =>
      rw [refused] at submits
      rcases submits with ⟨task, member, refuses⟩
      cases otherRefused : other.submission id with
      | none =>
          rw [otherRefused] at submitsAgain
          rw [submitsAgain task (alike.mem_iff.mpr member)] at refuses
          cases refuses
      | some another =>
          rw [otherRefused] at submitsAgain
          rcases submitsAgain with ⟨second, secondMember, refusesAgain⟩
          have same := clear.refusals task member second (alike.mem_iff.mp secondMember) _ _
            refuses refusesAgain
          rw [Environment.futures_of_submission _ refused,
            Environment.futures_of_submission _ otherRefused]
          cases failure with
          | raised text =>
              cases another with
              | raised other => exact .of_stopped rfl rfl
              | switchTask descriptor => cases same
          | switchTask descriptor =>
              cases another with
              | raised other => cases same
              | switchTask other => exact ⟨rfl, fun _ => rfl, fun _ _ _ => rfl⟩
  | none =>
      rw [refused] at submits
      have otherSubmitted : other.submission id = none := by
        cases otherRefused : other.submission id with
        | none => rfl
        | some another =>
            rw [otherRefused] at submitsAgain
            rcases submitsAgain with ⟨second, secondMember, refusesAgain⟩
            rw [submits second (alike.mem_iff.mp secondMember)] at refusesAgain
            cases refusesAgain
      rw [follows.futures profiles refused, again.futures others otherSubmitted]
      have configured : ∀ descriptor, EventExecutionContext.Configured heap
          { taskProfiles := others, previousContext := previous } descriptor ↔
          EventExecutionContext.Configured heap
            { taskProfiles := profiles, previousContext := previous } descriptor := by
        intro descriptor
        have sameLast := @getLastTaskProfileInChain_perm heap tasks last leads
          { taskProfiles := profiles, previousContext := previous }
          { taskProfiles := others, previousContext := previous } permuted otherPermuted
        simp only [EventExecutionContext.Configured, sameLast]
      apply EventExecutionContext.sameEnd_of_perm configured rfl rfl
      · exact ((env.doneOrder_perm id profiles).trans
          (alike.symm.trans (other.doneOrder_perm id others).symm)).map behaviour.outcome
      · exact (clear.futures submits).congr rfl ((env.doneOrder_perm id profiles).map _)

theorem follow_of_refused {last : TaskId} {previous : Option ContextId}
    {context : EventExecutionContext} {switch : Option SwitchRequest}
    (refused : SwitchRequest.granted switch = none) :
    follow env heap last previous id context switch =
      follow env heap last previous id context none := by
  rcases switch with _ | ⟨descriptor, _ | _⟩
  · rfl
  · rfl
  · cases refused

theorem granted_eq_some {switch : Option SwitchRequest} {descriptor : Int}
    (granted : SwitchRequest.granted switch = some descriptor) :
    switch = some ⟨descriptor, true⟩ := by
  rcases switch with _ | ⟨asked, _ | _⟩
  · cases granted
  · cases granted
  · cases granted
    rfl

theorem follow_alike (policies : other.policies = env.policies) {last : TaskId}
    {previous : Option ContextId} {context second : EventExecutionContext}
    {switch switchAgain : Option SwitchRequest}
    (same : SameEnd (context, switch) (second, switchAgain))
    (sameLast : second.getLastTaskProfileInChain heap = context.getLastTaskProfileInChain heap) :
    follow other heap last previous id second switchAgain =
      follow env heap last previous id context switch := by
  cases stopped : context.state.isStopped with
  | true =>
      have otherStopped : second.state.isStopped = true := same.stopped.symm.trans stopped
      rw [follow, follow, stopped, otherStopped]
      rfl
  | false =>
      have otherRunning : second.state.isStopped = false := same.stopped.symm.trans stopped
      have sameSwitch : SwitchRequest.granted switch = SwitchRequest.granted switchAgain :=
        same.switch stopped
      cases granted : SwitchRequest.granted switch with
      | some descriptor =>
          rw [granted_eq_some granted, granted_eq_some (sameSwitch.symm.trans granted), follow,
            follow, stopped, otherRunning]
      | none =>
          rw [follow_of_refused granted, follow_of_refused (sameSwitch.symm.trans granted)]
          have failed : second.executionFailed heap other.policies =
              context.executionFailed heap env.policies := by
            have evaluation := same.evaluation stopped granted
            dsimp only at evaluation
            simp only [EventExecutionContext.executionFailed, stopped, otherRunning,
              EventExecutionContext.getExecutionStateEvaluator, sameLast, policies, evaluation]
          rw [follow, follow, stopped, otherRunning]
          simp only [failed]

end Step

theorem RunState.length_groups (state : RunState) : state.groups.length = state.contexts.size := by
  rw [RunState.groups, List.length_map]
  rfl

theorem RunState.Alike.size {first second : RunState} (alike : first.Alike second) :
    first.contexts.size = second.contexts.size := by
  rw [← first.length_groups, ← second.length_groups, alike.groups.length_eq]

theorem RunState.Alike.append {first second : RunState} (alike : first.Alike second) (heap : Heap)
    (task : TaskId) (previous : Option ContextId) {context other : EventExecutionContext}
    (permuted : context.taskProfiles.Perm other.taskProfiles) :
    (first.append heap task previous context).Alike
      (second.append heap task previous other) := by
  constructor
  · rw [RunState.groups_append, RunState.groups_append]
    exact List.rel_append alike.groups (.cons permuted .nil)
  · cases previous with
    | none => exact alike.sinkQueue
    | some previous =>
        simp only [RunState.append]
        rw [alike.sinkQueue]

theorem Environment.Submits.of_prefix {env : Environment} {behaviour : Behaviour}
    {groups all : List (List TaskId)} (submits : env.Submits behaviour all)
    (early : groups <+: all) : env.Submits behaviour groups := by
  rcases early with ⟨rest, rfl⟩
  intro id group found
  apply submits
  rcases List.getElem?_eq_some_iff.mp found with ⟨bound, -⟩
  rw [List.getElem?_append_left bound, found]

theorem Environment.Submits.concat {env : Environment} {behaviour : Behaviour} {run : RunState}
    {group : List TaskId} (submits : env.Submits behaviour (run.groups ++ [group])) :
    env.SubmitsGroup behaviour run.contexts.size group := by
  apply submits
  rw [← run.length_groups, List.getElem?_concat_length]

namespace Store

section Runs

variable {env other : Environment} {owner ownerAgain : InstanceId} {behaviour : Behaviour}

theorem groups_visit (env : Environment) (owner : InstanceId) (store : Store) (task : TaskId)
    (previous : Option ContextId) :
    (store.runs owner).groups <+: ((store.visit env owner task previous).2.runs owner).groups := by
  cases grouped : groupOf env store.heap task previous (store.runs owner).contexts.size with
  | error error =>
      exact ⟨[], by rw [visit_ungrouped grouped, List.append_nil]⟩
  | ok group =>
      rcases group with ⟨profiles, last⟩
      rw [(visit_grouped grouped rfl).2, RunState.groups_append]
      exact List.prefix_append _ _

theorem groups_executeTask (env : Environment) (owner : InstanceId) (fuel : Nat)
    (task : Option TaskId) (previous : Option ContextId) (store : Store) :
    (store.runs owner).groups <+:
      ((store.executeTask env owner fuel task previous).2.runs owner).groups := by
  induction fuel generalizing task previous store with
  | zero => exact List.prefix_refl _
  | succ fuel induction =>
      cases task with
      | some task =>
          have visited := groups_visit env owner store task previous
          rw [executeTask]
          rcases left : store.visit env owner task previous with
            ⟨error | _ | ⟨next, later⟩, after⟩ <;> rw [left] at visited
          · exact visited
          · exact visited
          · exact visited.trans (induction next later after)
      | none =>
          rw [executeTask]
          cases (store.runs owner).sinkQueue with
          | nil => exact List.prefix_refl _
          | cons sink queue =>
              have drained := induction (some sink) previous
                (store.setRun owner { store.runs owner with sinkQueue := queue })
              rw [runs_setRun] at drained
              rcases left : (store.setRun owner { store.runs owner with
                sinkQueue := queue }).executeTask env owner fuel (some sink) previous with
                ⟨error | done, after⟩ <;> simp only [left] at drained ⊢
              · exact drained
              · exact drained.trans (induction none previous after)

theorem groups_visit_executeTask (env : Environment) (owner : InstanceId) (fuel : Nat)
    (task : TaskId) (previous : Option ContextId) (store : Store) :
    ((store.visit env owner task previous).2.runs owner).groups <+:
      ((store.executeTask env owner (fuel + 1) (some task) previous).2.runs owner).groups := by
  rw [executeTask]
  rcases store.visit env owner task previous with ⟨error | _ | ⟨next, later⟩, after⟩
  · exact List.prefix_refl _
  · exact List.prefix_refl _
  · exact groups_executeTask env owner fuel next later after

theorem groups_sink_executeTask (env : Environment) (owner : InstanceId) (fuel : Nat)
    (previous : Option ContextId) (store : Store) {sink : TaskId} {queue : List TaskId}
    (waiting : (store.runs owner).sinkQueue = sink :: queue) :
    (((store.setRun owner { store.runs owner with sinkQueue := queue }).executeTask env owner
        fuel (some sink) previous).2.runs owner).groups <+:
      ((store.executeTask env owner (fuel + 1) none previous).2.runs owner).groups := by
  rw [executeTask, waiting]
  dsimp only
  rcases (store.setRun owner { store.runs owner with sinkQueue := queue }).executeTask env owner
    fuel (some sink) previous with ⟨error | done, after⟩
  · exact List.prefix_refl _
  · exact groups_executeTask env owner fuel none previous after

theorem visit_alike (follows : env.Follows behaviour) (again : other.Follows behaviour)
    {store storeAgain : Store} (sameHeap : store.heap = storeAgain.heap)
    (alike : (store.runs owner).Alike (storeAgain.runs ownerAgain)) (task : TaskId)
    (previous : Option ContextId)
    (submits : env.Submits behaviour
      ((store.visit env owner task previous).2.runs owner).groups)
    (submitsAgain : other.Submits behaviour
      ((storeAgain.visit other ownerAgain task previous).2.runs ownerAgain).groups)
    (clear : ∀ group ∈ ((store.visit env owner task previous).2.runs owner).groups,
      behaviour.Clear store.heap group) :
    (store.visit env owner task previous).1 =
        (storeAgain.visit other ownerAgain task previous).1 ∧
      ((store.visit env owner task previous).2.runs owner).Alike
        ((storeAgain.visit other ownerAgain task previous).2.runs ownerAgain) := by
  rcases groupOf_alike store.heap env other task previous (store.runs owner).contexts.size with
    ⟨error, failed, failedAgain⟩ |
      ⟨tasks, last, profiles, others, grouped, groupedAgain, permuted, otherPermuted, leads⟩
  · rw [sameHeap, alike.size] at failedAgain
    rw [visit_ungrouped failed, visit_ungrouped failedAgain]
    exact ⟨rfl, alike⟩
  · rcases dispatched : ({ taskProfiles := profiles, previousContext := previous } :
      EventExecutionContext).dispatch store.heap
        (env.futures (store.runs owner).contexts.size profiles) with ⟨context, switch⟩
    rcases dispatchedAgain : ({ taskProfiles := others, previousContext := previous } :
      EventExecutionContext).dispatch store.heap
        (other.futures (store.runs owner).contexts.size others) with ⟨second, switchAgain⟩
    have visited := visit_grouped grouped dispatched
    have profilesKept := EventExecutionContext.taskProfiles_of_dispatch dispatched
    have othersKept := EventExecutionContext.taskProfiles_of_dispatch dispatchedAgain
    dsimp only at profilesKept othersKept
    rw [sameHeap, alike.size] at groupedAgain dispatchedAgain
    have visitedAgain := visit_grouped groupedAgain dispatchedAgain
    rw [visited.2, RunState.groups_append, profilesKept] at submits clear
    rw [visitedAgain.2, RunState.groups_append, othersKept] at submitsAgain
    have submitted := submitsAgain.concat
    rw [← alike.size] at submitted
    have same := dispatch_alike follows again previous permuted otherPermuted leads
      submits.concat submitted (clear profiles (by simp))
    rw [← sameHeap, ← alike.size] at dispatchedAgain
    rw [dispatched, dispatchedAgain] at same
    have sameLast : second.getLastTaskProfileInChain store.heap =
        context.getLastTaskProfileInChain store.heap :=
      getLastTaskProfileInChain_perm leads (profilesKept ▸ permuted) (othersKept ▸ otherPermuted)
    rw [visited.1, visited.2, visitedAgain.1, visitedAgain.2, ← sameHeap, ← alike.size]
    refine ⟨?_, alike.append store.heap task previous ?_⟩
    · exact (follow_alike (again.policies.trans follows.policies.symm) same sameLast).symm
    · rw [profilesKept, othersKept]
      exact permuted.trans otherPermuted.symm

/-- Two calls of `execute_task` in runs that are alike, whose events behave in the same way. -/
structure Paired (env other : Environment) (owner ownerAgain : InstanceId)
    (behaviour : Behaviour) (fuel : Nat) (task : Option TaskId) (previous : Option ContextId)
    (store storeAgain : Store) : Prop where
  sameHeap : store.heap = storeAgain.heap
  alike : (store.runs owner).Alike (storeAgain.runs ownerAgain)
  submits : env.Submits behaviour
    ((store.executeTask env owner fuel task previous).2.runs owner).groups
  submitsAgain : other.Submits behaviour
    ((storeAgain.executeTask other ownerAgain fuel task previous).2.runs ownerAgain).groups
  clear : ∀ group ∈ ((store.executeTask env owner fuel task previous).2.runs owner).groups,
    behaviour.Clear store.heap group

/-- The two calls end in the same way, and their runs are alike again. -/
def EndAlike (env other : Environment) (owner ownerAgain : InstanceId) (fuel : Nat)
    (task : Option TaskId) (previous : Option ContextId) (store storeAgain : Store) : Prop :=
  (store.executeTask env owner fuel task previous).1 =
      (storeAgain.executeTask other ownerAgain fuel task previous).1 ∧
    ((store.executeTask env owner fuel task previous).2.runs owner).Alike
      ((storeAgain.executeTask other ownerAgain fuel task previous).2.runs ownerAgain)

theorem endAlike_task {fuel : Nat} {task : TaskId} {previous : Option ContextId}
    {store storeAgain : Store} (follows : env.Follows behaviour)
    (again : other.Follows behaviour)
    (paired : Paired env other owner ownerAgain behaviour (fuel + 1) (some task) previous store
      storeAgain)
    (nested : ∀ next later after afterAgain,
      Paired env other owner ownerAgain behaviour fuel next later after afterAgain →
      EndAlike env other owner ownerAgain fuel next later after afterAgain) :
    EndAlike env other owner ownerAgain (fuel + 1) (some task) previous store storeAgain := by
  rcases paired with ⟨sameHeap, alike, submits, submitsAgain, clear⟩
  have early := groups_visit_executeTask env owner fuel task previous store
  have earlyAgain := groups_visit_executeTask other ownerAgain fuel task previous storeAgain
  have visited := visit_alike follows again sameHeap alike task previous
    (submits.of_prefix early) (submitsAgain.of_prefix earlyAgain)
    fun group member => clear group (early.subset member)
  have stays := heap_visit env owner store task previous
  have staysAgain := heap_visit other ownerAgain storeAgain task previous
  simp only [EndAlike, executeTask] at submits submitsAgain clear ⊢
  rcases left : store.visit env owner task previous with ⟨flow, after⟩
  rcases right : storeAgain.visit other ownerAgain task previous with ⟨flowAgain, afterAgain⟩
  rw [left, right] at visited
  rw [left] at stays
  rw [right] at staysAgain
  have sameFlow : flow = flowAgain := visited.1
  subst sameFlow
  simp only [left, right] at submits submitsAgain clear ⊢
  rcases flow with error | _ | ⟨next, later⟩
  · exact ⟨rfl, visited.2⟩
  · exact ⟨rfl, visited.2⟩
  · apply nested next later after afterAgain
    have sameTasks : after.heap = store.heap := stays
    rw [← sameTasks] at clear
    exact ⟨stays.trans (sameHeap.trans staysAgain.symm), visited.2, submits, submitsAgain, clear⟩

theorem endAlike_sinks {fuel : Nat} {previous : Option ContextId} {store storeAgain : Store}
    (paired : Paired env other owner ownerAgain behaviour (fuel + 1) none previous store
      storeAgain)
    (nested : ∀ next later after afterAgain,
      Paired env other owner ownerAgain behaviour fuel next later after afterAgain →
      EndAlike env other owner ownerAgain fuel next later after afterAgain) :
    EndAlike env other owner ownerAgain (fuel + 1) none previous store storeAgain := by
  rcases paired with ⟨sameHeap, alike, submits, submitsAgain, clear⟩
  cases waiting : (store.runs owner).sinkQueue with
  | nil =>
      have waitingAgain := alike.sinkQueue.symm.trans waiting
      simp only [EndAlike, executeTask, waiting, waitingAgain]
      exact ⟨trivial, alike⟩
  | cons sink queue =>
      have waitingAgain := alike.sinkQueue.symm.trans waiting
      have early := groups_sink_executeTask env owner fuel previous store waiting
      have earlyAgain := groups_sink_executeTask other ownerAgain fuel previous storeAgain
        waitingAgain
      let popped := store.setRun owner { store.runs owner with sinkQueue := queue }
      let poppedAgain := storeAgain.setRun ownerAgain
        { storeAgain.runs ownerAgain with sinkQueue := queue }
      have poppedAlike : (popped.runs owner).Alike (poppedAgain.runs ownerAgain) := by
        rw [runs_setRun, runs_setRun]
        exact ⟨alike.groups, rfl⟩
      have drained := nested (some sink) previous popped poppedAgain
        ⟨sameHeap, poppedAlike, submits.of_prefix early, submitsAgain.of_prefix earlyAgain,
          fun group member => clear group (early.subset member)⟩
      have stays := heap_executeTask env owner popped fuel (some sink) previous
      have staysAgain := heap_executeTask other ownerAgain poppedAgain fuel (some sink) previous
      simp only [EndAlike, executeTask, waiting, waitingAgain] at submits submitsAgain clear ⊢
      rcases left : popped.executeTask env owner fuel (some sink) previous with ⟨result, after⟩
      rcases right : poppedAgain.executeTask other ownerAgain fuel (some sink) previous with
        ⟨resultAgain, afterAgain⟩
      rw [EndAlike, left, right] at drained
      rw [left] at stays
      rw [right] at staysAgain
      have sameResult : result = resultAgain := drained.1
      subst sameResult
      simp only [popped, poppedAgain] at left right
      simp only [left, right] at submits submitsAgain clear ⊢
      cases result with
      | error error => exact ⟨rfl, drained.2⟩
      | ok done =>
          apply nested none previous after afterAgain
          have sameTasks : after.heap = store.heap := stays
          rw [← sameTasks] at clear
          exact ⟨stays.trans (sameHeap.trans staysAgain.symm), drained.2, submits, submitsAgain,
            clear⟩

theorem Paired.endAlike {fuel : Nat} {task : Option TaskId} {previous : Option ContextId}
    {store storeAgain : Store} (follows : env.Follows behaviour)
    (again : other.Follows behaviour)
    (paired : Paired env other owner ownerAgain behaviour fuel task previous store storeAgain) :
    EndAlike env other owner ownerAgain fuel task previous store storeAgain := by
  induction fuel generalizing store storeAgain task previous with
  | zero => exact ⟨rfl, paired.alike⟩
  | succ fuel induction =>
      cases task with
      | some task => exact endAlike_task follows again paired fun _ _ _ _ => induction
      | none => exact endAlike_sinks paired fun _ _ _ _ => induction

end Runs

end Store

/-! ## Calls of `start` -/

structure StartCall where
  owner : InstanceId
  env : Environment
  forceRerun : Bool

namespace StartCall

def run (root : TaskId) (store : Store) (call : StartCall) : Except PyError Unit × Store :=
  store.start call.env call.owner root call.forceRerun

/-- The sets of tasks that the call has dispatched, in order. -/
def groups (root : TaskId) (store : Store) (call : StartCall) : List (List TaskId) :=
  ((call.run root store).2.runs call.owner).groups

/-- The call is not refused because the instance has run before. -/
def Executes (store : Store) (call : StartCall) : Prop :=
  (store.runs call.owner).executionContext = none ∨ call.forceRerun = true

/-- What the events do in this run is a function of their tasks. -/
structure Behaves (behaviour : Behaviour) (root : TaskId) (store : Store) (call : StartCall) :
    Prop where
  follows : call.env.Follows behaviour
  submits : call.env.Submits behaviour (call.groups root store)

theorem run_eq {root : TaskId} {store : Store} {call : StartCall} (executes : call.Executes store) :
    call.run root store = (store.setRun call.owner {}).executeTask call.env call.owner
      (recursionDepth store.heap) (some root) none := by
  rw [run, Store.start, if_neg]
  rcases executes with fresh | forced
  · simp [fresh]
  · simp [forced]

theorem groups_alike {behaviour : Behaviour} {root : TaskId} {store storeAgain : Store}
    {call again : StartCall} (sameHeap : store.heap = storeAgain.heap)
    (executes : call.Executes store) (executesAgain : again.Executes storeAgain)
    (behaves : call.Behaves behaviour root store)
    (behavesAgain : again.Behaves behaviour root storeAgain)
    (clear : ∀ group ∈ call.groups root store, behaviour.Clear store.heap group) :
    List.Forall₂ List.Perm (call.groups root store) (again.groups root storeAgain) := by
  have submits := behaves.submits
  have submitsAgain := behavesAgain.submits
  rw [groups, run_eq executes] at submits clear ⊢
  rw [groups, run_eq executesAgain, ← sameHeap] at submitsAgain ⊢
  have empty : ((store.setRun call.owner {}).runs call.owner).Alike
      ((storeAgain.setRun again.owner {}).runs again.owner) := by
    rw [Store.runs_setRun, Store.runs_setRun]
    exact ⟨.nil, rfl⟩
  have heaps : (store.setRun call.owner {}).heap = (storeAgain.setRun again.owner {}).heap :=
    sameHeap
  have paired : Store.Paired call.env again.env call.owner again.owner behaviour _ (some root)
      none (store.setRun call.owner {}) (storeAgain.setRun again.owner {}) :=
    ⟨heaps, empty, submits, submitsAgain, clear⟩
  exact (paired.endAlike behaves.follows behavesAgain.follows).2.groups

end StartCall

/-- The store after some calls, on any instances. A call that raises leaves a store too. -/
def Store.startAll (root : TaskId) (store : Store) (calls : List StartCall) : Store :=
  calls.foldl (fun store call => (call.run root store).2) store

theorem Store.heap_startAll (root : TaskId) (store : Store) (calls : List StartCall) :
    (store.startAll root calls).heap = store.heap := by
  induction calls generalizing store with
  | nil => rfl
  | cons call rest induction =>
      rw [startAll, List.foldl_cons, ← startAll, induction]
      exact heap_start call.env call.owner store root call.forceRerun

/-- After any calls, two further calls dispatch the same sets of tasks in the same order, when
what the events do is a function of their tasks and unambiguous. -/
def Repeatable (root : TaskId) (store : Store) : Prop :=
  ∀ (behaviour : Behaviour) (history other : List StartCall) (call again : StartCall),
    call.Executes (store.startAll root history) →
    again.Executes (store.startAll root other) →
    call.Behaves behaviour root (store.startAll root history) →
    again.Behaves behaviour root (store.startAll root other) →
    (∀ group ∈ call.groups root (store.startAll root history),
      behaviour.Clear store.heap group) →
    List.Forall₂ List.Perm (call.groups root (store.startAll root history))
      (again.groups root (store.startAll root other))

/-- The tasks of `S->A||B(2->C,3->D)`. -/
def switchGroupHeap : Heap := ⟨[
  { event := "S", onSuccessEvent := some 1, onSuccessPipe := some .pointer },
  { event := "A", parentNode := some 0, onSuccessEvent := some 2,
    onSuccessPipe := some .parallelism },
  { event := "B", parentNode := some 1,
    extraConfig := { descriptors := [(2, ⟨2, .pointer, 3⟩), (3, ⟨3, .pointer, 4⟩)] } },
  { event := "C", descriptor := some 2, descriptorPipe := some .pointer, parentNode := some 2 },
  { event := "D", descriptor := some 3, descriptorPipe := some .pointer, parentNode := some 2 }]⟩

def switchGroupPipeline : AcceptedPipeline :=
  ⟨.initial, "S->A||B(2->C,3->D)", 0, switchGroupHeap, rfl⟩

def switchGroupStore : Store where
  heap := switchGroupPipeline.heap
  policies := ⟨fun _ => .none, 0, fun _ => 0⟩

/-- `A` asks to switch to the descriptor 2, and `B` as given. -/
def switchingGroup (second : Outcome) : Behaviour where
  outcome task :=
    if task = 1 then .switched 2 ⟨1, false, "A", .none, some 1, none, none, none⟩
    else if task = 2 then second
    else Outcome.ofTask false task
  refuses _ := none
  policies _ := .successOnAllEventsSuccess

/-- Futures are iterated in the order of the tasks. -/
def inOrder (behaviour : Behaviour) : StartCall := ⟨0, .ofOutcomes behaviour.outcome, true⟩

/-- Futures are iterated in the opposite order. -/
def inReverse (behaviour : Behaviour) : StartCall where
  owner := 0
  env := { Environment.ofOutcomes behaviour.outcome with
    doneOrder := fun _ tasks => tasks.reverse
    doneOrder_perm := fun _ tasks => tasks.reverse_perm }
  forceRerun := true

theorem inOrder_behaves (second : Outcome) (root : TaskId) (store : Store) :
    (inOrder (switchingGroup second)).Behaves (switchingGroup second) root store := by
  refine ⟨⟨rfl, fun _ _ => rfl⟩, fun _ group _ => ?_⟩
  exact fun _ _ => rfl

theorem inReverse_behaves (second : Outcome) (root : TaskId) (store : Store) :
    (inReverse (switchingGroup second)).Behaves (switchingGroup second) root store := by
  refine ⟨⟨rfl, fun _ _ => rfl⟩, fun _ group _ => ?_⟩
  exact fun _ _ => rfl

/-- `B` asks to switch to the descriptor 3. -/
def disagreeing : Behaviour :=
  switchingGroup (.switched 3 ⟨2, false, "B", .none, some 2, none, none, none⟩)

end EventPipeline
