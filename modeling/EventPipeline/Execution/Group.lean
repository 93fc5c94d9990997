import EventPipeline.Execution.Dispatch
import EventPipeline.Execution.Machine
import EventPipeline.Task.Subtrees

/-! # Visits of stored trees

The parallel group that starts at the root of a tree, and what a visit of that
root does: which tasks its context has and which trees the run can go on with.
-/

namespace EventPipeline

/-! ## Parallel groups -/

mutual
def TaskTree.group : TaskTree → List TaskId
  | .node id _ _ _ success _ => id :: success.group

def Slot.group : Slot → List TaskId
  | .child .parallelism tree => tree.group
  | _ => []
end

mutual
def TaskTree.last : TaskTree → TaskTree
  | .node id label failure sink success customs =>
      success.last (.node id label failure sink success customs)

def Slot.last : Slot → TaskTree → TaskTree
  | .child .parallelism tree, _ => tree.last
  | _, tree => tree
end

theorem TaskTree.group_induction {motive : TaskTree → Prop}
    (single : ∀ tree, tree.success.pipe? ≠ some .parallelism →
      tree.group = [tree.id] → tree.last = tree → motive tree)
    (parallel : ∀ id label failure sink next customs, motive next →
      motive (.node id label failure sink (.child .parallelism next) customs)) :
    ∀ tree, motive tree
  | .node id label failure sink .vacant customs =>
      single _ (by simp [TaskTree.success, Slot.pipe?]) rfl rfl
  | .node id label failure sink (.child .parallelism next) customs =>
      parallel id label failure sink next customs (group_induction single parallel next)
  | .node id label failure sink (.child .pointer next) customs =>
      single _ (by simp [TaskTree.success, Slot.pipe?]) rfl rfl
  | .node id label failure sink (.child .pipePointer next) customs =>
      single _ (by simp [TaskTree.success, Slot.pipe?]) rfl rfl
  | .node id label failure sink (.child .retry next) customs =>
      single _ (by simp [TaskTree.success, Slot.pipe?]) rfl rfl

theorem TaskTree.group_eq (tree : TaskTree) :
    tree.group = tree.group.dropLast ++ [tree.last.id] := by
  induction tree using TaskTree.group_induction with
  | single tree _ group last => simp [group, last]
  | parallel id label failure sink next customs induction =>
      have nonempty : next.group ≠ [] := by
        rw [induction]
        simp
      simp only [TaskTree.group, Slot.group, TaskTree.last, Slot.last,
        List.dropLast_cons_of_ne_nil nonempty, List.cons_append]
      exact congrArg (List.cons id) induction

theorem TaskTree.group_ne_nil (tree : TaskTree) : tree.group ≠ [] := by
  rw [tree.group_eq]
  simp

theorem TaskTree.last_success (tree : TaskTree) :
    tree.last.success.pipe? ≠ some .parallelism := by
  induction tree using TaskTree.group_induction with
  | single tree other _ last => rwa [last]
  | parallel id label failure sink next customs induction => exact induction

theorem TaskTree.Stored.last {heap : Heap} {parent : Option TaskId} {tree : TaskTree}
    (stored : tree.Stored heap parent) : ∃ parent, tree.last.Stored heap parent := by
  induction tree using TaskTree.group_induction generalizing parent with
  | single tree _ _ last =>
      rw [last]
      exact ⟨parent, stored⟩
  | parallel id label failure sink next customs induction =>
      have below : next.Stored heap (some id) := stored.2.2.2.1
      exact induction below

@[simp] theorem TaskTree.record_onSuccessPipe (parent : Option TaskId) (tree : TaskTree) :
    (tree.record parent).onSuccessPipe = tree.success.pipe? := by
  cases tree
  rfl

@[simp] theorem TaskTree.record_onSuccessEvent (parent : Option TaskId) (tree : TaskTree) :
    (tree.record parent).onSuccessEvent = tree.success.id? := by
  cases tree
  rfl

@[simp] theorem TaskTree.record_onFailureEvent (parent : Option TaskId) (tree : TaskTree) :
    (tree.record parent).onFailureEvent = tree.failure.id? := by
  cases tree
  rfl

@[simp] theorem TaskTree.record_sinkNode (parent : Option TaskId) (tree : TaskTree) :
    (tree.record parent).sinkNode = tree.sink.id? := by
  cases tree
  rfl

theorem TaskTree.Stored.collectParallel_eq {heap : Heap} {tree : TaskTree} {fuel : Nat}
    {parent : Option TaskId} (stored : tree.Stored heap parent)
    (enough : tree.group.length ≤ fuel) :
    collectParallel heap fuel (some tree.id) =
      some (tree.group.dropLast, some tree.last.id) := by
  induction tree using TaskTree.group_induction generalizing parent fuel with
  | single tree other group last =>
      rw [group, last]
      rw [group] at enough
      cases fuel with
      | zero => simp at enough
      | succ fuel =>
          simp [collectParallel, stored.record_eq, other]
  | parallel id label failure sink next customs induction =>
      have below : next.Stored heap (some id) := stored.2.2.2.1
      cases fuel with
      | zero => simp [TaskTree.group] at enough
      | succ fuel =>
          simp only [TaskTree.group, Slot.group, List.length_cons] at enough
          have inner := induction below (Nat.le_of_succ_le_succ enough)
          rw [collectParallel, stored.record_eq]
          simp [TaskTree.record, Slot.pipe?, Slot.id?, inner, TaskTree.group, Slot.group,
            TaskTree.last, Slot.last, List.dropLast_cons_of_ne_nil next.group_ne_nil]
          rfl

theorem TaskTree.Stored.onSuccessPipe_of_mem {heap : Heap} {parent : Option TaskId}
    {tree : TaskTree} (stored : tree.Stored heap parent) {id : TaskId}
    (member : id ∈ tree.group.dropLast) :
    (heap.get? id).bind PipelineTask.onSuccessPipe = some .parallelism := by
  induction tree using TaskTree.group_induction generalizing parent with
  | single tree _ group _ => simp [group] at member
  | parallel root label failure sink next customs induction =>
      simp only [TaskTree.group, Slot.group, List.dropLast_cons_of_ne_nil next.group_ne_nil,
        List.mem_cons] at member
      rcases member with rfl | member
      · simp [stored.1, TaskTree.record, Slot.pipe?]
      · have below : next.Stored heap (some root) := stored.2.2.2.1
        exact induction below member

theorem TaskTree.last_eq_self {tree : TaskTree} (alone : tree.group.dropLast = []) :
    tree.last = tree := by
  induction tree using TaskTree.group_induction with
  | single tree _ _ last => exact last
  | parallel id label failure sink next customs _ =>
      simp [TaskTree.group, Slot.group,
        List.dropLast_cons_of_ne_nil next.group_ne_nil] at alone

theorem TaskTree.Stored.pointer_last {heap : Heap} {parent : Option TaskId} {tree : TaskTree}
    (stored : tree.Stored heap parent) (several : tree.group.dropLast ≠ []) :
    heap.getPointerTypeToThisEvent tree.last.id = some (.pipe .parallelism) := by
  induction tree using TaskTree.group_induction generalizing parent with
  | single tree _ group _ => simp [group] at several
  | parallel id label failure sink next customs induction =>
      have below : next.Stored heap (some id) := stored.2.2.2.1
      by_cases alone : next.group.dropLast = []
      · simp only [TaskTree.last, Slot.last, TaskTree.last_eq_self alone]
        exact pointer_success stored.1 below.record_eq (next.record_parentNode _) rfl rfl
      · exact induction below alone

theorem TaskTree.Proper.last {tree : TaskTree} (proper : tree.Proper) : tree.last.Proper := by
  induction tree using TaskTree.group_induction with
  | single tree _ _ last => rwa [last]
  | parallel id label failure sink next customs induction =>
      have below : next.Proper := proper.2.2.2.1
      exact induction below

theorem TaskTree.Stored.getLastTaskProfileInChain_eq {heap : Heap} {parent : Option TaskId}
    {tree : TaskTree} (stored : tree.Stored heap parent) {context : EventExecutionContext}
    (perm : context.taskProfiles.Perm tree.group) :
    context.getLastTaskProfileInChain heap = some tree.last.id := by
  rw [tree.group_eq] at perm
  rcases profiles : context.taskProfiles with _ | ⟨first, _ | ⟨second, rest⟩⟩
  · rw [profiles] at perm
    simp at perm
  · rw [profiles] at perm
    have same := List.singleton_perm.mp perm
    have alone : tree.group.dropLast = [] := by
      cases shape : tree.group.dropLast with
      | nil => rfl
      | cons head tail => simp [shape] at same
    rw [alone, List.nil_append, List.cons.injEq] at same
    simp [EventExecutionContext.getLastTaskProfileInChain, profiles, same.1]
  · simp only [EventExecutionContext.getLastTaskProfileInChain, profiles]
    rw [profiles] at perm
    have several : tree.group.dropLast ≠ [] := by
      intro alone
      simpa [alone] using perm.length_eq
    rcases stored.last with ⟨above, lastStored⟩
    have pipe : (heap.get? tree.last.id).bind PipelineTask.onSuccessPipe ≠
        some .parallelism := by
      rw [lastStored.record_eq, Option.bind_some, TaskTree.record_onSuccessPipe]
      exact tree.last_success
    rcases found : (first :: second :: rest).find? fun profile =>
        heap.getPointerTypeToThisEvent profile = some (.pipe .parallelism) ∧
          (heap.get? profile).bind PipelineTask.onSuccessPipe ≠ some .parallelism
      with _ | profile
    · have refused := List.find?_eq_none.mp found tree.last.id (perm.mem_iff.mpr (by simp))
      simp [stored.pointer_last several, pipe] at refused
    · have accepted := List.find?_some found
      have member := perm.mem_iff.mp (List.mem_of_find?_eq_some found)
      simp only [decide_eq_true_eq] at accepted
      rcases List.mem_append.mp member with earlier | latest
      · exact absurd (stored.onSuccessPipe_of_mem earlier) accepted.2
      · rw [List.mem_singleton.mp latest]

/-! ## Visits -/

/-- The tasks of the context that a visit makes: without a previous context the
visited task is alone. -/
def TaskTree.members (tree : TaskTree) : Option ContextId → List TaskId
  | none => [tree.id]
  | some _ => tree.group

/-- The tree that the run goes on from. -/
def TaskTree.turn (tree : TaskTree) : Option ContextId → TaskTree
  | none => tree
  | some _ => tree.last

/-- What a run goes on with after a task that has failed or not. -/
def TaskTree.branch (tree : TaskTree) (failed : Bool) : Slot :=
  if tree.isConditional && failed then tree.failure else tree.success

theorem TaskTree.Stored.turn {heap : Heap} {parent : Option TaskId} {tree : TaskTree}
    (stored : tree.Stored heap parent) (previous : Option ContextId) :
    ∃ parent, (tree.turn previous).Stored heap parent := by
  cases previous with
  | none => exact ⟨parent, stored⟩
  | some _ => exact stored.last

theorem TaskTree.Proper.turn {tree : TaskTree} (proper : tree.Proper)
    (previous : Option ContextId) : (tree.turn previous).Proper := by
  cases previous with
  | none => exact proper
  | some _ => exact proper.last

theorem groupOf_stored (env : Environment) {heap : Heap} {parent : Option TaskId}
    {tree : TaskTree} (stored : tree.Stored heap parent)
    (enough : tree.group.length ≤ heap.size + 1) (previous : Option ContextId)
    (id : ContextId) :
    ∃ profiles, groupOf env heap tree.id previous id = .ok (profiles, (tree.turn previous).id) ∧
      profiles.Perm (tree.members previous) ∧
      ∀ context : EventExecutionContext, context.taskProfiles = profiles →
        context.getLastTaskProfileInChain heap = some (tree.turn previous).id := by
  cases previous with
  | none =>
      refine ⟨[tree.id], rfl, .refl _, fun context same => ?_⟩
      simp [EventExecutionContext.getLastTaskProfileInChain, same, TaskTree.turn]
  | some previous =>
      have whole := tree.group_eq
      have collected := stored.collectParallel_eq enough
      rcases earlier : tree.group.dropLast with _ | ⟨first, rest⟩
      · rw [earlier] at collected whole
        refine ⟨[tree.last.id], by simp [groupOf, collected, TaskTree.turn], ?_, ?_⟩
        · rw [TaskTree.members, whole]
          rfl
        · intro context same
          simp [EventExecutionContext.getLastTaskProfileInChain, same, TaskTree.turn]
      · rw [earlier] at collected whole
        refine ⟨env.setOrder id tree.group, ?_, env.setOrder_perm _ _, fun context same => ?_⟩
        · simp only [groupOf, collected, TaskTree.turn, whole]
        · exact stored.getLastTaskProfileInChain_eq (same ▸ env.setOrder_perm _ _)

theorem Customs.get_configs {customs : Customs} {descriptor : Nat} {config : DescriptorConfig}
    (proper : customs.Proper)
    (found : OrderedDict.get descriptor customs.configs = some config) :
    1 < descriptor ∧ ∃ tree ∈ customs.trees, config.task = tree.id := by
  match customs with
  | .nil => cases found
  | .cons key pipe tree rest =>
      simp only [Customs.configs, OrderedDict.get] at found
      split at found
      · cases found
        rename_i same
        exact ⟨same ▸ proper.1, tree, List.mem_cons_self, rfl⟩
      · rcases Customs.get_configs proper.2.2 found with ⟨large, other, member, same⟩
        exact ⟨large, other, List.mem_cons_of_mem _ member, same⟩

theorem TaskTree.Proper.getDescriptor_eq {tree : TaskTree} (proper : tree.Proper)
    {parent : Option TaskId} {descriptor : Int} {config : DescriptorConfig}
    (configured : descriptor.toNat?.bind
      (tree.record parent).extraConfig.getDescriptorConfig = some config) :
    ∃ target ∈ tree.customs.trees,
      descriptor.toNat?.bind (tree.record parent).getDescriptor = some target.id := by
  rcases tree with ⟨id, label, failure, sink, success, customs⟩
  rcases number : descriptor.toNat? with _ | value
  · rw [number] at configured
    cases configured
  · rw [number, Option.bind_some] at configured
    rcases Customs.get_configs proper.2.2.2.2 configured with ⟨large, target, member, same⟩
    refine ⟨target, member, ?_⟩
    have notZero : value ≠ 0 := by omega
    have notOne : value ≠ 1 := by omega
    simp only [Option.bind_some, PipelineTask.getDescriptor, notZero, notOne, if_false,
      configured, Option.map_some, same]

/-- The run goes on behind the context: it has finished, or a switch was raised while its events
were submitted, which is not followed. -/
def EventExecutionContext.Passed (env : Environment) (id : ContextId)
    (context : EventExecutionContext) : Prop :=
  context.state = .finished ∨
    context.state = .executing ∧ context.executionResult = [] ∧
      ∃ descriptor, env.submission id = some (.switchTask descriptor)

theorem EventExecutionContext.Passed.running {env : Environment} {id : ContextId}
    {context : EventExecutionContext} (passed : context.Passed env id) :
    context.state.isStopped = false := by
  rcases passed with finished | ⟨executing, -⟩
  · rw [finished]
    rfl
  · rw [executing]
    rfl

/-- How a run goes on from a tree whose context has been dispatched: with which
call, and with which tree. -/
inductive Onward (env : Environment) (heap : Heap) (tree : TaskTree)
    (previous : Option ContextId) (id : ContextId) (context : EventExecutionContext) :
    Flow → Option TaskTree → Prop
  | stop : context.state.isStopped = true →
      Onward env heap tree previous id context .finish none
  | branch {failed} : context.Passed env id →
      context.executionFailed heap env.policies = .ok failed →
      Onward env heap tree previous id context (.call (tree.branch failed).id? (some id))
        (tree.branch failed).tree?
  | switch {target} : context.state = .executing → env.submission id = none →
      target ∈ tree.customs.trees →
      Onward env heap tree previous id context (.call (some target.id) previous)
        (some target)

theorem executionFailed_of_last {env : Environment} {heap : Heap} {last : TaskId}
    {task : PipelineTask} {context : EventExecutionContext}
    (running : context.state.isStopped = false)
    (profile : context.getLastTaskProfileInChain heap = some last)
    (found : heap.get? last = some task) :
    ∃ failed, context.executionFailed heap env.policies = .ok failed := by
  refine ⟨(env.policies task.event).contextEvaluation context.executionResult context.errors
    .failure, ?_⟩
  simp only [EventExecutionContext.executionFailed, running, Bool.false_eq_true, if_false,
    EventExecutionContext.getExecutionStateEvaluator, profile, Option.bind_some, found,
    Option.map_some]

structure Visited (env : Environment) (heap : Heap) (tree : TaskTree)
    (previous : Option ContextId) (id : ContextId) (context : EventExecutionContext)
    (flow : Flow) (next : Option TaskTree) : Prop where
  dispatched : ∃ last switch,
    dispatchTask env heap tree.id previous id = .ok (last, context, switch)
  members : context.taskProfiles.Perm (tree.members previous)
  previousContext : context.previousContext = previous
  nextContext : context.nextContext = none
  onward : Onward env heap (tree.turn previous) previous id context flow next

theorem dispatchTask_eq_ok {env : Environment} {heap : Heap} {task last : TaskId}
    {previous : Option ContextId} {id : ContextId} {context : EventExecutionContext}
    {switch : Option SwitchRequest}
    (made : dispatchTask env heap task previous id = .ok (last, context, switch)) :
    ∃ profiles, groupOf env heap task previous id = .ok (profiles, last) ∧
      ({ taskProfiles := profiles, previousContext := previous } :
        EventExecutionContext).dispatch heap (env.futures id profiles) = (context, switch) ∧
      context.taskProfiles = profiles := by
  rcases grouped : groupOf env heap task previous id with error | ⟨profiles, final⟩
  · simp [dispatchTask, grouped, bind, Except.bind] at made
  · simp only [dispatchTask, grouped, bind, Except.bind, pure, Except.pure, Except.ok.injEq,
      Prod.mk.injEq] at made
    rcases made with ⟨rfl, same⟩
    exact ⟨profiles, rfl, same, EventExecutionContext.taskProfiles_of_dispatch same⟩

theorem visit_stored (env : Environment) {heap : Heap} {parent : Option TaskId}
    {tree : TaskTree} (stored : tree.Stored heap parent) (proper : tree.Proper)
    (enough : tree.group.length ≤ heap.size + 1) (previous : Option ContextId)
    (state : RunState) :
    ∃ context flow next,
      visit env heap tree.id previous state =
        .ok (flow, state.append heap tree.id previous context) ∧
      Visited env heap tree previous state.contexts.size context flow next := by
  rcases groupOf_stored env stored enough previous state.contexts.size with
    ⟨profiles, grouped, perm, last⟩
  rcases stored.turn previous with ⟨above, turnStored⟩
  have found := turnStored.record_eq
  rcases dispatched : ({ taskProfiles := profiles, previousContext := previous } :
    EventExecutionContext).dispatch heap (env.futures state.contexts.size profiles) with
    ⟨context, switch⟩
  have cases := EventExecutionContext.dispatch_cases heap
    (env.futures state.contexts.size profiles)
    { taskProfiles := profiles, previousContext := previous }
  rw [dispatched] at cases
  rcases cases with ⟨place, ended⟩
  have profile := last context place.taskProfiles
  have made : dispatchTask env heap tree.id previous state.contexts.size =
      .ok ((tree.turn previous).id, context, switch) := by
    simp [dispatchTask, grouped, dispatched, bind, Except.bind, pure, Except.pure]
  have spec : ∀ {flow next}, follow env heap (tree.turn previous).id previous
      state.contexts.size context switch = .ok flow →
      Onward env heap (tree.turn previous) previous state.contexts.size context flow next →
      ∃ context flow next,
        visit env heap tree.id previous state =
          .ok (flow, state.append heap tree.id previous context) ∧
        Visited env heap tree previous state.contexts.size context flow next := by
    intro flow next followed onward
    refine ⟨context, flow, next, ?_, ⟨_, _, made⟩, ?_, place.previousContext,
      place.nextContext, onward⟩
    · simp [visit, made, followed, bind, Except.bind, pure, Except.pure]
    · rw [place.taskProfiles]
      exact perm
  cases ended with
  | stopped stopped =>
      refine spec ?_ (.stop stopped)
      simp [follow, stopped]
  | finished finished =>
      have passed : context.Passed env state.contexts.size := .inl finished
      rcases @executionFailed_of_last env _ _ _ _ passed.running profile found with
        ⟨failed, evaluated⟩
      refine spec ?_ (.branch passed evaluated)
      simp only [follow, passed.running, Bool.false_eq_true, if_false, found,
        TaskTree.record_isConditional, evaluated, TaskTree.record_onFailureEvent,
        TaskTree.record_onSuccessEvent, TaskTree.branch]
      cases (tree.turn previous).isConditional <;> cases failed <;> rfl
  | @unsubmitted descriptor refused left =>
      have left : context =
          { taskProfiles := profiles, previousContext := previous, state := .executing } := left
      have passed : context.Passed env state.contexts.size := by
        rw [left]
        exact .inr ⟨rfl, rfl, descriptor, env.submission_of_error refused⟩
      rcases @executionFailed_of_last env _ _ _ _ passed.running profile found with
        ⟨failed, evaluated⟩
      refine spec ?_ (.branch passed evaluated)
      simp only [follow, passed.running, Bool.false_eq_true, if_false, found,
        TaskTree.record_isConditional, evaluated, TaskTree.record_onFailureEvent,
        TaskTree.record_onSuccessEvent, TaskTree.branch]
      cases (tree.turn previous).isConditional <;> cases failed <;> rfl
  | @switching outcomes descriptor submitted executing configured =>
      have running : context.state.isStopped = false := by
        rw [executing]
        rfl
      rcases configured with ⟨other, task, config, otherProfile, otherFound, configured⟩
      rw [last _ rfl, Option.some_inj] at otherProfile
      subst otherProfile
      rw [found, Option.some_inj] at otherFound
      subst otherFound
      rcases (proper.turn previous).getDescriptor_eq configured with ⟨target, member, leads⟩
      refine spec ?_ (.switch executing (env.submission_of_ok submitted) member)
      simp [follow, running, found, leads]

end EventPipeline
