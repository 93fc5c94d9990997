import EventPipeline.Execution.Trace

/-! # Quiet runs

A run in which no context stops and no event asks to switch dispatches the trace
of its tree.
-/

namespace EventPipeline

open Procedure

/-- No context of a run is cancelled or aborted, and no event asks to switch. -/
structure Quiet (env : Environment) (final : RunState) : Prop where
  running : ∀ id context, final.contexts.get? id = some context →
    context.state.isStopped = false
  straight : ∀ id context task, final.contexts.get? id = some context →
    task ∈ context.taskProfiles → (env.outcome id task).asksToSwitch = false

@[simp] theorem Outcome.asksToSwitch_ofTask (error : Bool) (task : TaskId) :
    (Outcome.ofTask error task).asksToSwitch = false := by
  cases error <;> rfl

theorem quiet_of_all {outcome : TaskId → Outcome} {final : RunState}
    (straight : ∀ task, (outcome task).asksToSwitch = false)
    (running : final.contexts.cells.all (fun context => !context.state.isStopped) = true) :
    Quiet (.ofOutcomes outcome) final := by
  refine ⟨fun id context found => ?_, fun id context task found member => straight task⟩
  have runs := List.all_eq_true.mp running context (List.mem_of_getElem? found)
  simpa using runs

/-- What the run after a context depends on. -/
structure Report where
  state : ExecutionState
  tasks : List TaskId
  failed : Except PyError Bool

def EventExecutionContext.report (env : Environment) (heap : Heap)
    (context : EventExecutionContext) : Report :=
  ⟨context.state, context.taskProfiles, context.executionFailed heap env.policies⟩

def RunState.reports (env : Environment) (heap : Heap) (state : RunState) : List Report :=
  state.contexts.cells.map (EventExecutionContext.report env heap)

def RunState.failed (env : Environment) (heap : Heap) (state : RunState) (task : TaskId) :
    Bool :=
  match (state.reports env heap).find? fun report => task ∈ report.tasks with
  | some ⟨_, _, .ok failed⟩ => failed
  | _ => false

/-- The context with this report has not stopped, none of its events asks to switch, and
`failed` tells of its tasks whether they have failed. -/
structure Report.Settled (env : Environment) (failed : TaskId → Bool) (id : ContextId)
    (report : Report) : Prop where
  running : report.state.isStopped = false
  straight : ∀ task ∈ report.tasks, (env.outcome id task).asksToSwitch = false
  evaluated : ∀ task ∈ report.tasks, report.failed = .ok (failed task)

def Settled (env : Environment) (failed : TaskId → Bool) (reports : List Report) : Prop :=
  ∀ (id : Nat) (report : Report), reports[id]? = some report → report.Settled env failed id

theorem Settled.of_append {env : Environment} {failed : TaskId → Bool} {reports : List Report}
    {report : Report} (settled : Settled env failed (reports ++ [report])) :
    Settled env failed reports ∧ report.Settled env failed reports.length := by
  refine ⟨fun id other found => settled id other ?_, settled _ report ?_⟩
  · rw [List.getElem?_append_left (List.getElem?_eq_some_iff.mp found).choose]
    exact found
  · rw [List.getElem?_concat_length]

section Reports

variable {env : Environment} {heap : Heap}

@[simp] theorem RunState.reports_append (state : RunState) (other : Heap) (task : TaskId)
    (previous : Option ContextId) (context : EventExecutionContext) :
    (state.append other task previous context).reports env heap =
      state.reports env heap ++ [context.report env heap] :=
  RunState.map_append (fun _ _ => rfl) state other task previous context

theorem RunState.map_tasks_reports (state : RunState) :
    (state.reports env heap).map Report.tasks = state.groups := by
  simp [RunState.reports, RunState.groups, EventExecutionContext.report]

theorem RunState.reports_getElem? (state : RunState) (id : ContextId) :
    (state.reports env heap)[id]? =
      (state.contexts.get? id).map (EventExecutionContext.report env heap) := by
  simp [RunState.reports, Arena.get?]

theorem RunState.length_reports (state : RunState) :
    (state.reports env heap).length = state.contexts.size := by
  simp [RunState.reports, Arena.size]

theorem dispatchTask_asks {task last : TaskId} {previous : Option ContextId} {id : ContextId}
    {context : EventExecutionContext} {switch : Option SwitchRequest}
    (made : dispatchTask env heap task previous id = .ok (last, context, switch))
    (executing : context.state = .executing) (submitted : env.submission id = none) :
    ∃ member ∈ context.taskProfiles, (env.outcome id member).asksToSwitch = true := by
  rcases dispatchTask_eq_ok made with ⟨profiles, grouped, same, place⟩
  by_contra quiet
  push Not at quiet
  refine @EventExecutionContext.dispatch_state_ne_executing heap (env.futures id profiles)
    (fun descriptor refused => ?_) (fun outcomes submitted outcome member => ?_)
    { taskProfiles := profiles, previousContext := previous } ?_
  · rw [env.submission_of_error refused] at submitted
    cases submitted
  · rw [env.futures_eq_ok submitted] at member
    rcases List.mem_map.mp member with ⟨asked, inside, rfl⟩
    have profile := (env.doneOrder_perm id profiles).mem_iff.mp inside
    simpa using quiet asked (place ▸ profile)
  · rw [same]
    exact executing

/-- A context has stopped, or one of its events asks to switch, or the run goes on behind it. -/
def Report.Decided (report : Report) (env : Environment) (id : ContextId) : Prop :=
  report.state.isStopped = true ∨
    (∃ task ∈ report.tasks, (env.outcome id task).asksToSwitch = true) ∨
    ∃ failed, report.failed = .ok failed

theorem Visited.decided {tree : TaskTree} {previous : Option ContextId} {id : ContextId}
    {context : EventExecutionContext} {flow : Flow} {next : Option TaskTree}
    (visited : Visited env heap tree previous id context flow next) :
    (context.report env heap).Decided env id := by
  cases visited.onward with
  | stop stopped => exact .inl stopped
  | branch _ evaluated => exact .inr (.inr ⟨_, evaluated⟩)
  | switch executing submitted _ =>
      rcases visited.dispatched with ⟨last, switch, made⟩
      exact .inr (.inl (dispatchTask_asks made executing submitted))

theorem decided_of_visits {root : TaskTree} {config : RunConfig} (rooted : Rooted heap root)
    (nodup : root.ids.Nodup) (visited : Visits env heap root.id config) (id : ContextId)
    (report : Report) (found : (config.state.reports env heap)[id]? = some report) :
    report.Decided env id := by
  have held := @visits_forest env heap root (fun config _ _ => ∀ id (report : Report),
    (config.state.reports env heap)[(id : Nat)]? = some report → report.Decided env id) rooted nodup
    ?_ ?_ config visited
  · rcases held with ⟨_, _, _, decided⟩
    exact decided id report found
  · intro id report found
    simp [initialConfig, RunState.reports, Arena.empty] at found
  · intro before current queue after next later _ _ held step
    cases step with
    | @visit tree previous waiting state queue context flow next visited =>
        intro id report found
        rw [RunState.reports_append, List.getElem?_append] at found
        split at found
        · exact held id report found
        · rename_i beyond
          rw [List.getElem?_singleton] at found
          split at found
          · rename_i latest
            cases found
            rw [state.length_reports] at beyond latest
            obtain rfl : id = state.contexts.size := by omega
            exact visited.decided
          · cases found
    | drained => exact held
    | drain => exact held
    | resume => exact held

theorem find?_tasks {reports : List Report} {report : Report} {task : TaskId}
    (nodup : (reports.map Report.tasks).flatten.Nodup) (member : report ∈ reports)
    (inside : task ∈ report.tasks) :
    reports.find? (fun report => task ∈ report.tasks) = some report := by
  induction reports with
  | nil => cases member
  | cons first rest induction =>
      rw [List.map_cons, List.flatten_cons, List.nodup_append] at nodup
      rcases List.mem_cons.mp member with rfl | later
      · simp [inside]
      · have elsewhere : task ∉ first.tasks := fun here =>
          nodup.2.2 task here task
            (List.mem_flatten_of_mem (List.mem_map_of_mem later) inside) rfl
        simp only [List.find?_cons, elsewhere, decide_false]
        exact induction nodup.2.1 later

theorem Quiet.settled {root : TaskTree} {final : RunState} (quiet : Quiet env final)
    (rooted : Rooted heap root) (nodup : root.ids.Nodup)
    (ended : Visits env heap root.id ⟨none, [], final⟩) :
    Settled env (final.failed env heap) (final.reports env heap) := by
  intro id report placed
  have decided := decided_of_visits rooted nodup ended id report placed
  have member := List.mem_of_getElem? placed
  rw [RunState.reports_getElem?, Option.map_eq_some_iff] at placed
  rcases placed with ⟨context, found, rfl⟩
  have running := quiet.running id context found
  have straight := fun task => quiet.straight id context task found
  refine ⟨running, straight, fun task inside => ?_⟩
  rcases decided with stopped | ⟨task, inside, asks⟩ | ⟨failed, evaluated⟩
  · rw [EventExecutionContext.report, running] at stopped
    cases stopped
  · rw [straight task inside] at asks
    cases asks
  · have once : ((final.reports env heap).map Report.tasks).flatten.Nodup := by
      rw [RunState.map_tasks_reports]
      exact nodup_of_subperm (dispatched_subperm rooted nodup ended) nodup
    have same := find?_tasks once member inside
    rw [RunState.failed, same]
    rcases shape : context.report env heap with ⟨kind, tasks, evaluation⟩
    rw [shape] at evaluated
    simp only at evaluated
    simp [evaluated]

end Reports

/-! ## Quiet runs follow the trace -/

/-- What is dispatched from a configuration on. -/
def upcoming (failed : TaskId → Bool) (config : RunConfig) (current : Option TaskTree)
    (queue : List TaskTree) : List (List TaskId) :=
  (current.elim [] fun tree =>
    tree.entered failed (config.control.bind Call.previousContext)) ++
    queue.flatMap (TaskTree.trace failed)

/-- The groups so far and the upcoming ones make up the trace, as long as the run is
quiet. A run that has nothing more to call has no sink left. -/
def OnTrace (env : Environment) (heap : Heap) (failed : TaskId → Bool)
    (trace : List (List TaskId)) (config : RunConfig) (current : Option TaskTree)
    (queue : List TaskTree) : Prop :=
  Settled env failed (config.state.reports env heap) →
    (∃ done, List.Forall₂ List.Perm config.state.groups done ∧
      done ++ upcoming failed config current queue = trace) ∧
    (config.control = none → queue = [])

theorem upcoming_of_previous {failed : TaskId → Bool} {config : RunConfig}
    {current : Option TaskTree} {queue : List TaskTree} {previous : ContextId}
    (follows : config.control.bind Call.previousContext = some previous) :
    upcoming failed config current queue =
      (current.toList ++ queue).flatMap (TaskTree.trace failed) := by
  cases current with
  | none => rfl
  | some tree =>
      simp only [upcoming, follows, Option.elim_some, ← tree.trace_eq_entered,
        Option.toList_some, List.singleton_append, List.flatMap_cons]

theorem TaskTree.turn_id_mem_members (tree : TaskTree) (previous : Option ContextId) :
    (tree.turn previous).id ∈ tree.members previous := by
  cases previous with
  | none => exact List.mem_singleton_self _
  | some previous =>
      rw [TaskTree.members, tree.group_eq]
      simp [TaskTree.turn]

section Steps

variable {env : Environment} {heap : Heap} {failed : TaskId → Bool}
  {trace : List (List TaskId)} {before after : RunConfig} {current next : Option TaskTree}
  {queue later : List TaskTree}

theorem Visited.settled {tree : TaskTree} {previous : Option ContextId} {id : ContextId}
    {context : EventExecutionContext} {flow : Flow}
    (visited : Visited env heap tree previous id context flow next)
    (settled : (context.report env heap).Settled env failed id) :
    ∃ task, flow = .call task (some id) ∧
      next = ((tree.turn previous).branch (failed (tree.turn previous).id)).tree? := by
  cases visited.onward with
  | stop stopped =>
      have running : context.state.isStopped = false := settled.running
      rw [running] at stopped
      cases stopped
  | branch _ evaluated =>
      have evaluation := settled.evaluated _
        (visited.members.mem_iff.mpr (tree.turn_id_mem_members previous))
      rw [EventExecutionContext.report, evaluated, Except.ok.injEq] at evaluation
      subst evaluation
      exact ⟨_, rfl, rfl⟩
  | switch executing submitted _ =>
      rcases visited.dispatched with ⟨last, switch, made⟩
      rcases dispatchTask_asks made executing submitted with ⟨task, inside, asks⟩
      rw [settled.straight task inside] at asks
      cases asks

theorem OnTrace.step (follows : OnTrace env heap failed trace before current queue)
    (loops : ∀ call ∈ before.control.toList ++ before.waiting, call.task = none →
      call.previousContext ≠ none)
    (step : ForestStep env heap before current queue after next later) :
    OnTrace env heap failed trace after next later := by
  intro settled
  cases step with
  | @visit tree previous waiting state queue context flow next visited =>
      rw [RunState.reports_append] at settled
      rcases settled.of_append with ⟨earlier, latest⟩
      rw [state.length_reports] at latest
      rcases follows earlier with ⟨⟨done, groups, whole⟩, _⟩
      rcases visited.settled latest with ⟨task, rfl, rfl⟩
      refine ⟨⟨done ++ [tree.members previous], ?_, ?_⟩, by simp [Flow.call?]⟩
      · rw [RunState.groups_append]
        exact List.rel_append groups (.cons visited.members .nil)
      · rw [← whole, List.append_assoc]
        apply congrArg (done ++ ·)
        rw [upcoming_of_previous (by rfl)]
        simp only [upcoming, Option.bind_some, Option.elim_some, TaskTree.entered_eq,
          TaskTree.onward, List.flatMap_append, List.cons_append, List.nil_append,
          List.append_assoc]
  | drained empty =>
      rcases follows settled with ⟨held, _⟩
      exact ⟨held, fun _ => rfl⟩
  | @drain previous waiting state tree queue taken =>
      rcases follows settled with ⟨⟨done, groups, whole⟩, _⟩
      refine ⟨⟨done, groups, ?_⟩, by simp⟩
      have present : previous ≠ none := loops _ List.mem_cons_self rfl
      rcases Option.ne_none_iff_exists'.mp present with ⟨behind, rfl⟩
      rw [upcoming_of_previous rfl] at whole ⊢
      exact whole
  | @resume previous waiting state queue =>
      rcases follows settled with ⟨held, empty⟩
      exact ⟨held, by simp⟩

end Steps

theorem Quiet.groups {env : Environment} {heap : Heap} {root : TaskTree} {final : RunState}
    (quiet : Quiet env final) (rooted : Rooted heap root) (nodup : root.ids.Nodup)
    (ended : Visits env heap root.id ⟨none, [], final⟩) :
    List.Forall₂ List.Perm final.groups (root.entered (final.failed env heap) none) := by
  have held := @visits_forest env heap root
    (OnTrace env heap (final.failed env heap) (root.entered (final.failed env heap) none))
    rooted nodup ?_ ?_ _ ended
  · rcases held with ⟨current, queue, forest, follows⟩
    rcases follows (quiet.settled rooted nodup ended) with ⟨⟨done, groups, whole⟩, empty⟩
    obtain rfl : current = none := Option.map_eq_none_iff.mp forest.control.symm
    obtain rfl : queue = [] := empty rfl
    simp only [upcoming, Option.elim_none, List.flatMap_nil, List.append_nil] at whole
    rwa [← whole]
  · intro _
    refine ⟨⟨[], ?_, ?_⟩, by simp [initialConfig]⟩
    · simp [initialConfig, RunState.groups, Arena.empty]
    · simp [upcoming, initialConfig]
  · intro before current queue after next later visited _ follows step
    exact follows.step (loop_follows rooted nodup visited) step

end EventPipeline
