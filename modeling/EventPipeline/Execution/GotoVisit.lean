import EventPipeline.Execution.DataFlow
import EventPipeline.Execution.Goto
import EventPipeline.Execution.Lossless

/-! # Visits that go to another task

What becomes of `goto` in the context of the event and in the run. The exception arrives as the
content of a failure, which is recorded without it.
-/

namespace EventPipeline

/-- A visit of a run, and an event of its context whose first attempt calls `goto` with a
descriptor of its task. The futures are read in the order of `earlier` and `later`. -/
structure GotoVisit (pipeline : AcceptedPipeline) (env : Environment) {Double : Type}
    (timing : RetryTiming Double) where
  zero : timing.clock.lessEq (.int 0) (.int 0) = true
  start : TaskId
  previous : Option ContextId
  waiting : List Call
  state : RunState
  visited : Visits env pipeline.heap pipeline.root ⟨some ⟨some start, previous⟩, waiting, state⟩
  profiles : List TaskId
  last : TaskId
  grouped : groupOf env pipeline.heap start previous state.contexts.size = .ok (profiles, last)
  submitted : env.submission state.contexts.size = none
  event : EventBase
  kwargs : CallKwargs
  request : GotoRequest
  goes : event.GoesTo kwargs request
  delivered : env.outcome state.contexts.size event.taskId = event.delivers timing kwargs
  earlier : List TaskId
  later : List TaskId
  order : env.doneOrder state.contexts.size profiles = earlier ++ event.taskId :: later
  distinct : ∀ task ∈ earlier ++ later,
    (env.outcome state.contexts.size task).resultId ≠ event.resultId
  config : DescriptorConfig
  configured : (pipeline.heap.get? event.taskId).bind (fun task =>
    task.extraConfig.getDescriptorConfig request.descriptor) = some config

namespace GotoVisit

variable {pipeline : AcceptedPipeline} {env : Environment} {Double : Type}
  {timing : RetryTiming Double} (site : GotoVisit pipeline env timing)

def id : ContextId := site.state.contexts.size

/-- `goto` does what it is told. -/
def Obeys : Prop :=
  site.event.processCalls timing site.kwargs = 1 ∧
    ∃ flow after context,
      visit env pipeline.heap site.start site.previous site.state = .ok (flow, after) ∧
      after.contexts.get? site.id = some context ∧
      (∃ result, OrderedDict.get site.event.resultId context.executionResult = some result ∧
        result.error = !site.request.resultStatus ∧
        result.content = site.request.result.content) ∧
      ((∃ error ∈ context.errors,
        error.params.map EventResult.id = some site.event.resultId) ↔
          site.request.resultStatus = false) ∧
      flow.call?.bind Call.task = some site.config.task

/-- What the failure of the event holds: the request, or what keeps `goto` from making its
result. -/
def failureContent : Content :=
  match site.event.resultError
    (site.event.resultWith site.kwargs true (EventBase.handed site.request).content) with
  | none => .switchTask site.request.descriptor
  | some refused => .exception refused.message

/-- There is no result to hand over, the backend takes the results of `goto` and of the failure,
and the failure can be copied. -/
structure Requests : Prop where
  nothing : site.request.result = .none
  made : site.event.resultError (site.event.resultWith site.kwargs true .none) = none
  saved : site.event.resultError
    (site.event.resultWith site.kwargs true (.switchTask site.request.descriptor)) = none
  copies : site.event.copyError site.kwargs (.switchTask site.request.descriptor) = none

/-- The backend takes none of them: the request is lost, but what is recorded of the event
happens to hold what it hands over. -/
inductive RecordsAlone : Prop
  | unmade {refused} :
      site.event.resultError
        (site.event.resultWith site.kwargs true (EventBase.handed site.request).content) =
          some refused →
      site.event.resultError
        (site.event.resultWith site.kwargs true (.exception refused.message)) = none →
      site.event.copyError site.kwargs (.exception refused.message) = none →
      site.request.result = .none → RecordsAlone
  | unsaved {refused} :
      site.event.resultError (site.event.resultWith site.kwargs true site.failureContent) =
        some refused →
      (Outcome.raised refused.fields site.event.resultId).Recordable →
      refused.fields.stopProcessing = false →
      site.request.result.content = .value refused.fields.text → RecordsAlone

/-- The first of the other futures that ends the loop asks to switch to the same branch. -/
def Relayed : Prop :=
  ∃ front other back asked target, site.later = front ++ other :: back ∧
    (∀ task ∈ front, (env.outcome site.id task).Calm ∧
      (env.outcome site.id task).stops = false) ∧
    (env.outcome site.id other).descriptor? = some asked ∧
    ((pipeline.heap.get? site.last).bind fun task =>
      asked.toNat?.bind task.extraConfig.getDescriptorConfig) = some target ∧
    target.task = site.config.task

/-- The event has a single attempt, hands over a failure that its flags do not stop at, its task
is the last of its group, and no future that is read earlier ends the loop or stops the
processing. The request arrives, or by chance another one does its work. -/
structure Unhindered : Prop where
  once : site.event.AttemptsOnce
  failure : site.request.resultStatus = false
  quiet : site.event.stopsAtFailure = false
  last : site.event.taskId = site.last
  calm : ∀ task ∈ site.earlier,
    (env.outcome site.id task).Calm ∧ (env.outcome site.id task).stops = false
  decides : site.Requests ∨ site.RecordsAlone ∧ site.Relayed

end GotoVisit

/-! ## Reading the futures -/

namespace EventExecutionContext

variable {heap : Heap} {context : EventExecutionContext} {earlier later : List Outcome}

/-- Futures that do not end the loop are read one after the other. -/
theorem processExecutorResults_append (calm : ∀ outcome ∈ earlier, outcome.Calm) :
    context.processExecutorResults heap (earlier ++ later) =
      (context.processExecutorResults heap earlier).1.processExecutorResults heap later := by
  induction earlier generalizing context with
  | nil => rfl
  | cons outcome rest induction =>
      obtain ⟨result, received⟩ := calm outcome List.mem_cons_self
      simp only [List.cons_append, processExecutorResults, recordOutcome_of_receive received]
      exact induction fun other member => calm other (List.mem_cons_of_mem _ member)

theorem recordOutcome_of_not_calm {outcome : Outcome} (ends : ¬outcome.Calm) :
    ∃ interruption, (context.recordOutcome heap outcome).2 = some interruption := by
  rcases received : outcome.receive with error | ⟨result, _ | descriptor⟩
  · exact ⟨_, (recordOutcome_of_refused received).1⟩
  · exact absurd ⟨result, received⟩ ends
  · rw [recordOutcome_of_receive received]
    exact ⟨_, rfl⟩

theorem processExecutorResults_of_not_calm (ends : ¬∀ outcome ∈ earlier, outcome.Calm) :
    context.processExecutorResults heap (earlier ++ later) =
      context.processExecutorResults heap earlier := by
  induction earlier generalizing context with
  | nil => exact absurd (fun outcome member => absurd member List.not_mem_nil) ends
  | cons outcome rest induction =>
      by_cases calm : outcome.Calm
      · have onward : ¬∀ outcome ∈ rest, outcome.Calm := by
          intro others
          apply ends
          intro other member
          rcases List.mem_cons.mp member with rfl | behind
          · exact calm
          · exact others other behind
        obtain ⟨result, received⟩ := calm
        simp only [List.cons_append, processExecutorResults, recordOutcome_of_receive received]
        exact induction onward
      · obtain ⟨interruption, interrupts⟩ := @recordOutcome_of_not_calm heap context _ calm
        rw [List.cons_append, processExecutorResults_interrupted interrupts,
          processExecutorResults_interrupted interrupts]

theorem dispatch_executionResult (outcomes : List Outcome) :
    (context.dispatch heap (.ok outcomes)).1.executionResult =
      (({ context with state := .executing } :
        EventExecutionContext).processExecutorResults heap outcomes).1.executionResult := by
  rw [dispatch]
  rcases ({ context with state := .executing } :
    EventExecutionContext).processExecutorResults heap outcomes with
    ⟨after, _ | ⟨descriptor, configured⟩ | error⟩
  · dsimp only
    split <;> rfl
  · rfl
  · rfl

theorem mem_errors_recordOutcome (outcome : Outcome) {error : PipelineError}
    (member : error ∈ context.errors) :
    error ∈ (context.recordOutcome heap outcome).1.errors := by
  cases received : outcome.receive with
  | error raised =>
      rw [(recordOutcome_of_refused received).2.errors]
      exact member
  | ok answer =>
      rw [recordOutcome_errors received]
      exact List.mem_append_left _ member

theorem mem_errors_processExecutorResults (outcomes : List Outcome) {error : PipelineError}
    (member : error ∈ context.errors) :
    error ∈ (context.processExecutorResults heap outcomes).1.errors :=
  @processExecutorResults_preserves heap context (fun context => error ∈ context.errors) outcomes
    (fun outcome _ _ => mem_errors_recordOutcome outcome) member

theorem mem_errors_cons {outcome : Outcome} {rest : List Outcome} {error : PipelineError}
    (member : error ∈ (context.recordOutcome heap outcome).1.errors) :
    error ∈ (context.processExecutorResults heap (outcome :: rest)).1.errors := by
  rw [processExecutorResults]
  rcases recorded : context.recordOutcome heap outcome with ⟨middle, _ | interruption⟩
  · rw [recorded] at member
    exact mem_errors_processExecutorResults rest member
  · rw [recorded] at member
    exact member

theorem mem_errors_dispatch {outcomes : List Outcome} {error : PipelineError}
    (member : error ∈ (({ context with state := .executing } :
      EventExecutionContext).processExecutorResults heap outcomes).1.errors) :
    error ∈ (context.dispatch heap (.ok outcomes)).1.errors := by
  rw [dispatch]
  rcases processed : ({ context with state := .executing } :
    EventExecutionContext).processExecutorResults heap outcomes with
    ⟨after, _ | ⟨descriptor, configured⟩ | raised⟩
  · rw [processed] at member
    dsimp only
    split <;> exact member
  · rw [processed] at member
    exact member
  · rw [processed] at member
    exact List.mem_append_left _ member

section Read

variable {outcome : Outcome} {result : EventResult} {switch : Option Int}

theorem error_of_read (calm : ∀ outcome ∈ earlier, outcome.Calm)
    (received : outcome.receive = .ok (result, switch)) (failed : result.error = true) :
    ∃ error ∈ (context.dispatch heap (.ok (earlier ++ outcome :: later))).1.errors,
      error.params.map EventResult.id = some outcome.resultId := by
  refine ⟨⟨result.content, result.taskId, some result⟩, mem_errors_dispatch ?_, ?_⟩
  · rw [processExecutorResults_append calm]
    apply mem_errors_cons
    rw [recordOutcome_errors received, if_pos failed]
    exact List.mem_append_right _ List.mem_cons_self
  · rw [Option.map_some, Outcome.id_of_result (Outcome.result_of_receive received).1]

theorem get_of_read (calm : ∀ outcome ∈ earlier, outcome.Calm)
    (received : outcome.receive = .ok (result, switch))
    (others : ∀ other ∈ later, other.resultId ≠ outcome.resultId) :
    OrderedDict.get outcome.resultId
        (context.dispatch heap (.ok (earlier ++ outcome :: later))).1.executionResult =
      some (if result.error then result.asDict.2 else result) := by
  rw [dispatch_executionResult, processExecutorResults_append calm,
    get_processExecutorResults_cons (Outcome.result_of_receive received).1 others]

end Read

/-- A request to switch to a configured descriptor is left when nothing else comes first. -/
theorem dispatch_of_configured {outcome : Outcome} {descriptor : Int}
    (calm : ∀ other ∈ earlier, other.Calm ∧ other.stops = false)
    (asks : outcome.descriptor? = some descriptor)
    (configured : Configured heap context descriptor) :
    (context.dispatch heap (.ok (earlier ++ outcome :: later))).1.state = .executing ∧
      (context.dispatch heap (.ok (earlier ++ outcome :: later))).2 =
        some ⟨descriptor, true⟩ := by
  have processed := @processExecutorResults_switches heap { context with state := .executing }
    earlier later outcome descriptor calm asks configured
  rw [dispatch]
  generalize ({ context with state := .executing } :
    EventExecutionContext).processExecutorResults heap (earlier ++ outcome :: later) = ended
    at processed
  rcases ended with ⟨after, interruption⟩
  cases processed.2
  exact ⟨processed.1, rfl⟩

end EventExecutionContext

/-! ## The group of the event -/

theorem TaskTree.Stored.parentNode_of_config {heap : Heap} {parent : Option TaskId}
    {tree : TaskTree} (stored : tree.Stored heap parent) (proper : tree.Proper)
    {descriptor : Nat} {config : DescriptorConfig}
    (configured : (heap.get? tree.id).bind (fun task =>
      task.extraConfig.getDescriptorConfig descriptor) = some config) :
    1 < descriptor ∧ (heap.get? config.task).bind PipelineTask.parentNode = some tree.id ∧
      ∃ target ∈ tree.customs.trees, target.id = config.task := by
  rw [stored.record_eq, Option.bind_some] at configured
  rcases tree with ⟨id, label, failure, sink, success, customs⟩
  rcases Customs.get_configs proper.2.2.2.2 configured with ⟨large, target, member, same⟩
  have below : target.Stored heap (some id) := stored.2.2.2.2.tree member
  rw [same, below.record_eq, Option.bind_some, TaskTree.record_parentNode]
  exact ⟨large, rfl, target, member, rfl⟩

theorem TaskTree.mem_ids_of_member {tree : TaskTree} {previous : Option ContextId} {id : TaskId}
    (member : id ∈ tree.members previous) : id ∈ tree.ids := by
  cases previous with
  | none => exact List.mem_singleton.mp member ▸ tree.id_mem_ids
  | some _ => exact tree.group_subperm.subset member

namespace GotoVisit

variable {pipeline : AcceptedPipeline} {env : Environment} {Double : Type}
  {timing : RetryTiming Double} (site : GotoVisit pipeline env timing)

/-- The visited tree: the tasks of the context are those of a group, and requests are looked up
in its last task. -/
structure Group (above : Option TaskId) (tree : TaskTree) : Prop where
  planted : Planted pipeline.heap above tree
  start : site.start = tree.id
  length_le : tree.group.length ≤ pipeline.heap.size + 1
  last : site.last = (tree.turn site.previous).id
  members : site.profiles.Perm (tree.members site.previous)
  profile : ∀ context : EventExecutionContext, context.taskProfiles = site.profiles →
    context.getLastTaskProfileInChain pipeline.heap = some site.last

theorem exists_group : ∃ above tree, site.Group above tree := by
  obtain ⟨root, same, planted⟩ := pipeline.planted
  have visited := site.visited
  rw [← same] at visited
  obtain ⟨current, queue, forest, traced⟩ :=
    traced_of_visits ⟨⟨none, planted.stored⟩, planted.proper⟩ planted.nodup visited
  cases current with
  | none => cases forest.control
  | some tree =>
      have called : site.start = tree.id := Option.some_inj.mp forest.control
      obtain ⟨above, known⟩ := (traced.current tree rfl _ rfl).exists_planted planted
      have enough := forest.group_length_le planted.nodup
      obtain ⟨profiles, grouped, perm, last⟩ := groupOf_stored env known.stored enough
        site.previous site.state.contexts.size
      have made := site.grouped
      rw [called, grouped, Except.ok.injEq, Prod.mk.injEq] at made
      refine ⟨above, tree, known, called, enough, made.2.symm, made.1 ▸ perm, ?_⟩
      rw [← made.1, ← made.2]
      exact last

theorem event_mem_profiles : site.event.taskId ∈ site.profiles := by
  rw [← (env.doneOrder_perm site.state.contexts.size site.profiles).mem_iff, site.order]
  exact List.mem_append_right _ List.mem_cons_self

theorem parentNode_config :
    (pipeline.heap.get? site.config.task).bind PipelineTask.parentNode =
      some site.event.taskId := by
  obtain ⟨above, tree, group⟩ := site.exists_group
  have inside := TaskTree.mem_ids_of_member (group.members.mem_iff.mp site.event_mem_profiles)
  obtain ⟨sub, member, same⟩ := TaskTree.exists_subtree inside
  obtain ⟨outer, below⟩ := group.planted.subtree member
  have configured := site.configured
  rw [← same] at configured ⊢
  exact (below.stored.parentNode_of_config below.proper configured).2.1

theorem Group.event_eq_last {site : GotoVisit pipeline env timing} {above : Option TaskId}
    {tree kid : TaskTree}
    (group : site.Group above tree) (child : kid ∈ (tree.turn site.previous).children)
    (leads : kid.id = site.config.task) : site.event.taskId = site.last := by
  obtain ⟨outer, turned⟩ := group.planted.turn site.previous
  have parent := site.parentNode_config
  rw [← leads, (turned.stored.child child).record_eq, Option.bind_some,
    TaskTree.record_parentNode, Option.some_inj] at parent
  rw [group.last, parent]

/-! ## The context of the event -/

def outcomes : List Outcome :=
  site.earlier.map (env.outcome site.id) ++
    site.event.delivers timing site.kwargs :: site.later.map (env.outcome site.id)

def context : EventExecutionContext :=
  { taskProfiles := site.profiles, previousContext := site.previous }

/-- The context after its futures have been read, and the request that is left. -/
def dispatched : EventExecutionContext × Option SwitchRequest :=
  site.context.dispatch pipeline.heap (.ok site.outcomes)

theorem dispatchTask_eq :
    dispatchTask env pipeline.heap site.start site.previous site.state.contexts.size =
      .ok (site.last, site.dispatched) := by
  have futures : env.futures site.state.contexts.size site.profiles = .ok site.outcomes := by
    rw [Environment.futures, site.submitted, site.order, List.map_append, List.map_cons,
      site.delivered]
    rfl
  simp only [dispatchTask, site.grouped, futures, bind, Except.bind]
  rfl

theorem visit_eq :
    visit env pipeline.heap site.start site.previous site.state =
      (follow env pipeline.heap site.last site.previous site.id site.dispatched.1
        site.dispatched.2).map fun flow =>
          (flow, site.state.append pipeline.heap site.start site.previous site.dispatched.1) := by
  simp only [visit, site.dispatchTask_eq, bind, Except.bind]
  rw [id]
  cases follow env pipeline.heap site.last site.previous site.state.contexts.size
    site.dispatched.1 site.dispatched.2 <;> rfl

structure Holds (context : EventExecutionContext) : Prop where
  result : ∃ result, OrderedDict.get site.event.resultId context.executionResult = some result ∧
    result.error = !site.request.resultStatus ∧ result.content = site.request.result.content
  error : (∃ error ∈ context.errors,
    error.params.map EventResult.id = some site.event.resultId) ↔
      site.request.resultStatus = false

/-- The run goes on at the head of the branch. -/
def GoesOn : Prop :=
  ∃ flow, follow env pipeline.heap site.last site.previous site.id site.dispatched.1
    site.dispatched.2 = .ok flow ∧ flow.call?.bind Call.task = some site.config.task

theorem obeys_iff_holds :
    site.Obeys ↔ site.event.processCalls timing site.kwargs = 1 ∧ site.Holds site.dispatched.1 ∧
      site.GoesOn := by
  have placed : (site.state.append pipeline.heap site.start site.previous
      site.dispatched.1).contexts.get? site.id = some site.dispatched.1 :=
    Arena.get?_linkBehind_self _ _ _
  rw [Obeys, site.visit_eq]
  constructor
  · rintro ⟨once, flow, after, context, visited, found, result, error, next⟩
    cases followed : follow env pipeline.heap site.last site.previous site.id site.dispatched.1
      site.dispatched.2 with
    | error raised =>
        rw [followed] at visited
        cases visited
    | ok other =>
        rw [followed] at visited
        cases visited
        rw [placed, Option.some_inj] at found
        subst found
        exact ⟨once, ⟨result, error⟩, flow, followed, next⟩
  · rintro ⟨once, ⟨result, error⟩, flow, followed, next⟩
    rw [followed]
    exact ⟨once, flow, _, _, rfl, placed, result, error, next⟩

/-! ## The switch -/

theorem configured_iff (asked : Int) :
    EventExecutionContext.Configured pipeline.heap site.context asked ↔
      ∃ target, ((pipeline.heap.get? site.last).bind fun task =>
        asked.toNat?.bind task.extraConfig.getDescriptorConfig) = some target := by
  obtain ⟨above, tree, group⟩ := site.exists_group
  rw [EventExecutionContext.Configured]
  constructor
  · rintro ⟨other, task, config, found, record, configured⟩
    rw [group.profile _ rfl, Option.some_inj] at found
    rw [found, record]
    exact ⟨config, configured⟩
  · rintro ⟨config, configured⟩
    rw [Option.bind_eq_some_iff] at configured
    obtain ⟨task, record, configured⟩ := configured
    exact ⟨site.last, task, config, group.profile _ rfl, record, configured⟩

/-- With a request that is left, the run goes on at the head of the branch. -/
theorem follow_of_request {asked : Int} {target : DescriptorConfig}
    (configured : ((pipeline.heap.get? site.last).bind fun task =>
      asked.toNat?.bind task.extraConfig.getDescriptorConfig) = some target)
    (running : site.dispatched.1.state = .executing)
    (request : site.dispatched.2 = some ⟨asked, true⟩) :
    follow env pipeline.heap site.last site.previous site.id site.dispatched.1
      site.dispatched.2 = .ok (.call (some target.task) site.previous) := by
  obtain ⟨above, tree, group⟩ := site.exists_group
  obtain ⟨outer, turned⟩ := group.planted.turn site.previous
  rw [Option.bind_eq_some_iff] at configured
  obtain ⟨task, record, configured⟩ := configured
  rw [Option.bind_eq_some_iff] at configured
  obtain ⟨descriptor, number, configured⟩ := configured
  have known : (pipeline.heap.get? (tree.turn site.previous).id).bind (fun task =>
      task.extraConfig.getDescriptorConfig descriptor) = some target := by
    rw [← group.last, record]
    exact configured
  have large := (turned.stored.parentNode_of_config turned.proper known).1
  have leads : task.getDescriptor descriptor = some target.task := by
    rw [PipelineTask.getDescriptor, if_neg (by omega), if_neg (by omega), configured]
    rfl
  simp only [follow, running, ExecutionState.isStopped, Bool.false_eq_true, if_false, record,
    request, number, Option.bind_some, leads]

theorem executing_of_goesOn (onward : site.GoesOn) :
    site.dispatched.1.state = .executing ∧ site.event.taskId = site.last := by
  obtain ⟨flow, followed, next⟩ := onward
  obtain ⟨above, tree, group⟩ := site.exists_group
  obtain ⟨outer, turned⟩ := group.planted.turn site.previous
  obtain ⟨context, other, later, made, visited⟩ := visit_stored env group.planted.stored
    group.planted.proper group.length_le site.previous site.state
  obtain ⟨last, switch, dispatched⟩ := visited.dispatched
  rw [← group.start, site.dispatchTask_eq, Except.ok.injEq, Prod.mk.injEq] at dispatched
  rw [← group.start, site.visit_eq, followed, Except.map, Except.ok.injEq,
    Prod.mk.injEq] at made
  obtain rfl := made.1
  have same : site.dispatched.1 = context := congrArg Prod.fst dispatched.2
  rw [same]
  cases visited.onward with
  | stop stopped => cases next
  | @branch failed passed evaluated =>
      -- a child of the branches is none of the custom ones
      have taken : ((tree.turn site.previous).branch failed).id? = some site.config.task := next
      rw [← Slot.map_id_tree?, Option.map_eq_some_iff] at taken
      obtain ⟨kid, member, leads⟩ := taken
      obtain ⟨position, pipe, edge, -, notCustom⟩ := TaskTree.branch_edge member
      have last := group.event_eq_last (TaskTree.mem_children_of_edge edge) leads
      have configured := site.configured
      rw [last, group.last] at configured
      obtain ⟨-, -, target, custom, found⟩ :=
        turned.stored.parentNode_of_config turned.proper configured
      obtain ⟨otherPipe, otherEdge⟩ := TaskTree.customs_edge custom
      have clash := TaskTree.edge_unique turned.nodup otherEdge edge (leads.trans found.symm)
      exact absurd clash.1 notCustom
  | @switch target executing submitted member =>
      have leads : some target.id = some site.config.task := next
      exact ⟨executing, group.event_eq_last
        (TaskTree.mem_children.mpr (.inr (.inr (.inr member)))) (Option.some_inj.mp leads)⟩

/-- The future that asks for the switch, and what is read before it. -/
theorem exists_asking (onward : site.GoesOn) :
    ∃ front outcome back asked target, site.outcomes = front ++ outcome :: back ∧
      (∀ other ∈ front, other.Calm ∧ other.stops = false) ∧
      outcome.descriptor? = some asked ∧
      ((pipeline.heap.get? site.last).bind fun task =>
        asked.toNat?.bind task.extraConfig.getDescriptorConfig) = some target ∧
      target.task = site.config.task := by
  have executing := (site.executing_of_goesOn onward).1
  have switches := @EventExecutionContext.endsAsPromised_or_switchesFirst pipeline.heap
    (.ok site.outcomes) site.context
  rcases switches with promised | ⟨descriptor, ⟨⟩⟩ |
    ⟨front, outcome, back, asked, split, calm, asks, configured⟩
  · exact absurd executing promised.state_ne_executing
  · rw [Except.ok.injEq] at split
    have request := @EventExecutionContext.dispatch_of_configured pipeline.heap site.context
      front back outcome asked calm asks configured
    rw [← split] at request
    obtain ⟨target, found⟩ := (site.configured_iff asked).mp configured
    obtain ⟨flow, followed, next⟩ := onward
    rw [site.follow_of_request found request.1 request.2, Except.ok.injEq] at followed
    rw [← followed] at next
    exact ⟨front, outcome, back, asked, target, split, calm, asks, found,
      Option.some_inj.mp next⟩

theorem goesOn_of_asking {front back : List Outcome} {outcome : Outcome} {asked : Int}
    {target : DescriptorConfig} (split : site.outcomes = front ++ outcome :: back)
    (calm : ∀ other ∈ front, other.Calm ∧ other.stops = false)
    (asks : outcome.descriptor? = some asked)
    (found : ((pipeline.heap.get? site.last).bind fun task =>
      asked.toNat?.bind task.extraConfig.getDescriptorConfig) = some target)
    (leads : target.task = site.config.task) : site.GoesOn := by
  have request := @EventExecutionContext.dispatch_of_configured pipeline.heap site.context
    front back outcome asked calm asks ((site.configured_iff asked).mpr ⟨target, found⟩)
  rw [← split] at request
  exact ⟨_, site.follow_of_request found request.1 request.2, by rw [← leads]; rfl⟩

/-! ## What is delivered -/

def failed : EventResult :=
  site.event.resultWith site.kwargs true site.failureContent

section Failure

variable (failure : site.request.resultStatus = false)
  (quiet : site.event.stopsAtFailure = false)
include failure quiet

theorem content_goto :
    (site.event.goto site.kwargs site.request).content = site.failureContent := by
  rw [EventBase.stopsAtFailure, Bool.or_eq_false_iff] at quiet
  rw [EventBase.goto, EventBase.gotoResult_of_failure failure quiet.1 quiet.2,
    EventBase.eventResult, failureContent]
  cases site.event.resultError
    (site.event.resultWith site.kwargs true (EventBase.handed site.request).content) <;> rfl

theorem delivers_eq (once : site.event.AttemptsOnce) :
    site.event.delivers timing site.kwargs =
      match site.event.resultError site.failed with
      | some refused => .raised refused.fields site.event.resultId
      | none => .returned site.failed := by
  rw [site.goes.delivers_of_quiet site.zero once quiet, site.content_goto failure quiet]
  rfl

end Failure

theorem resultId_delivers (once : site.event.AttemptsOnce)
    (quiet : site.event.stopsAtFailure = false) :
    (site.event.delivers timing site.kwargs).resultId = site.event.resultId ∧
      (site.event.delivers timing site.kwargs).isError = true := by
  rw [site.goes.delivers_of_quiet site.zero once quiet]
  cases site.event.resultError (site.event.resultWith site.kwargs true
    (site.event.goto site.kwargs site.request).content) <;> exact ⟨rfl, rfl⟩

/-! ## When `goto` is obeyed -/

/-- The futures that are read before the one of the event do not end the loop. -/
def ReadCalmly : Prop :=
  ∀ outcome ∈ site.earlier.map (env.outcome site.id), outcome.Calm

section Read

variable {site} (once : site.event.AttemptsOnce) (quiet : site.event.stopsAtFailure = false)
  (calm : site.ReadCalmly) {result : EventResult} {switch : Option Int}
  (received : (site.event.delivers timing site.kwargs).receive = .ok (result, switch))

include once quiet calm received

theorem error_of_received : ∃ error ∈ site.dispatched.1.errors,
    error.params.map EventResult.id = some site.event.resultId := by
  have kind := site.resultId_delivers once quiet
  rw [← kind.1]
  apply EventExecutionContext.error_of_read calm received
  rw [Outcome.receive_error received, kind.2]

theorem result_of_received :
    OrderedDict.get site.event.resultId site.dispatched.1.executionResult =
      some result.asDict.2 := by
  have kind := site.resultId_delivers once quiet
  have others : ∀ other ∈ site.later.map (env.outcome site.id),
      other.resultId ≠ (site.event.delivers timing site.kwargs).resultId := by
    intro other member
    obtain ⟨task, inside, rfl⟩ := List.mem_map.mp member
    rw [kind.1]
    exact site.distinct task (List.mem_append_right _ inside)
  have kept := @EventExecutionContext.get_of_read pipeline.heap site.context _ _ _ _ _ calm
    received others
  rw [kind.1, if_pos (by rw [Outcome.receive_error received, kind.2])] at kept
  exact kept

end Read

theorem EventResult.error_asDict (result : EventResult) :
    result.asDict.2.error = result.error := by
  rw [EventResult.asDict]
  cases result.content.isException <;> rfl

/-- What is received of an event that records what it hands over. -/
structure Answers (switch : Option Int) (result : EventResult) : Prop where
  received : (site.event.delivers timing site.kwargs).receive = .ok (result, switch)
  content : result.asDict.2.content = site.request.result.content
  runs : (site.event.delivers timing site.kwargs).stops = false

theorem Answers.holds {site : GotoVisit pipeline env timing} {switch : Option Int}
    {result : EventResult} (answers : site.Answers switch result)
    (once : site.event.AttemptsOnce) (quiet : site.event.stopsAtFailure = false)
    (calm : site.ReadCalmly) (failure : site.request.resultStatus = false) :
    site.Holds site.dispatched.1 := by
  have kind := site.resultId_delivers once quiet
  refine ⟨⟨_, result_of_received once quiet calm answers.received, ?_, answers.content⟩, ?_⟩
  · rw [EventResult.error_asDict, Outcome.receive_error answers.received, kind.2, failure]
    rfl
  · exact iff_of_true (error_of_received once quiet calm answers.received) failure

theorem handed_of_nothing {site : GotoVisit pipeline env timing}
    (nothing : site.request.result = .none) : EventBase.handed site.request = .none := by
  rw [EventBase.handed, nothing]
  split <;> rfl

section Unhindered

variable {site} (once : site.event.AttemptsOnce)
  (failure : site.request.resultStatus = false) (quiet : site.event.stopsAtFailure = false)
include once failure quiet

theorem Requests.answers (requests : site.Requests) :
    site.Answers (some (site.request.descriptor : Int)) site.failed := by
  obtain ⟨nothing, made, saved, copies⟩ := requests
  have content : site.failureContent = .switchTask site.request.descriptor := by
    rw [failureContent, handed_of_nothing nothing]
    simp only [ExecutionResult.content, made]
  have delivered := site.delivers_eq failure quiet once
  rw [failed, content, saved] at delivered
  refine ⟨?_, ?_, ?_⟩
  · rw [delivered, failed, content]
    exact Outcome.receive_of_result rfl fun _ => copies
  · rw [failed, content, nothing]
    rfl
  · rw [delivered]
    rfl

theorem RecordsAlone.answers (records : site.RecordsAlone) :
    ∃ result, site.Answers none result := by
  have delivered := site.delivers_eq failure quiet once
  cases records with
  | @unmade refused unmade saved copies nothing =>
      have content : site.failureContent = .exception refused.message := by
        rw [failureContent, unmade]
      rw [failed, content, saved] at delivered
      refine ⟨site.event.resultWith site.kwargs true (.exception refused.message), ?_, ?_, ?_⟩
      · rw [delivered]
        exact Outcome.receive_of_result rfl fun _ => copies
      · rw [nothing]
        rfl
      · rw [delivered]
        rfl
  | @unsaved refused unsaved recordable runs same =>
      rw [failed, unsaved] at delivered
      obtain ⟨result, switch, received, -⟩ := Outcome.recordable_iff _ |>.mp recordable
      have ⟨own, silent⟩ :=
        RaisedException.eventResult_of_map (Outcome.result_of_receive received).1
      subst silent
      have text := RaisedException.content_eventResult own
      refine ⟨result, ?_, ?_, ?_⟩
      · rw [delivered]
        exact received
      · rw [EventResult.asDict, text, same]
        exact text
      · rw [delivered]
        exact runs

end Unhindered

variable {site}

theorem Unhindered.obeys (unhindered : site.Unhindered) : site.Obeys := by
  obtain ⟨once, failure, quiet, last, calm, decides⟩ := unhindered
  have calmly : ∀ outcome ∈ site.earlier.map (env.outcome site.id),
      outcome.Calm ∧ outcome.stops = false := by
    intro outcome member
    obtain ⟨task, inside, rfl⟩ := List.mem_map.mp member
    exact calm task inside
  have read : site.ReadCalmly := fun outcome member => (calmly outcome member).1
  rw [obeys_iff_holds]
  refine ⟨(site.goes.processCalls_eq_one_iff site.zero).mpr once, ?_⟩
  rcases decides with requests | ⟨records, relayed⟩
  · have answers := Requests.answers once failure quiet requests
    refine ⟨answers.holds once quiet read failure, ?_⟩
    have configured := site.configured
    rw [last] at configured
    have found : ((pipeline.heap.get? site.last).bind fun task =>
        (site.request.descriptor : Int).toNat?.bind task.extraConfig.getDescriptorConfig) =
          some site.config := configured
    refine site.goesOn_of_asking rfl calmly ?_ found rfl
    rw [Outcome.descriptor?, answers.received]
  · obtain ⟨result, answers⟩ := RecordsAlone.answers once failure quiet records
    refine ⟨answers.holds once quiet read failure, ?_⟩
    obtain ⟨front, other, back, asked, target, split, between, asks, found, leads⟩ := relayed
    have whole : site.outcomes = (site.earlier.map (env.outcome site.id) ++
        site.event.delivers timing site.kwargs :: front.map (env.outcome site.id)) ++
          env.outcome site.id other :: back.map (env.outcome site.id) := by
      rw [outcomes, split, List.map_append, List.map_cons, List.append_assoc, List.cons_append]
    refine site.goesOn_of_asking whole ?_ asks found leads
    intro outcome member
    rcases List.mem_append.mp member with earlier | later
    · exact calmly outcome earlier
    · rcases List.mem_cons.mp later with rfl | inside
      · exact ⟨⟨result, answers.received⟩, answers.runs⟩
      · obtain ⟨task, listed, rfl⟩ := List.mem_map.mp inside
        exact between task listed

/-- The futures that are read earlier do not end the loop: the result of the event is kept. -/
theorem Obeys.readCalmly (obeys : site.Obeys) : site.ReadCalmly := by
  by_contra ends
  obtain ⟨-, ⟨⟨result, found, -⟩, -⟩, -⟩ := site.obeys_iff_holds.mp obeys
  have others : ∀ outcome ∈ site.earlier.map (env.outcome site.id),
      outcome.resultId ≠ site.event.resultId := by
    intro outcome member
    obtain ⟨task, inside, rfl⟩ := List.mem_map.mp member
    exact site.distinct task (List.mem_append_left _ inside)
  rw [dispatched, outcomes, EventExecutionContext.dispatch_executionResult,
    EventExecutionContext.processExecutorResults_of_not_calm ends,
    EventExecutionContext.get_processExecutorResults others] at found
  cases found

theorem exists_of_append_eq {Item : Type} {test : Item → Prop} {front early rest late : List Item}
    {item : Item} (same : front ++ rest = early ++ item :: late)
    (before : ∀ other ∈ front, ¬test other) (passes : test item) :
    ∃ between, early = front ++ between ∧ rest = between ++ item :: late := by
  rcases List.append_eq_append_iff.mp same with ⟨between, split, rest⟩ | ⟨between, split, rest⟩
  · exact ⟨between, split, rest⟩
  · cases between with
    | nil =>
        rw [List.append_nil] at split
        exact ⟨[], by rw [split, List.append_nil], rest.symm⟩
    | cons head tail =>
        rw [List.cons_append, List.cons.injEq] at rest
        refine absurd passes (before item ?_)
        rw [split, rest.1]
        exact List.mem_append_right _ List.mem_cons_self

/-- Where the future is read that asks for the switch: it is the one of the event, or the event is
recorded without a request and another one relays it. -/
theorem Obeys.asking (obeys : site.Obeys) :
    (∀ outcome ∈ site.earlier.map (env.outcome site.id), outcome.stops = false) ∧
      ((∃ asked, (site.event.delivers timing site.kwargs).descriptor? = some asked) ∨
        (site.event.delivers timing site.kwargs).Calm ∧
          (site.event.delivers timing site.kwargs).stops = false ∧ site.Relayed) := by
  obtain ⟨-, -, onward⟩ := site.obeys_iff_holds.mp obeys
  obtain ⟨front, outcome, back, asked, target, split, calm, asks, found, leads⟩ :=
    site.exists_asking onward
  have silent : ∀ other ∈ site.earlier.map (env.outcome site.id),
      ¬other.descriptor? = some asked := by
    intro other member asking
    obtain ⟨result, received⟩ := obeys.readCalmly other member
    rw [Outcome.descriptor?, received] at asking
    cases asking
  obtain ⟨between, whole, rest⟩ := exists_of_append_eq split silent asks
  rw [whole] at calm
  refine ⟨fun other member => (calm other (List.mem_append_left _ member)).2, ?_⟩
  cases between with
  | nil =>
      rw [List.nil_append, List.cons.injEq] at rest
      exact .inl ⟨asked, rest.1 ▸ asks⟩
  | cons own between =>
      rw [List.cons_append, List.cons.injEq] at rest
      obtain ⟨rfl, rest⟩ := rest
      have first := calm _ (List.mem_append_right _ List.mem_cons_self)
      refine .inr ⟨first.1, first.2, ?_⟩
      obtain ⟨tasks, others, parts, same, tail⟩ := List.map_eq_append_iff.mp rest
      obtain ⟨other, after, rfl, rfl, rfl⟩ := List.map_eq_cons_iff.mp tail
      refine ⟨tasks, other, after, asked, target, parts, fun task member => ?_, asks, found, leads⟩
      apply calm
      rw [← same]
      exact List.mem_append_right _ (List.mem_cons_of_mem _ (List.mem_map_of_mem member))

theorem Obeys.once (obeys : site.Obeys) : site.event.AttemptsOnce :=
  (site.goes.processCalls_eq_one_iff site.zero).mp obeys.1

theorem Obeys.received (obeys : site.Obeys) : ∃ result switch,
    (site.event.delivers timing site.kwargs).receive = .ok (result, switch) ∧
      (site.event.delivers timing site.kwargs).stops = false := by
  rcases obeys.asking.2 with ⟨asked, asks⟩ | ⟨⟨result, received⟩, runs, -⟩
  · rw [Outcome.descriptor?] at asks
    cases received : (site.event.delivers timing site.kwargs).receive with
    | error error =>
        rw [received] at asks
        cases asks
    | ok answer =>
        obtain ⟨result, switch⟩ := answer
        rw [received] at asks
        dsimp only at asks
        subst asks
        exact ⟨result, _, rfl, Outcome.stops_of_receive received⟩
  · exact ⟨result, none, received, runs⟩

theorem Obeys.quiet (obeys : site.Obeys) : site.event.stopsAtFailure = false := by
  by_contra stops
  rw [Bool.not_eq_false] at stops
  obtain ⟨message, delivered⟩ := site.goes.delivers_of_stops site.zero obeys.once stops
  obtain ⟨result, switch, -, runs⟩ := obeys.received
  rw [delivered] at runs
  cases runs

theorem Obeys.failure (obeys : site.Obeys) : site.request.resultStatus = false := by
  obtain ⟨-, held, -⟩ := site.obeys_iff_holds.mp obeys
  obtain ⟨result, switch, received, -⟩ := obeys.received
  exact held.error.mp (error_of_received obeys.once obeys.quiet obeys.readCalmly received)

theorem Obeys.content (obeys : site.Obeys) {result : EventResult} {switch : Option Int}
    (received : (site.event.delivers timing site.kwargs).receive = .ok (result, switch)) :
    result.asDict.2.content = site.request.result.content := by
  obtain ⟨-, ⟨⟨other, found, -, content⟩, -⟩, -⟩ := site.obeys_iff_holds.mp obeys
  rw [result_of_received obeys.once obeys.quiet obeys.readCalmly received,
    Option.some_inj] at found
  rw [found, content]

theorem ExecutionResult.eq_none_of_content {result : ExecutionResult}
    (nothing : result.content = .none) : result = .none := by
  cases result with
  | none => rfl
  | value text => cases nothing
  | exception exception => cases exception <;> cases nothing

theorem failureContent_of_switch {descriptor : Int}
    (asks : site.failureContent = .switchTask descriptor) :
    site.event.resultError (site.event.resultWith site.kwargs true
        (EventBase.handed site.request).content) = none ∧
      site.failureContent = .switchTask site.request.descriptor := by
  rw [failureContent] at asks ⊢
  cases made : site.event.resultError
    (site.event.resultWith site.kwargs true (EventBase.handed site.request).content) with
  | none => exact ⟨rfl, rfl⟩
  | some refused =>
      rw [made] at asks
      cases asks

/-- A request of the event itself arrives when it is made, saved and copied. -/
theorem Obeys.requests (obeys : site.Obeys) {asked : Int}
    (asks : (site.event.delivers timing site.kwargs).descriptor? = some asked) :
    site.Requests := by
  have delivered := site.delivers_eq obeys.failure obeys.quiet obeys.once
  obtain ⟨result, switch, received, -⟩ := obeys.received
  have content := obeys.content received
  rw [Outcome.descriptor?, received] at asks
  dsimp only at asks
  subst asks
  cases saved : site.event.resultError site.failed with
  | some refused =>
      rw [delivered, saved] at received
      rcases RaisedException.eventResult_of_map (Outcome.result_of_receive received).1 with
        ⟨_, silent⟩
      cases silent
  | none =>
      rw [delivered, saved] at received
      rcases Outcome.result_of_receive received with ⟨made, copies⟩
      rw [Outcome.result] at made
      split at made
      · rename_i descriptor request
        cases made
        rw [EventResult.asDict, request] at content
        have nothing := ExecutionResult.eq_none_of_content content.symm
        rcases failureContent_of_switch request with ⟨made, whole⟩
        rw [handed_of_nothing nothing] at made
        have copied := copies rfl
        rw [failed, whole] at saved copied
        exact ⟨nothing, made, saved, copied⟩
      · cases made

/-- Without a request of the event, what is recorded of it holds by chance what is handed over. -/
theorem Obeys.recordsAlone (obeys : site.Obeys) {result : EventResult}
    (received : (site.event.delivers timing site.kwargs).receive = .ok (result, none))
    (runs : (site.event.delivers timing site.kwargs).stops = false) : site.RecordsAlone := by
  have delivered := site.delivers_eq obeys.failure obeys.quiet obeys.once
  have content := obeys.content received
  cases saved : site.event.resultError site.failed with
  | some refused =>
      rw [delivered, saved] at received runs
      rcases RaisedException.eventResult_of_map (Outcome.result_of_receive received).1 with
        ⟨own, _⟩
      have text := RaisedException.content_eventResult own
      refine .unsaved saved (Outcome.recordable_iff _ |>.mpr ⟨result, none, received, ?_⟩) runs ?_
      · rw [Outcome.delivered, own]
        rfl
      · rw [EventResult.asDict, text] at content
        exact content.symm.trans text
  | none =>
      rw [delivered, saved] at received
      rcases Outcome.result_of_receive received with ⟨made, copies⟩
      rw [Outcome.result] at made
      split at made
      · cases made
      · rename_i silent
        cases made
        cases unmade : site.event.resultError
          (site.event.resultWith site.kwargs true (EventBase.handed site.request).content) with
        | none =>
            refine absurd ?_ (silent site.request.descriptor)
            rw [failed, failureContent, unmade]
            rfl
        | some refused =>
            have whole : site.failureContent = .exception refused.message := by
              rw [failureContent, unmade]
            have copied := copies rfl
            rw [failed, whole] at saved copied content
            exact .unmade unmade saved copied (ExecutionResult.eq_none_of_content content.symm)

theorem Obeys.unhindered (obeys : site.Obeys) : site.Unhindered where
  once := obeys.once
  failure := obeys.failure
  quiet := obeys.quiet
  last := (site.executing_of_goesOn (site.obeys_iff_holds.mp obeys).2.2).2
  calm _ member :=
    ⟨obeys.readCalmly _ (List.mem_map_of_mem member),
      obeys.asking.1 _ (List.mem_map_of_mem member)⟩
  decides := by
    rcases obeys.asking.2 with ⟨asked, asks⟩ | ⟨⟨result, received⟩, runs, relayed⟩
    · exact .inl (obeys.requests asks)
    · exact .inr ⟨obeys.recordsAlone received runs, relayed⟩

/-- `goto` does what it is told exactly when it is unhindered. -/
theorem obeys_iff (site : GotoVisit pipeline env timing) : site.Obeys ↔ site.Unhindered :=
  ⟨Obeys.unhindered, Unhindered.obeys⟩

end GotoVisit

/-- An event of the task `A` of `A(2->B,3->C)` that goes to `B`. -/
def gotoEvent (resultStatus : Bool) (result : ExecutionResult) : EventBase :=
  let event : EventBase := { name := "A", taskId := 0, process := fun _ _ => .returned true .none }
  { event with process := fun kwargs _ => .raised (event.goto kwargs ⟨2, resultStatus, result,
      "'manual'", true⟩) }

def gotoTiming : RetryTiming Rat := ⟨exactClock, .int 1, .int 100⟩

def gotoEnvironment (resultStatus : Bool) (result : ExecutionResult) : Environment :=
  .ofOutcomes fun task =>
    if task = 0 then (gotoEvent resultStatus result).delivers gotoTiming []
    else Outcome.ofTask false task

theorem exactClock_zero : exactClock.lessEq (.int 0) (.int 0) = true := by decide

/-- The run starts with this event. -/
def gotoSite (resultStatus : Bool) (result : ExecutionResult) :
    GotoVisit switchPipeline (gotoEnvironment resultStatus result) gotoTiming where
  zero := exactClock_zero
  start := 0
  previous := none
  waiting := []
  state := {}
  visited := .refl
  profiles := [0]
  last := 0
  grouped := rfl
  submitted := rfl
  event := gotoEvent resultStatus result
  kwargs := []
  request := ⟨2, resultStatus, result, "'manual'", true⟩
  goes := ⟨.inl rfl, nofun, rfl⟩
  delivered := rfl
  earlier := []
  later := []
  order := rfl
  distinct := nofun
  config := ⟨2, .pointer, 1⟩
  configured := rfl

/-- A failure without a result goes to `B` as it is told. -/
theorem obeys_gotoSite : (gotoSite false .none).Obeys := by
  apply (GotoVisit.obeys_iff _).mpr
  exact ⟨nofun, rfl, rfl, rfl, nofun, .inl ⟨rfl, rfl, rfl, rfl⟩⟩

/-- A success is recorded as a failure. -/
theorem not_obeys_gotoSite : ¬(gotoSite true (.value "done")).Obeys := by
  intro obeys
  cases obeys.failure

end EventPipeline
