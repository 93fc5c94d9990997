import EventPipeline.Batch.Wiring
import EventPipeline.Foundation.Interleaving
import Mathlib.Data.List.Count
import Mathlib.Data.List.Perm.Basic

/-! # Accounting of a batch

The monitor counts what the wrappers report. A wrapper reports the end of a pipeline only
when it has completed: pipelines that fail or raise stay active for ever.
-/

namespace EventPipeline

/-- A batch that is processed: its wrappers, and the messages in the order in which the
monitor takes them from the queue, with the time of each. -/
structure BatchRun where
  wrappers : List PipelineWrapper
  distinct : (wrappers.map PipelineWrapper.pipeline).Nodup
  monitor : MonitorId
  batchClass : Nat
  fieldBatchOps : Nat
  created : Time
  began : Time
  messages : List (LifecycleMessage × Time)
  interleaved : Interleaving (wrappers.map fun wrapper => (wrapper, wrapper.run))
    (messages.map Prod.fst)

namespace BatchRun

def processAfter (run : BatchRun) (messages : List (LifecycleMessage × Time)) : Process :=
  Process.after (.monitor run.monitor (.create run.batchClass run.fieldBatchOps) run.created ::
    .monitor run.monitor .begin run.began ::
    messages.map fun message =>
      .monitor run.monitor (.receive (.wrapperLifecycle message.1)) message.2)

end BatchRun

/-- After every message the pipelines that have started are completed, failed or active, and
in the end the numbers are those of the pipelines that succeeded and that did not. -/
structure Balances (run : BatchRun) : Prop where
  each : ∀ front, front <+: run.messages → ∃ monitor,
    (run.processAfter front).monitors run.monitor = some monitor ∧
      monitor.metrics.started =
        monitor.metrics.completed + monitor.metrics.failed + monitor.metrics.active
  final : ∃ monitor, (run.processAfter run.messages).monitors run.monitor = some monitor ∧
    monitor.metrics.started = run.wrappers.length ∧
    monitor.metrics.completed = run.wrappers.countP PipelineWrapper.succeeded ∧
    monitor.metrics.failed = run.wrappers.countP (fun wrapper => !wrapper.succeeded) ∧
    monitor.metrics.active = 0 ∧ monitor.activePipelines = []

/-! ## One wrapper -/

section Wrappers

variable {wrapper : PipelineWrapper} {message : LifecycleMessage} {rest : List LifecycleMessage}

def Monitor.receive (monitor : Monitor) (message : LifecycleMessage) (now : Time) : Monitor :=
  match message.event with
  | .pipelineExecutionStart pipeline =>
      monitor.onPipelineStarted [("pipeline", .pipeline pipeline)] now
  | .pipelineExecutionEnd context =>
      monitor.onPipelineEnded
        [("execution_context", (context.map SignalValue.executionContext).getD .none)] now
  | .wrapperStarted | .wrapperFailed _ | .wrapperFinished _ => monitor

def LifecycleEvent.isStart : LifecycleEvent → Bool
  | .pipelineExecutionStart _ => true
  | _ => false

def LifecycleEvent.isEnd : LifecycleEvent → Bool
  | .pipelineExecutionEnd _ => true
  | _ => false

def PipelineWrapper.reportsEnd (wrapper : PipelineWrapper) : Bool :=
  wrapper.started = .ok (some (.ok false))

def hasBegun (left : PipelineWrapper × List LifecycleMessage) : Bool :=
  left.2.all fun message => !message.event.isStart

def hasEnded (left : PipelineWrapper × List LifecycleMessage) : Bool :=
  left.1.reportsEnd && left.2.all fun message => !message.event.isEnd

def isActive (left : PipelineWrapper × List LifecycleMessage) : Bool :=
  hasBegun left && !hasEnded left

inductive Turn (wrapper : PipelineWrapper) (message : LifecycleMessage)
    (rest : List LifecycleMessage) : Prop
  | other : (∀ (monitor : Monitor) (now : Time), monitor.receive message now = monitor) →
      hasBegun (wrapper, rest) = hasBegun (wrapper, message :: rest) →
      hasEnded (wrapper, rest) = hasEnded (wrapper, message :: rest) → Turn wrapper message rest
  | start : message.event = .pipelineExecutionStart wrapper.pipeline →
      hasBegun (wrapper, message :: rest) = false → hasBegun (wrapper, rest) = true →
      hasEnded (wrapper, message :: rest) = false → hasEnded (wrapper, rest) = false →
      Turn wrapper message rest
  | finish : message.event =
        .pipelineExecutionEnd (some ⟨wrapper.pipeline, .ok false⟩) →
      hasBegun (wrapper, message :: rest) = true → hasBegun (wrapper, rest) = true →
      hasEnded (wrapper, message :: rest) = false → hasEnded (wrapper, rest) = true →
      Turn wrapper message rest

/-- A wrapper that does not report the end of its pipeline goes on with nothing that the
monitor counts. -/
theorem uncounted_of_silent (silent : wrapper.reportsEnd = false) :
    ∀ message ∈ wrapper.handleResult.1, message.event.isStart = false ∧
      ∀ (monitor : Monitor) (now : Time), monitor.receive message now = monitor := by
  rcases wrapper with ⟨pipeline, error | _ | error | _ | _, firstError, logger⟩
  · -- `start` raises
    exact List.forall_mem_singleton.mpr ⟨rfl, fun _ _ => rfl⟩
  · -- `start` returns no execution context
    exact List.forall_mem_singleton.mpr ⟨rfl, fun _ _ => rfl⟩
  · -- the evaluation of the latest context raises
    exact List.forall_mem_singleton.mpr ⟨rfl, fun _ _ => rfl⟩
  · -- the pipeline completes
    cases silent
  · -- the pipeline fails, and the failure is perhaps logged
    rcases firstError with error | _ | _
    · exact List.forall_mem_singleton.mpr ⟨rfl, fun _ _ => rfl⟩
    · cases logger <;> exact fun _ member => absurd member List.not_mem_nil
    · cases logger with
      | false => exact fun _ member => absurd member List.not_mem_nil
      | true => exact List.forall_mem_singleton.mpr ⟨rfl, fun _ _ => rfl⟩

theorem run_of_reportsEnd (reports : wrapper.reportsEnd = true) :
    wrapper.run = [wrapper.message .initializing .wrapperStarted,
      wrapper.message .running (.pipelineExecutionStart wrapper.pipeline),
      wrapper.message .completed (.pipelineExecutionEnd (some ⟨wrapper.pipeline, .ok false⟩)),
      wrapper.message .finished (.wrapperFinished false)] := by
  have started : wrapper.started = .ok (some (.ok false)) := by
    simpa [PipelineWrapper.reportsEnd] using reports
  rw [PipelineWrapper.run, PipelineWrapper.handleResult, started]
  rfl

theorem turn_of_reportsEnd (reports : wrapper.reportsEnd = true)
    (suffix : message :: rest <:+ wrapper.run) : Turn wrapper message rest := by
  rw [run_of_reportsEnd reports] at suffix
  simp only [List.suffix_cons_iff, List.suffix_nil] at suffix
  rcases suffix with suffix | suffix | suffix | suffix | suffix <;> cases suffix
  · exact .other (fun _ _ => rfl) rfl rfl
  · exact .start rfl rfl rfl (by simp [hasEnded, PipelineWrapper.message, LifecycleEvent.isEnd])
      (by simp [hasEnded, PipelineWrapper.message, LifecycleEvent.isEnd])
  · exact .finish rfl rfl rfl (by simp [hasEnded, PipelineWrapper.message, LifecycleEvent.isEnd])
      (by simp [hasEnded, PipelineWrapper.message, LifecycleEvent.isEnd, reports])
  · exact .other (fun _ _ => rfl) rfl rfl

theorem turn_of_suffix (suffix : message :: rest <:+ wrapper.run) :
    Turn wrapper message rest := by
  cases silent : wrapper.reportsEnd with
  | true => exact turn_of_reportsEnd silent suffix
  | false =>
    have never : ∀ left, hasEnded (wrapper, left) = false := fun left => by
      rw [hasEnded, silent, Bool.false_and]
    -- behind the report of the start
    have behind : ∀ message ∈ wrapper.handleResult.1 ++
        [wrapper.message .finished (.wrapperFinished wrapper.handleResult.2.2.isSome)],
        message.event.isStart = false ∧
          ∀ (monitor : Monitor) (now : Time), monitor.receive message now = monitor := by
      intro message member
      rcases List.mem_append.mp member with early | last
      · exact uncounted_of_silent silent message early
      · rw [List.mem_singleton.mp last]
        exact ⟨rfl, fun _ _ => rfl⟩
    have begun : ∀ left, left <:+ wrapper.handleResult.1 ++
        [wrapper.message .finished (.wrapperFinished wrapper.handleResult.2.2.isSome)] →
        hasBegun (wrapper, left) = true := by
      intro left late
      rw [hasBegun, List.all_eq_true]
      intro message member
      rw [(behind message (late.subset member)).1]
      rfl
    change message :: rest <:+ wrapper.message .initializing .wrapperStarted ::
      wrapper.message .running (.pipelineExecutionStart wrapper.pipeline) ::
      (wrapper.handleResult.1 ++
        [wrapper.message .finished (.wrapperFinished wrapper.handleResult.2.2.isSome)]) at suffix
    rw [List.suffix_cons_iff, List.suffix_cons_iff] at suffix
    rcases suffix with first | second | late
    · cases first
      exact .other (fun _ _ => rfl) rfl ((never _).trans (never _).symm)
    · cases second
      exact .start rfl rfl (begun _ List.suffix_rfl) (never _) (never _)
    · have later : rest <:+ _ := (List.suffix_cons message rest).trans late
      exact .other (behind message (late.subset List.mem_cons_self)).2
        ((begun _ later).trans (begun _ late).symm) ((never _).trans (never _).symm)

end Wrappers

/-! ## The monitor -/

structure Counts (left : List (PipelineWrapper × List LifecycleMessage)) (monitor : Monitor) :
    Prop where
  distinct : (left.map fun entry => entry.1.pipeline).Nodup
  suffixes : ∀ entry ∈ left, entry.2 <:+ entry.1.run
  started : monitor.metrics.started = left.countP hasBegun
  completed : monitor.metrics.completed = left.countP hasEnded
  failed : monitor.metrics.failed = 0
  active : monitor.metrics.active = monitor.activePipelines.length
  pipelines : monitor.activePipelines.Perm
    ((left.filter isActive).map fun entry => entry.1.pipeline)

section Counting

variable {before after : List (PipelineWrapper × List LifecycleMessage)}
  {wrapper : PipelineWrapper} {message : LifecycleMessage} {rest : List LifecycleMessage}
  {monitor : Monitor}

theorem ended_imp_begun {entry : PipelineWrapper × List LifecycleMessage}
    (suffix : entry.2 <:+ entry.1.run) (ended : hasEnded entry = true) :
    hasBegun entry = true := by
  rcases entry with ⟨wrapper, left⟩
  rw [hasEnded, Bool.and_eq_true] at ended
  rcases ended with ⟨reports, ended⟩
  dsimp only at suffix
  rw [run_of_reportsEnd reports] at suffix
  simp only [List.suffix_cons_iff, List.suffix_nil] at suffix
  rcases suffix with rfl | rfl | rfl | rfl | rfl
  · cases ended
  · cases ended
  · cases ended
  · rfl
  · rfl

theorem countP_turn (holds : PipelineWrapper × List LifecycleMessage → Bool)
    (before after : List (PipelineWrapper × List LifecycleMessage))
    (entry : PipelineWrapper × List LifecycleMessage) :
    (before ++ entry :: after).countP holds =
      before.countP holds + after.countP holds + if holds entry then 1 else 0 := by
  rw [List.countP_append, List.countP_cons]
  omega

theorem others_active
    (distinct : ((before ++ (wrapper, rest) :: after).map fun entry => entry.1.pipeline).Nodup) :
    wrapper.pipeline ∉ ((before ++ after).filter isActive).map fun entry => entry.1.pipeline := by
  intro member
  have all : wrapper.pipeline ∈ (before ++ after).map fun entry => entry.1.pipeline :=
    (List.filter_sublist.map _).subset member
  rw [List.map_append, List.map_cons, List.nodup_middle, List.nodup_cons] at distinct
  rw [List.map_append] at all
  exact distinct.1 all

theorem active_turn (before after : List (PipelineWrapper × List LifecycleMessage))
    (entry : PipelineWrapper × List LifecycleMessage) :
    (((before ++ entry :: after).filter isActive).map fun entry => entry.1.pipeline).Perm
      ((if isActive entry then [entry.1.pipeline] else []) ++
        ((before ++ after).filter isActive).map fun entry => entry.1.pipeline) := by
  rw [List.filter_append, List.filter_append, List.map_append, List.map_append]
  by_cases active : isActive entry = true
  · rw [List.filter_cons_of_pos active, if_pos active, List.map_cons]
    exact List.perm_middle
  · rw [List.filter_cons_of_neg active, if_neg active, List.nil_append]

theorem Counts.later
    (counts : Counts (before ++ (wrapper, message :: rest) :: after) monitor) :
    ((before ++ (wrapper, rest) :: after).map fun entry => entry.1.pipeline).Nodup ∧
      ∀ entry ∈ before ++ (wrapper, rest) :: after, entry.2 <:+ entry.1.run := by
  constructor
  · simpa using counts.distinct
  · intro entry member
    rcases List.mem_append.mp member with early | late
    · exact counts.suffixes entry (List.mem_append_left _ early)
    · rcases List.mem_cons.mp late with rfl | late
      · have suffix : message :: rest <:+ wrapper.run :=
          counts.suffixes (wrapper, message :: rest) (by simp)
        exact (List.suffix_cons message rest).trans suffix
      · exact counts.suffixes entry (List.mem_append_right _ (List.mem_cons_of_mem _ late))

theorem Counts.other
    (counts : Counts (before ++ (wrapper, message :: rest) :: after) monitor)
    (begun : hasBegun (wrapper, rest) = hasBegun (wrapper, message :: rest))
    (ended : hasEnded (wrapper, rest) = hasEnded (wrapper, message :: rest)) :
    Counts (before ++ (wrapper, rest) :: after) monitor := by
  have active : isActive (wrapper, rest) = isActive (wrapper, message :: rest) := by
    rw [isActive, isActive, begun, ended]
  have started := counts.started
  have completed := counts.completed
  rw [countP_turn] at started completed
  refine ⟨counts.later.1, counts.later.2, ?_, ?_, counts.failed, counts.active, ?_⟩
  · rw [countP_turn, begun, started]
  · rw [countP_turn, ended, completed]
  · have pipelines := counts.pipelines.trans
      (active_turn before after (wrapper, message :: rest))
    apply pipelines.trans
    apply List.Perm.trans ?_ (active_turn before after _).symm
    rw [active]

theorem Counts.start
    (counts : Counts (before ++ (wrapper, message :: rest) :: after) monitor)
    (notBegun : hasBegun (wrapper, message :: rest) = false)
    (begun : hasBegun (wrapper, rest) = true)
    (notEnded : hasEnded (wrapper, message :: rest) = false)
    (stillNotEnded : hasEnded (wrapper, rest) = false) (now : Time) :
    Counts (before ++ (wrapper, rest) :: after)
      (monitor.onPipelineStarted [("pipeline", .pipeline wrapper.pipeline)] now) := by
  have idle : isActive (wrapper, message :: rest) = false := by
    simp [isActive, notBegun]
  have active : isActive (wrapper, rest) = true := by
    simp [isActive, begun, stillNotEnded]
  have started := counts.started
  have completed := counts.completed
  have pipelines := counts.pipelines.trans (active_turn before after (wrapper, message :: rest))
  rw [countP_turn] at started completed
  rw [idle] at pipelines
  have new : wrapper.pipeline ∉ monitor.activePipelines := fun member =>
    others_active counts.later.1 (pipelines.subset member)
  have added : addNew monitor.activePipelines wrapper.pipeline =
      monitor.activePipelines ++ [wrapper.pipeline] := by
    simp [addNew, new]
  refine ⟨counts.later.1, counts.later.2, ?_, ?_, counts.failed, rfl, ?_⟩
  · rw [countP_turn, begun]
    rw [notBegun] at started
    exact congrArg (· + 1) started
  · rw [countP_turn, stillNotEnded]
    rw [notEnded] at completed
    exact completed
  · apply List.Perm.trans ?_ (active_turn before after _).symm
    rw [active]
    change (addNew monitor.activePipelines wrapper.pipeline).Perm _
    rw [added]
    exact List.perm_append_comm.trans (pipelines.append_left [wrapper.pipeline])

theorem Counts.finish
    (counts : Counts (before ++ (wrapper, message :: rest) :: after) monitor)
    (begun : hasBegun (wrapper, message :: rest) = true)
    (stillBegun : hasBegun (wrapper, rest) = true)
    (notEnded : hasEnded (wrapper, message :: rest) = false)
    (ended : hasEnded (wrapper, rest) = true) (now : Time) :
    Counts (before ++ (wrapper, rest) :: after) (monitor.onPipelineEnded
      [("execution_context", .executionContext ⟨wrapper.pipeline, .ok false⟩)] now) := by
  have active : isActive (wrapper, message :: rest) = true := by
    simp [isActive, begun, notEnded]
  have idle : isActive (wrapper, rest) = false := by
    simp [isActive, ended]
  have started := counts.started
  have completed := counts.completed
  have pipelines := counts.pipelines.trans (active_turn before after (wrapper, message :: rest))
  rw [countP_turn] at started completed
  rw [active] at pipelines
  refine ⟨counts.later.1, counts.later.2, ?_, ?_, counts.failed, rfl, ?_⟩
  · rw [countP_turn, stillBegun]
    rw [begun] at started
    exact started
  · rw [countP_turn, ended]
    rw [notEnded] at completed
    exact congrArg (· + 1) completed
  · have kept : (((before ++ after).filter isActive).map fun entry => entry.1.pipeline).filter
        (· ≠ wrapper.pipeline) =
        ((before ++ after).filter isActive).map fun entry => entry.1.pipeline := by
      apply List.filter_eq_self.mpr
      intro pipeline member
      have different : pipeline ≠ wrapper.pipeline := by
        rintro rfl
        exact others_active counts.later.1 member
      simpa using different
    apply List.Perm.trans ?_ (active_turn before after _).symm
    rw [idle]
    change (monitor.activePipelines.filter (· ≠ wrapper.pipeline)).Perm _
    apply (pipelines.filter _).trans
    rw [List.filter_append, kept]
    simp

theorem Counts.receive
    (counts : Counts (before ++ (wrapper, message :: rest) :: after) monitor) (now : Time) :
    Counts (before ++ (wrapper, rest) :: after) (monitor.receive message now) := by
  have suffix : message :: rest <:+ wrapper.run :=
    counts.suffixes (wrapper, message :: rest) (by simp)
  cases turn_of_suffix suffix with
  | other same begun ended =>
      rw [same]
      exact counts.other begun ended
  | start event notBegun begun notEnded stillNotEnded =>
      rw [Monitor.receive, event]
      exact counts.start notBegun begun notEnded stillNotEnded now
  | finish event begun stillBegun notEnded ended =>
      rw [Monitor.receive, event]
      exact counts.finish begun stillBegun notEnded ended now

theorem begun_count {left : List (PipelineWrapper × List LifecycleMessage)}
    (suffixes : ∀ entry ∈ left, entry.2 <:+ entry.1.run) :
    left.countP hasBegun = left.countP hasEnded + (left.filter isActive).length := by
  induction left with
  | nil => rfl
  | cons entry rest induction =>
      have counted := induction fun entry member =>
        suffixes entry (List.mem_cons_of_mem _ member)
      have implied := ended_imp_begun (suffixes entry List.mem_cons_self)
      rw [List.countP_cons, List.countP_cons, List.filter_cons, counted]
      cases ended : hasEnded entry with
      | true =>
          simp [isActive, ended, implied ended]
          omega
      | false =>
          cases begun : hasBegun entry with
          | true =>
              simp [isActive, ended, begun]
              omega
          | false => simp [isActive, begun]

/-- Whoever has started is completed or active: nobody has failed. -/
theorem Counts.balance {left : List (PipelineWrapper × List LifecycleMessage)}
    (counts : Counts left monitor) :
    monitor.metrics.started =
      monitor.metrics.completed + monitor.metrics.failed + monitor.metrics.active := by
  rw [counts.started, counts.completed, counts.failed, counts.active,
    counts.pipelines.length_eq, List.length_map, begun_count counts.suffixes]
  rfl

end Counting

/-! ## The process -/

section Processing

variable {process : Process} {id : MonitorId} {monitor : Monitor}

theorem hear_lifecycle (monitor : Monitor) (message : LifecycleMessage) (now : Time) :
    (match Process.emissionOf monitor (.wrapperLifecycle message) with
      | none => monitor
      | some (signal, sender, kwargs) => monitor.hear signal sender kwargs now) =
      monitor.receive message now := by
  rcases message with ⟨event, pipelineId, state⟩
  cases event with
  | wrapperStarted => rfl
  | wrapperFailed error => rfl
  | wrapperFinished hadException => rfl
  | pipelineExecutionStart pipeline =>
      have once : monitor.hearings .pipelineExecutionStart monitor.sender = 1 := rfl
      have accepted : Monitor.accepts .pipelineExecutionStart
          [("pipeline", .pipeline pipeline)] = true := rfl
      simp only [Process.emissionOf, Monitor.hear, once, accepted, if_true]
      rfl
  | pipelineExecutionEnd context =>
      have once : monitor.hearings .pipelineExecutionEnd monitor.sender = 1 := rfl
      have accepted : Monitor.accepts .pipelineExecutionEnd
          [("execution_context", (context.map SignalValue.executionContext).getD .none)] =
          true := rfl
      simp only [Process.emissionOf, Monitor.hear, once, accepted, if_true]
      rfl

theorem receive_monitors (wired : process.Wired) (found : process.monitors id = some monitor)
    (running : monitor.running = true) (message : LifecycleMessage) (now : Time) :
    (process.act id (.receive (.wrapperLifecycle message)) now).monitors id =
      some (monitor.receive message now) := by
  rw [← hear_lifecycle]
  simp only [Process.act, found, Process.emissionAt, running, if_true]
  cases Process.emissionOf monitor (.wrapperLifecycle message) with
  | none => exact found
  | some emission =>
      rcases emission with ⟨signal, sender, kwargs⟩
      simp only [Process.emitAt, wired.emit_monitors, found, Option.map_some]

theorem Monitor.receive_running (monitor : Monitor) (message : LifecycleMessage) (now : Time) :
    (monitor.receive message now).running = monitor.running := by
  have same : (monitor.receive message now).status = monitor.status := by
    unfold Monitor.receive
    split
    · exact monitor.handle_status .onPipelineStarted _ now
    · exact monitor.handle_status .onPipelineEnded _ now
    · rfl
    · rfl
    · rfl
  exact congrArg (fun status : Monitor.Status =>
    status.batchStartedEmitted && !status.shutdownFlag) same

theorem begin_monitors (wired : process.Wired) (found : process.monitors id = some monitor)
    (new : monitor.batchStartedEmitted = false) (now : Time) :
    (process.act id .begin now).monitors id = some (Process.begun monitor now) := by
  have ignored : (Process.begun monitor now).handle .onBatchStarted
      (Process.batchStarted (Process.begun monitor now)) now = Process.begun monitor now := rfl
  simp only [Process.act, found, new, Process.emissionAt, Bool.false_eq_true, if_false,
    Process.emitAt]
  rw [(wired.begin found now).emit_monitors, Process.setMonitor_self, Option.map_some,
    Monitor.hear]
  split
  · rw [Function.iterate_fixed ignored]
  · rfl

end Processing

namespace BatchRun

variable (run : BatchRun)

structure Progress (left : List (PipelineWrapper × List LifecycleMessage)) (process : Process) :
    Prop where
  wired : process.Wired
  counts : ∃ monitor, process.monitors run.monitor = some monitor ∧ monitor.running = true ∧
    Counts left monitor

def take (process : Process) (message : LifecycleMessage × Time) : Process :=
  process.act run.monitor (.receive (.wrapperLifecycle message.1)) message.2

theorem Progress.take {before after : List (PipelineWrapper × List LifecycleMessage)}
    {wrapper : PipelineWrapper} {message : LifecycleMessage × Time}
    {rest : List LifecycleMessage} {process : Process}
    (progress : run.Progress (before ++ (wrapper, message.1 :: rest) :: after) process) :
    run.Progress (before ++ (wrapper, rest) :: after) (run.take process message) where
  wired := progress.wired.act _ _ _
  counts := by
    rcases progress.counts with ⟨monitor, found, running, counts⟩
    refine ⟨monitor.receive message.1 message.2, ?_, ?_, counts.receive message.2⟩
    · exact receive_monitors progress.wired found running message.1 message.2
    · rw [Monitor.receive_running, running]

theorem processAfter_eq (messages : List (LifecycleMessage × Time)) :
    run.processAfter messages = messages.foldl run.take (run.processAfter []) := by
  simp only [processAfter, Process.after, List.foldl_cons, List.foldl_map, List.map_nil,
    List.foldl_nil]
  rfl

def initialMonitor : Monitor :=
  Process.begun { batchClass := run.batchClass, fieldBatchOps := run.fieldBatchOps } run.began

theorem initial_monitors :
    (run.processAfter []).monitors run.monitor = some run.initialMonitor := by
  have created : (Process.act {} run.monitor (.create run.batchClass run.fieldBatchOps)
      run.created).monitors run.monitor =
      some { batchClass := run.batchClass, fieldBatchOps := run.fieldBatchOps } :=
    Process.setMonitor_self _ _ _
  have wired := Process.wired_empty.act run.monitor
    (.create run.batchClass run.fieldBatchOps) run.created
  exact begin_monitors wired created rfl run.began

theorem not_begun (wrapper : PipelineWrapper) : hasBegun (wrapper, wrapper.run) = false := by
  simp [hasBegun, PipelineWrapper.run, PipelineWrapper.message, LifecycleEvent.isStart]

theorem not_ended (wrapper : PipelineWrapper) : hasEnded (wrapper, wrapper.run) = false := by
  have begun := not_begun wrapper
  by_contra ended
  rw [ended_imp_begun List.suffix_rfl (Bool.not_eq_false _ |>.mp ended)] at begun
  cases begun

theorem progress_initial :
    run.Progress (run.wrappers.map fun wrapper => (wrapper, wrapper.run))
      (run.processAfter []) := by
  refine ⟨Process.wired_after _, run.initialMonitor, run.initial_monitors, rfl, ?_⟩
  constructor
  · rw [List.map_map]
    exact run.distinct
  · refine List.forall_mem_map.mpr fun wrapper _ => ?_
    exact List.suffix_rfl
  · rw [List.countP_eq_zero.mpr]
    · rfl
    · refine List.forall_mem_map.mpr fun wrapper _ => ?_
      simp [not_begun]
  · rw [List.countP_eq_zero.mpr]
    · rfl
    · refine List.forall_mem_map.mpr fun wrapper _ => ?_
      simp [not_ended]
  · rfl
  · rfl
  · rw [List.filter_eq_nil_iff.mpr]
    · exact List.Perm.nil
    · refine List.forall_mem_map.mpr fun wrapper _ => ?_
      simp [isActive, not_begun]

theorem counts_early {front : List (LifecycleMessage × Time)} (early : front <+: run.messages) :
    ∃ left monitor, (run.processAfter front).monitors run.monitor = some monitor ∧
      Counts left monitor := by
  rcases run.interleaved.holds_prefix (fun progress => progress.take) run.progress_initial early
    with ⟨left, _, progress⟩
  rcases progress.counts with ⟨monitor, found, _, counts⟩
  rw [← processAfter_eq] at found
  exact ⟨left, monitor, found, counts⟩

theorem counts_final :
    ∃ monitor, (run.processAfter run.messages).monitors run.monitor = some monitor ∧
      Counts (run.wrappers.map fun wrapper => (wrapper, [])) monitor := by
  have progress := run.interleaved.holds (fun progress => progress.take) run.progress_initial
  rw [List.map_map, ← processAfter_eq] at progress
  rcases progress.counts with ⟨monitor, found, _, counts⟩
  exact ⟨monitor, found, counts⟩

end BatchRun

/-! ## The balance -/

namespace PipelineWrapper

theorem reportsEnd_iff {wrapper : PipelineWrapper} :
    wrapper.reportsEnd = true ↔ wrapper.started = .ok (some (.ok false)) := by
  simp [reportsEnd]

theorem succeeded_of_reportsEnd {wrapper : PipelineWrapper}
    (reports : wrapper.reportsEnd = true) : wrapper.succeeded = true := by
  rw [succeeded, handleResult, reportsEnd_iff.mp reports]
  rfl

end PipelineWrapper

section Balance

variable {run : BatchRun}

theorem reportsEnd_of_balances (balances : Balances run) {wrapper : PipelineWrapper}
    (member : wrapper ∈ run.wrappers) : wrapper.reportsEnd = true := by
  rcases balances.final with ⟨monitor, found, _, _, _, _, idle⟩
  rcases run.counts_final with ⟨same, foundSame, counts⟩
  rw [foundSame, Option.some.injEq] at found
  subst found
  have pipelines := counts.pipelines
  rw [idle] at pipelines
  have inactive := List.filter_eq_nil_iff.mp (List.map_eq_nil_iff.mp pipelines.symm.eq_nil)
    (wrapper, []) (List.mem_map_of_mem member)
  simpa [isActive, hasBegun, hasEnded] using inactive

theorem balances_of_reportsEnd
    (reports : ∀ wrapper ∈ run.wrappers, wrapper.reportsEnd = true) : Balances run where
  each front early := by
    rcases run.counts_early early with ⟨left, monitor, found, counts⟩
    exact ⟨monitor, found, counts.balance⟩
  final := by
    rcases run.counts_final with ⟨monitor, found, counts⟩
    have succeeded : ∀ wrapper ∈ run.wrappers, wrapper.succeeded = true := fun wrapper member =>
      PipelineWrapper.succeeded_of_reportsEnd (reports wrapper member)
    have idle : monitor.activePipelines = [] := by
      have pipelines := counts.pipelines
      rw [List.filter_eq_nil_iff.mpr] at pipelines
      · exact pipelines.eq_nil
      · refine List.forall_mem_map.mpr fun wrapper member => ?_
        simp [isActive, hasEnded, reports wrapper member]
    refine ⟨monitor, found, ?_, ?_, ?_, ?_, idle⟩
    · rw [counts.started, List.countP_map, List.countP_eq_length.mpr]
      intro wrapper member
      rfl
    · rw [counts.completed, List.countP_map]
      apply List.countP_congr
      intro wrapper member
      simp [hasEnded, reports wrapper member, succeeded wrapper member]
    · rw [counts.failed, eq_comm, List.countP_eq_zero]
      intro wrapper member
      simp [succeeded wrapper member]
    · rw [counts.active, idle]
      rfl

end Balance

/-- The accounting balances exactly when every pipeline returns an execution context whose
latest context has not failed. -/
theorem balances_iff (run : BatchRun) :
    Balances run ↔ ∀ wrapper ∈ run.wrappers, wrapper.started = .ok (some (.ok false)) := by
  constructor
  · intro balances wrapper member
    exact PipelineWrapper.reportsEnd_iff.mp (reportsEnd_of_balances balances member)
  · intro completed
    exact balances_of_reportsEnd fun wrapper member =>
      PipelineWrapper.reportsEnd_iff.mpr (completed wrapper member)

def failedRun : BatchRun where
  wrappers := [⟨0, .ok (some (.ok true)), .ok true, true⟩]
  distinct := by decide
  monitor := 0
  batchClass := 0
  fieldBatchOps := 1
  created := 1
  began := 2
  messages := (PipelineWrapper.run ⟨0, .ok (some (.ok true)), .ok true, true⟩).map
    fun message => (message, 3)
  interleaved := by
    rw [List.map_map]
    exact Interleaving.single _ _

/-- The pipeline is neither completed nor failed, and stays active. -/
theorem not_balances_failedRun : ¬ Balances failedRun := by
  intro balances
  have reports := reportsEnd_of_balances balances (List.mem_singleton.mpr rfl)
  cases reports

end EventPipeline
