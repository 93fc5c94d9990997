import EventPipeline.Execution.Machine

/-! # A pipeline that is running

The steps of `execute_task` at the grain at which other threads see them. `Pipeline.stop` and
`Pipeline.shutdown` first look up the latest context and mark it when they have its lock.
The lock is held where contexts are linked and where the futures are recorded, so that each
of these is one step; the other assignments of `dispatch` are made without it.
-/

namespace EventPipeline

/-- `Pipeline.stop` or `Pipeline.shutdown`. -/
inductive Mark
  | stop
  | shutdown
deriving DecidableEq, Repr

def Mark.state : Mark → ExecutionState
  | .stop => .cancelled
  | .shutdown => .aborted

def Mark.apply (context : EventExecutionContext) : Mark → EventExecutionContext
  | .stop => context.cancel
  | .shutdown => context.abort

/-- A context that is dispatched: the task that the visit goes on from, and the context
before. -/
structure Site where
  context : ContextId
  last : TaskId
  previous : Option ContextId
deriving DecidableEq, Repr

/-- Where the thread of the pipeline is: at a call, or in `dispatch` or behind it. -/
inductive Phase
  | calling (call : Call)
  | linked (site : Site)
  | executing (site : Site)
  | recorded (site : Site) (interruption : Option Interruption)
  | checked (site : Site)
  | failing (site : Site) (text : String)
  | dispatched (site : Site) (switch : Option SwitchRequest)
  | continuing (site : Site) (switch : Option SwitchRequest)
  | returned
  | raised (error : PyError)
deriving DecidableEq, Repr

/-- A running pipeline: the phase, the loops that are suspended around the call, the state of
the run, and the calls of `stop` and `shutdown` that have found their context. -/
structure LiveState where
  phase : Phase
  waiting : List Call
  run : RunState
  pending : List (ContextId × Mark)
deriving DecidableEq, Repr

/-- `follow` behind the test for a context that has stopped. -/
def proceed (env : Environment) (heap : Heap) (site : Site) (context : EventExecutionContext)
    (switch : Option SwitchRequest) : Except PyError Flow :=
  match heap.get? site.last with
  | none => .error (.attributeError "'NoneType' object has no attribute 'is_conditional'")
  | some task =>
      match switch with
      | some ⟨descriptor, true⟩ =>
          match descriptor.toNat?.bind task.getDescriptor with
          | none => .error (.taskSwitchingError
              ("Task cannot switch to task using the descriptor " ++ toString descriptor ++
                "."))
          | some target => .ok (.call (some target) site.previous)
      | _ =>
          if task.isConditional then do
            if ← context.executionFailed heap env.policies then
              return .call task.onFailureEvent (some site.context)
            else
              return .call task.onSuccessEvent (some site.context)
          else
            .ok (.call task.onSuccessEvent (some site.context))

def Flow.phase : Flow → Phase
  | .finish => .returned
  | .call task previous => .calling ⟨task, previous⟩

namespace LiveState

def context? (state : LiveState) (id : ContextId) : Option EventExecutionContext :=
  state.run.contexts.get? id

def update (state : LiveState) (id : ContextId)
    (assign : EventExecutionContext → EventExecutionContext) : LiveState :=
  { state with run := { state.run with contexts := state.run.contexts.modify id assign } }

def enter (state : LiveState) (phase : Phase) : LiveState :=
  { state with phase }

/-- How a call goes on. -/
def goOn (state : LiveState) : Except PyError Flow → LiveState
  | .error error => state.enter (.raised error)
  | .ok flow => state.enter flow.phase

/-- `execute_task` up to `dispatch`, or the loop over the sinks. -/
def begin (env : Environment) (heap : Heap) (state : LiveState) (call : Call) : LiveState :=
  match call.task with
  | some task =>
      let id := state.run.contexts.size
      match groupOf env heap task call.previousContext id with
      | .error error => state.enter (.raised error)
      | .ok (profiles, last) =>
          { state with
            phase := .linked ⟨id, last, call.previousContext⟩
            run := state.run.append heap task call.previousContext
              { taskProfiles := profiles, previousContext := call.previousContext } }
  | none =>
      match state.run.sinkQueue with
      | [] => state.enter .returned
      | sink :: queue =>
          { state with
            phase := .calling ⟨some sink, call.previousContext⟩
            waiting := call :: state.waiting
            run := { state.run with sinkQueue := queue } }

/-- The futures are waited for and recorded under the lock. -/
def record (env : Environment) (heap : Heap) (state : LiveState) (site : Site)
    (context : EventExecutionContext) : LiveState :=
  match env.futures site.context context.taskProfiles with
  | .error (.raised text) => state.enter (.failing site text)
  | .error (.switchTask descriptor) =>
      state.enter (.recorded site (some (.switchTask descriptor false)))
  | .ok outcomes =>
      (state.update site.context fun context =>
        (context.processExecutorResults heap outcomes).1).enter
        (.recorded site (context.processExecutorResults heap outcomes).2)

/-- One step of the thread of the pipeline. -/
def advance (env : Environment) (heap : Heap) (state : LiveState) : LiveState :=
  match state.phase with
  | .calling call => state.begin env heap call
  | .linked site =>
      (state.update site.context fun context => { context with state := .executing }).enter
        (.executing site)
  | .executing site =>
      match state.context? site.context with
      | none => state
      | some context => state.record env heap site context
  | .recorded site none =>
      match state.context? site.context with
      | none => state
      | some context =>
          if context.state = .executing then state.enter (.checked site)
          else state.enter (.dispatched site none)
  | .recorded site (some (.switchTask descriptor configured)) =>
      state.enter (.dispatched site (some ⟨descriptor, configured⟩))
  | .recorded site (some (.error error)) => state.enter (.failing site error.text)
  | .checked site =>
      (state.update site.context fun context => { context with state := .finished }).enter
        (.dispatched site none)
  | .failing site text =>
      (state.update site.context fun context => context.fail text).enter (.dispatched site none)
  | .dispatched site switch =>
      match state.context? site.context with
      | none => state
      | some context =>
          if context.state.isStopped then state.enter .returned
          else state.enter (.continuing site switch)
  | .continuing site switch =>
      match state.context? site.context with
      | none => state
      | some context => state.goOn (proceed env heap site context switch)
  | .returned =>
      match state.waiting with
      | [] => state
      | call :: waiting => { state with phase := .calling call, waiting }
  | .raised _ => state

/-- `stop` or `shutdown` looks up the latest context. -/
def locate (state : LiveState) (mark : Mark) : LiveState :=
  match state.run.executionContext with
  | none => state
  | some context =>
      { state with
        pending := state.pending ++
          [(getLatestExecutionContext state.run.contexts context, mark)] }

/-- A call that has found its context marks it under the lock. -/
def complete (state : LiveState) (position : Nat) : LiveState :=
  match state.pending[position]? with
  | none => state
  | some (id, mark) =>
      { state.update id (fun context => mark.apply context) with
        pending := state.pending.eraseIdx position }

end LiveState

/-- What happens next: the pipeline goes on, or `stop` or `shutdown` does. -/
inductive LiveAction
  | advance
  | locate (mark : Mark)
  | complete (position : Nat)
deriving DecidableEq, Repr

namespace LiveState

def step (env : Environment) (heap : Heap) (state : LiveState) : LiveAction → LiveState
  | .advance => state.advance env heap
  | .locate mark => state.locate mark
  | .complete position => state.complete position

def initial (root : TaskId) : LiveState :=
  ⟨.calling ⟨some root, none⟩, [], {}, []⟩

def after (env : Environment) (heap : Heap) (root : TaskId) (actions : List LiveAction) :
    LiveState :=
  actions.foldl (step env heap) (initial root)

end LiveState

end EventPipeline
