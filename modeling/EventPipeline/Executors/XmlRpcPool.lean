import EventPipeline.Executors.XmlRpcWorker
import EventPipeline.Network.RemoteManager
import Mathlib.Algebra.BigOperators.Group.List.Basic
import Mathlib.Order.WellFounded

/-! # What comes of the tasks of the XML-RPC executor

Whatever the order of the steps, a task ends with the outcome that the manager has sent for it.
The workers come to rest, and then every task has ended or was taken back by the pool. Nobody
resolves the future of a task that the pool has taken back.
-/

namespace EventPipeline

open Routine

variable {Object : Type}

namespace XmlRpcTask

/-- The future of a task, from the outcome that a worker has put into it. -/
def futureOf (cancelled : Bool) : Option (Except Thrown Object) → Future Object Thrown
  | some outcome => if cancelled then .cancelled else .finished outcome
  | none => if cancelled then .cancelled else .pending

/-- No worker goes on with the task. -/
def AtRest (task : XmlRpcTask Object) : Prop :=
  task.isQueued = false ∧ task.isRunning = false

variable (runtime : SocketRuntime Object) (task : XmlRpcTask Object)

/-- What a worker resolves the future with, or has left it with. -/
def outcome : Option (Except Thrown Object) :=
  match task.phase with
  | .queued | .dropped => none
  | .running log _ =>
      if XMLRPCExecutor.tried log then
        XMLRPCExecutor.delivery runtime task.taskMessage (XMLRPCExecutor.replyOf log)
      else none
  | .ended log _ => XMLRPCExecutor.delivery runtime task.taskMessage (XMLRPCExecutor.replyOf log)

/-- The future that belongs to what has happened to the task. -/
def settled : Future Object Thrown :=
  futureOf task.cancelled (task.outcome runtime)

end XmlRpcTask

section Futures

variable (cancelled : Bool) (outcome other : Except Thrown Object)

theorem resolve_futureOf_some :
    (XmlRpcTask.futureOf cancelled (some outcome)).resolve other = none := by
  cases cancelled <;> rfl

theorem futureOf_some_ne_pending :
    XmlRpcTask.futureOf cancelled (some outcome) ≠ (.pending : Future Object Thrown) := by
  cases cancelled <;> simp [XmlRpcTask.futureOf]

theorem resolve_futureOf_none :
    (XmlRpcTask.futureOf cancelled none).resolve outcome =
      if cancelled then none else some (XmlRpcTask.futureOf cancelled (some outcome)) := by
  cases cancelled <;> rfl

end Futures

namespace XMLRPCExecutor

variable {runtime : SocketRuntime Object} {maxWorkers : Nat}
  {answers : Bytes → Except XmlRpcError Bytes → Prop}

/-! ## What a step does to a task -/

inductive TaskStep (runtime : SocketRuntime Object)
    (answers : Bytes → Except XmlRpcError Bytes → Prop) :
    XmlRpcTask Object → XmlRpcTask Object → Prop
  | stay {task} : TaskStep runtime answers task task
  | start {task} (queued : task.isQueued = true) :
      TaskStep runtime answers task
        { task with phase := .running [] (submitTask runtime task.taskMessage).run }
  | advance {task log} {command : XmlRpcCommand Object} {next} {reply : XmlRpcReply command}
      {future} (running : task.phase = .running log (.send command next))
      (ran : Executed answers task.future command reply future) :
      TaskStep runtime answers task
        { task with future, phase := .running (log ++ [⟨command, reply⟩]) (next reply) }
  | finish {task log result} (running : task.phase = .running log (.done result)) :
      TaskStep runtime answers task { task with phase := .ended log result }
  | cancel {task} : TaskStep runtime answers task (cancelTask task)
  | drop {task} (queued : task.isQueued = true) :
      TaskStep runtime answers task { task with phase := .dropped }

section Tasks

variable {tasks : List (XmlRpcTask Object)} {index : Nat} {task after : XmlRpcTask Object}

theorem taskStep_set (found : tasks[index]? = some task)
    (step : TaskStep runtime answers task after) {other : Nat} {before : XmlRpcTask Object}
    (there : tasks[other]? = some before) :
    ∃ now, (tasks.set index after)[other]? = some now ∧ TaskStep runtime answers before now := by
  rw [List.getElem?_set]
  by_cases same : index = other
  · cases same
    cases Option.some.inj (found.symm.trans there)
    rcases List.getElem?_eq_some_iff.mp found with ⟨bound, _⟩
    exact ⟨after, by rw [if_pos rfl, if_pos bound], step⟩
  · exact ⟨before, by rw [if_neg same, there], .stay⟩

end Tasks

section Steps

variable {executor after : XMLRPCExecutor Object} {index : Nat} {task : XmlRpcTask Object}

theorem WorkerStep.taskStep (step : WorkerStep runtime maxWorkers answers executor after)
    (found : executor.tasks[index]? = some task) :
    ∃ now, after.tasks[index]? = some now ∧ TaskStep runtime answers task now := by
  cases step with
  | start there queued _ _ => exact taskStep_set there (.start queued) found
  | advance there running ran => exact taskStep_set there (.advance running ran) found
  | finish there running => exact taskStep_set there (.finish running) found

theorem Step.taskStep (step : Step runtime maxWorkers answers executor after)
    (found : executor.tasks[index]? = some task) :
    ∃ now, after.tasks[index]? = some now ∧ TaskStep runtime answers task now := by
  cases step with
  | submit message _ =>
      rcases List.getElem?_eq_some_iff.mp found with ⟨bound, _⟩
      exact ⟨task, by rw [List.getElem?_append_left bound, found], .stay⟩
  | work step => exact step.taskStep found
  | cancel there => exact taskStep_set there .cancel found
  | shutdown cancelFutures =>
      cases cancelFutures with
      | false => exact ⟨task, found, .stay⟩
      | true =>
          refine ⟨dropQueued task, by simp [found], ?_⟩
          rw [dropQueued]
          cases queued : task.isQueued with
          | true => exact .drop queued
          | false => exact .stay

theorem WorkerStep.length (step : WorkerStep runtime maxWorkers answers executor after) :
    after.tasks.length = executor.tasks.length := by
  cases step <;> exact List.length_set

theorem Step.origin (step : Step runtime maxWorkers answers executor after)
    (found : after.tasks[index]? = some task) :
    (∃ before, executor.tasks[index]? = some before ∧ TaskStep runtime answers before task) ∨
      ∃ taskMessage, task = { taskMessage } := by
  have known : index < executor.tasks.length →
      ∃ before, executor.tasks[index]? = some before ∧ TaskStep runtime answers before task := by
    intro bound
    have there := List.getElem?_eq_getElem bound
    rcases step.taskStep there with ⟨now, same, moved⟩
    cases Option.some.inj (found.symm.trans same)
    exact ⟨_, there, moved⟩
  rcases List.getElem?_eq_some_iff.mp found with ⟨bound, value⟩
  cases step with
  | submit taskMessage _ =>
      rcases Nat.lt_or_ge index executor.tasks.length with old | new
      · exact .inl (known old)
      · rw [List.getElem_append_right new] at value
        rw [List.getElem_singleton] at value
        exact .inr ⟨taskMessage, value.symm⟩
  | work step => exact .inl (known (step.length ▸ bound))
  | cancel there => exact .inl (known (by simpa using bound))
  | shutdown cancelFutures => exact .inl (known (by cases cancelFutures <;> simpa using bound))

end Steps

/-! ## What every task keeps -/

/-- The manager has answered what was sent, and there is something to resolve the future with
before a worker tries to. -/
structure LogSound (runtime : SocketRuntime Object)
    (answers : Bytes → Except XmlRpcError Bytes → Prop) (taskMessage : Object)
    (log : List (XmlRpcInteraction Object)) : Prop where
  answered : ∀ data reply, ⟨.execute data, reply⟩ ∈ log →
    runtime.serializeObject taskMessage = .ok data ∧ answers data reply
  delivered : tried log = true → delivery runtime taskMessage (replyOf log) ≠ none

def PhaseSound (runtime : SocketRuntime Object)
    (answers : Bytes → Except XmlRpcError Bytes → Prop) (taskMessage : Object) :
    TaskPhase Object → Prop
  | .queued | .dropped => True
  | .running log routine =>
      routine.Keeps (workerContract runtime taskMessage)
        (fun log _ => Through runtime taskMessage log ∧ Asked runtime taskMessage log) log ∧
      log.length ≤ 4 ∧ routine.Within (4 - log.length) ∧
      LogSound runtime answers taskMessage log
  | .ended log _ => Asked runtime taskMessage log ∧ LogSound runtime answers taskMessage log

/-- The future says what has happened to the task, and the worker keeps to its contract. -/
structure TaskSound (runtime : SocketRuntime Object)
    (answers : Bytes → Except XmlRpcError Bytes → Prop) (task : XmlRpcTask Object) : Prop where
  future : task.future = task.settled runtime
  phase : PhaseSound runtime answers task.taskMessage task.phase

section Sound

variable {task after : XmlRpcTask Object} {taskMessage : Object}
  {log : List (XmlRpcInteraction Object)}

theorem phase_of_isQueued (queued : task.isQueued = true) : task.phase = .queued := by
  cases same : task.phase with
  | queued => rfl
  | running | ended | dropped => simp [XmlRpcTask.isQueued, same] at queued

theorem LogSound.nil : LogSound runtime answers taskMessage [] where
  answered := fun _ _ member => by cases member
  delivered := fun tried => by cases tried

theorem TaskSound.future_running (sound : TaskSound runtime answers task) {routine}
    (running : task.phase = .running log routine) :
    task.future = XmlRpcTask.futureOf task.cancelled
      (if tried log then delivery runtime task.taskMessage (replyOf log) else none) := by
  have same := sound.future
  rw [XmlRpcTask.settled, XmlRpcTask.outcome, running] at same
  exact same

theorem TaskSound.future_queued (sound : TaskSound runtime answers task)
    (queued : task.isQueued = true) :
    task.future = XmlRpcTask.futureOf task.cancelled none := by
  have same := sound.future
  rw [XmlRpcTask.settled, XmlRpcTask.outcome, phase_of_isQueued queued] at same
  exact same

theorem resolved_future {outcome : Except Thrown Object} {cancelled : Bool}
    {future : Future Object Thrown}
    (allowed : tried log = true ∨ delivery runtime taskMessage (replyOf log) = some outcome)
    (delivered : tried log = true → delivery runtime taskMessage (replyOf log) ≠ none)
    (before : future = XmlRpcTask.futureOf cancelled
      (if tried log then delivery runtime taskMessage (replyOf log) else none)) :
    delivery runtime taskMessage (replyOf log) ≠ none ∧
      (future.resolve outcome).getD future =
        XmlRpcTask.futureOf cancelled (delivery runtime taskMessage (replyOf log)) := by
  cases again : tried log with
  | true =>
      rw [again, if_pos rfl] at before
      have present := delivered again
      refine ⟨present, ?_⟩
      cases comes : delivery runtime taskMessage (replyOf log) with
      | none => exact absurd comes present
      | some earlier =>
          rw [before, comes, resolve_futureOf_some]
          rfl
  | false =>
      rw [again, if_neg Bool.false_ne_true] at before
      have comes : delivery runtime taskMessage (replyOf log) = some outcome :=
        allowed.resolve_left (by rw [again]; exact Bool.false_ne_true)
      rw [before, comes, resolve_futureOf_none]
      refine ⟨Option.some_ne_none outcome, ?_⟩
      cases cancelled <;> rfl

theorem Executed.resolve_eq {outcome : Except Thrown Object} {answer : Bool}
    {future resolved : Future Object Thrown}
    (ran : Executed answers future (.resolve outcome) answer resolved) :
    resolved = (future.resolve outcome).getD future := by
  cases ran with
  | resolve open_ => rw [open_, Option.getD_some]
  | invalid done => rw [done, Option.getD_none]

theorem TaskSound.advance {command : XmlRpcCommand Object} {next} {reply : XmlRpcReply command}
    {future : Future Object Thrown} (sound : TaskSound runtime answers task)
    (running : task.phase = .running log (.send command next))
    (ran : Executed answers task.future command reply future) :
    TaskSound runtime answers
      { task with future, phase := .running (log ++ [⟨command, reply⟩]) (next reply) } := by
  have same := sound.future_running running
  have ⟨keeps, length, within, logSound⟩ : PhaseSound runtime answers task.taskMessage
      (.running log (.send command next)) := running ▸ sound.phase
  have ⟨positive, shorter⟩ : 0 < 4 - log.length ∧
      ∀ reply, (next reply).Within (4 - log.length - 1) := within
  have longer : (log ++ [(⟨command, reply⟩ : XmlRpcInteraction Object)]).length =
      log.length + 1 := by
    rw [List.length_append, List.length_singleton]
  have grows : log.length + 1 ≤ 4 ∧ (next reply).Within (4 - (log.length + 1)) :=
    ⟨by omega, (shorter reply).mono (by omega)⟩
  rw [← longer] at grows
  cases command with
  | execute data =>
      have ⟨empty, serialized⟩ : log = [] ∧ runtime.serializeObject task.taskMessage = .ok data :=
        keeps.1
      cases empty
      cases ran with
      | execute answered =>
          exact ⟨same, keeps.2 reply trivial, grows.1, grows.2,
            ⟨fun other otherReply member => by
              cases List.mem_singleton.mp member
              exact ⟨serialized, answered⟩, fun tried => by cases tried⟩⟩
  | resolve outcome =>
      have ⟨present, settled⟩ := resolved_future keeps.1 logSound.delivered same
      refine ⟨?_, keeps.2 reply trivial, grows.1, grows.2, ⟨?_, ?_⟩⟩
      · rw [XmlRpcTask.settled, XmlRpcTask.outcome]
        simp only [tried_resolve, replyOf_resolve]
        exact ran.resolve_eq.trans settled
      · intro data other member
        rcases List.mem_append.mp member with member | member
        · exact logSound.answered data other member
        · cases List.mem_singleton.mp member
      · rw [replyOf_resolve]
        exact fun _ => present

theorem TaskSound.step (sound : TaskSound runtime answers task)
    (step : TaskStep runtime answers task after) : TaskSound runtime answers after := by
  cases step with
  | stay => exact sound
  | start queued =>
      exact ⟨sound.future_queued queued, keeps_submitTask, Nat.zero_le 4, within_submitTask, .nil⟩
  | advance running ran => exact sound.advance running ran
  | @finish log result running =>
      have ⟨⟨through, asked⟩, _, _, logSound⟩ : PhaseSound runtime answers task.taskMessage
        (.running log (.done result)) := running ▸ sound.phase
      have same : (if tried log then delivery runtime task.taskMessage (replyOf log) else none) =
          delivery runtime task.taskMessage (replyOf log) := by
        rcases through with again | nothing
        · exact if_pos again
        · rw [nothing, ite_self]
      exact ⟨(sound.future_running running).trans (congrArg _ same), asked, logSound⟩
  | cancel =>
      rw [cancelTask]
      split
      · rename_i pending
        have same := sound.future
        refine ⟨?_, sound.phase⟩
        have none : task.outcome runtime = none := by
          rw [pending, XmlRpcTask.settled] at same
          cases comes : task.outcome runtime with
          | none => rfl
          | some outcome =>
              rw [comes] at same
              exact absurd same.symm (futureOf_some_ne_pending task.cancelled outcome)
        have kept : ({ task with future := .cancelled, cancelled := true } :
            XmlRpcTask Object).outcome runtime = task.outcome runtime := rfl
        rw [XmlRpcTask.settled, kept, none]
        rfl
      all_goals exact sound
  | drop queued => exact ⟨sound.future_queued queued, trivial⟩

end Sound

/-! ## Runs -/

section Runs

variable {executor later after : XMLRPCExecutor Object} {index : Nat} {task : XmlRpcTask Object}

theorem sound_of_reachable (reachable : Reachable runtime maxWorkers answers executor)
    (found : executor.tasks[index]? = some task) : TaskSound runtime answers task := by
  induction reachable generalizing index task with
  | refl => cases found
  | tail _ step induction =>
      rcases step.origin found with ⟨before, there, moved⟩ | ⟨taskMessage, fresh⟩
      · exact (induction there).step moved
      · cases fresh
        exact ⟨rfl, trivial⟩

theorem TaskStep.atRest {now : XmlRpcTask Object} (step : TaskStep runtime answers task now)
    (atRest : task.AtRest) :
    now.taskMessage = task.taskMessage ∧ now.phase = task.phase := by
  cases step with
  | stay => exact ⟨rfl, rfl⟩
  | start queued | drop queued =>
      rw [atRest.1] at queued
      cases queued
  | advance running ran =>
      have moving := atRest.2
      rw [XmlRpcTask.isRunning, running] at moving
      cases moving
  | finish running =>
      have moving := atRest.2
      rw [XmlRpcTask.isRunning, running] at moving
      cases moving
  | cancel =>
      rw [cancelTask]
      split
      · exact ⟨rfl, rfl⟩
      all_goals exact ⟨rfl, rfl⟩

theorem atRest_of_phase {now : XmlRpcTask Object} (same : now.phase = task.phase)
    (atRest : task.AtRest) : now.AtRest := by
  rw [XmlRpcTask.AtRest, XmlRpcTask.isQueued, XmlRpcTask.isRunning] at atRest ⊢
  rw [same]
  exact atRest

/-- A task that has ended, or that the pool has taken back, keeps what has come of it in every
continuation of the run: its future holds what the manager has sent for it, or stays open for
ever. -/
theorem settled_for_ever (reachable : Reachable runtime maxWorkers answers executor)
    (found : executor.tasks[index]? = some task) (atRest : task.AtRest)
    (onward : Run runtime maxWorkers answers executor later) :
    ∃ now, later.tasks[index]? = some now ∧ now.taskMessage = task.taskMessage ∧
      now.phase = task.phase ∧ now.future = now.settled runtime := by
  induction onward with
  | refl => exact ⟨task, found, rfl, rfl, (sound_of_reachable reachable found).future⟩
  | tail earlier step induction =>
      rcases induction with ⟨now, there, message, phase, _⟩
      rcases step.taskStep there with ⟨next, onward, moved⟩
      have ⟨sameMessage, samePhase⟩ := moved.atRest (atRest_of_phase phase atRest)
      have sound := sound_of_reachable ((reachable.trans earlier).tail step) onward
      exact ⟨next, onward, sameMessage.trans message, samePhase.trans phase, sound.future⟩

/-- A call that a shutdown has taken back stays open when its owner does not cancel it. -/
theorem settled_for_ever_dropped :
    ∃ executor task, Reachable wireRuntime 1 (fun _ _ => True) executor ∧
      executor.tasks[0]? = some task ∧ task.phase = .dropped ∧ task.future = .pending ∧
      ∀ later, Run wireRuntime 1 (fun _ _ => True) executor later →
        ∃ now, later.tasks[0]? = some now ∧ now.taskMessage = task.taskMessage ∧
          now.phase = task.phase ∧ now.future = now.settled wireRuntime := by
  have submitted : Reachable wireRuntime 1 (fun _ _ => True)
      { tasks := [{ taskMessage := WireObject.task 7 }] } :=
    .single (.submit (WireObject.task 7) rfl)
  have dropped := submitted.tail (.shutdown true)
  exact ⟨_, _, dropped, rfl, rfl, rfl, fun _ onward =>
    settled_for_ever dropped rfl ⟨rfl, rfl⟩ onward⟩

end Runs

/-! ## The workers come to rest -/

/-- The steps that workers can still make for a task. -/
def remaining (task : XmlRpcTask Object) : Nat :=
  match task.phase with
  | .queued => 6
  | .running log _ => 5 - log.length
  | .ended _ _ | .dropped => 0

def work (executor : XMLRPCExecutor Object) : Nat :=
  (executor.tasks.map remaining).sum

section Work

variable {executor later after : XMLRPCExecutor Object} {index : Nat}
  {task next : XmlRpcTask Object}

theorem sum_set_lt {tasks : List (XmlRpcTask Object)} (found : tasks[index]? = some task)
    (less : remaining next < remaining task) :
    ((tasks.set index next).map remaining).sum < (tasks.map remaining).sum := by
  induction tasks generalizing index with
  | nil => cases found
  | cons head tail induction =>
      cases index with
      | zero =>
          cases found
          simpa using less
      | succ index => simpa using induction found

theorem work_lt (sound : ∀ (index : Nat) task, executor.tasks[index]? = some task →
      TaskSound runtime answers task)
    (step : WorkerStep runtime maxWorkers answers executor after) :
    work after < work executor := by
  cases step with
  | start found queued _ _ =>
      apply sum_set_lt found
      rw [remaining, remaining, phase_of_isQueued queued]
      exact Nat.lt_succ_self 5
  | @advance index task log command next reply future found running ran =>
      apply sum_set_lt found
      have ⟨_, _, ⟨positive, _⟩, _⟩ : PhaseSound runtime answers task.taskMessage
        (.running log (.send command next)) := running ▸ (sound index task found).phase
      rw [remaining, remaining, running]
      simp only [List.length_append, List.length_singleton]
      omega
  | @finish index task log result found running =>
      apply sum_set_lt found
      have ⟨_, length, _⟩ : PhaseSound runtime answers task.taskMessage
        (.running log (.done result)) := running ▸ (sound index task found).phase
      rw [remaining, remaining, running]
      simp only
      omega

theorem exists_of_isRunning (answered : ∀ data, ∃ reply, answers data reply)
    (found : executor.tasks[index]? = some task) (running : task.isRunning = true) :
    ∃ after, WorkerStep runtime maxWorkers answers executor after := by
  cases phase : task.phase with
  | queued | dropped | ended => simp [XmlRpcTask.isRunning, phase] at running
  | running log routine =>
      cases routine with
      | done result => exact ⟨_, .finish found phase⟩
      | send command next =>
          cases command with
          | execute data =>
              rcases answered data with ⟨reply, answer⟩
              exact ⟨_, .advance found phase (.execute answer)⟩
          | resolve outcome =>
              cases resolved : task.future.resolve outcome with
              | none => exact ⟨_, .advance found phase (.invalid resolved)⟩
              | some future => exact ⟨_, .advance found phase (.resolve resolved)⟩

theorem exists_of_isQueued (workers : 0 < maxWorkers)
    (idle : ∀ (index : Nat) task, executor.tasks[index]? = some task → task.isRunning = false)
    (found : executor.tasks[index]? = some task) (queued : task.isQueued = true) :
    ∃ after, WorkerStep runtime maxWorkers answers executor after := by
  have some : ∃ index, ∃ task : XmlRpcTask Object,
      executor.tasks[index]? = some task ∧ task.isQueued = true :=
    ⟨index, task, found, queued⟩
  classical
  rcases Nat.find_spec some with ⟨first, there, queued⟩
  have free : executor.tasks.countP XmlRpcTask.isRunning = 0 := by
    rw [List.countP_eq_zero]
    intro member among
    rcases List.getElem?_of_mem among with ⟨position, same⟩
    rw [idle position member same]
    exact Bool.false_ne_true
  refine ⟨_, .start there queued ?_ (free ▸ workers)⟩
  intro other earlier same early
  exact Nat.find_min' some ⟨earlier, same, early⟩

/-- From every state of a run, whatever the workers do comes to an end, and then each task has
ended or was taken back by the pool, and its future is what belongs to that. -/
theorem workers_come_to_rest (workers : 0 < maxWorkers)
    (answered : ∀ data, ∃ reply, answers data reply)
    (reachable : Reachable runtime maxWorkers answers executor) :
    Acc (fun after before => WorkerStep runtime maxWorkers answers before after) executor ∧
      ∀ later, Relation.ReflTransGen (WorkerStep runtime maxWorkers answers) executor later →
        (∀ after, ¬ WorkerStep runtime maxWorkers answers later after) →
        ∀ task ∈ later.tasks, task.AtRest ∧ task.future = task.settled runtime := by
  constructor
  · induction amount : work executor using Nat.strongRecOn generalizing executor with
    | ind amount induction =>
        constructor
        intro after step
        have less := work_lt (fun _ _ => sound_of_reachable reachable) step
        exact induction (work after) (amount ▸ less) (reachable.tail (.work step)) rfl
  · intro later onward rest task member
    have reached : Reachable runtime maxWorkers answers later :=
      reachable.trans (Relation.ReflTransGen.mono (fun _ _ => .work) _ _ onward)
    rcases List.getElem?_of_mem member with ⟨index, found⟩
    have idle : ∀ (index : Nat) task, later.tasks[index]? = some task →
        task.isRunning = false := by
      intro index task found
      cases running : task.isRunning with
      | false => rfl
      | true =>
          rcases exists_of_isRunning answered found running with ⟨after, step⟩
          exact absurd step (rest after)
    refine ⟨⟨?_, idle index task found⟩, (sound_of_reachable reached found).future⟩
    cases queued : task.isQueued with
    | false => rfl
    | true =>
        rcases exists_of_isQueued workers idle found queued with ⟨after, step⟩
        exact absurd step (rest after)

/-- Two tasks are waiting. -/
def waitingExecutor : XMLRPCExecutor WireObject :=
  { tasks := [{ taskMessage := .task 7 }, { taskMessage := .task 8 }] }

/-- A single worker ends both tasks, whatever the manager answers. -/
theorem workers_come_to_rest_waiting :
    Acc (fun after before => WorkerStep wireRuntime 1 (fun _ _ => True) before after)
        waitingExecutor ∧
      ∀ later, Relation.ReflTransGen (WorkerStep wireRuntime 1 (fun _ _ => True))
          waitingExecutor later →
        (∀ after, ¬ WorkerStep wireRuntime 1 (fun _ _ => True) later after) →
        ∀ task ∈ later.tasks, task.AtRest ∧ task.future = task.settled wireRuntime := by
  have submitted : Reachable wireRuntime 1 (fun _ _ => True) waitingExecutor :=
    (Relation.ReflTransGen.single (.submit (WireObject.task 7) rfl)).tail
      (.submit (WireObject.task 8) rfl)
  exact workers_come_to_rest Nat.one_pos (fun _ => ⟨.ok [], trivial⟩) submitted

end Work

end XMLRPCExecutor

end EventPipeline
