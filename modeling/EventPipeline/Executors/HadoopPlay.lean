import EventPipeline.Executors.HadoopExecutor

/-! # Playing a schedule

A cluster that answers by functions, and a list of moves that says which thread goes on next. What
is played is a run of the executor.
-/

namespace EventPipeline

deriving instance DecidableEq for Future

variable {Object Error : Type}

/-- What the cluster and its file system answer. -/
structure Cluster (Object Error : Type) where
  isConnected : Bool := true
  connect : Except Error Bool := .ok true
  submitJob : JobConfig Object → Except Error JobId
  getOutputPath : JobId → Except Error String
  getJobStatus : JobId → Except Error String
  killJob : JobId → Except Error Bool := fun _ => .ok true
  pathExists : String → Except Error Bool := fun _ => .ok true
  ls : String → Except Error (List String) := fun _ => .ok []
  load : String → Except Error Object

/-- The cluster answers what it is asked, and the state the rest. -/
def Cluster.reply (cluster : Cluster Object Error) (state : HadoopState Object Error) :
    (command : HadoopCommand Object Error) → HadoopReply command
  | .isConnected => cluster.isConnected
  | .connect => cluster.connect
  | .submitJob config => cluster.submitJob config
  | .getOutputPath job => cluster.getOutputPath job
  | .getJobStatus job => cluster.getJobStatus job
  | .killJob job => cluster.killJob job
  | .pathExists path => cluster.pathExists path
  | .ls path => cluster.ls path
  | .load path => cluster.load path
  | .jobInfo job => state.jobResults job
  | .isShutdown => state.shutdown
  | .jobOf future => OrderedDict.get future state.jobs
  | .jobs => state.jobs
  | .newFuture => state.futures.size
  | .isDone future => state.isDone future
  | .isCancelled future => state.isCancelled future
  | .setResult future result => (state.resolve future (.ok result)).2
  | .setException future error => (state.resolve future (.error error)).2
  | .disconnect | .trackJob _ _ | .setStatus _ _ | .setError _ _ | .setShutdown | .setJob _ _
  | .cancelFuture _ | .awaitResult _ => ()

/-- The jobs of a pass that has come to its end. -/
def Poller.passed? : Poller Object Error → Option (List (FutureId × JobId))
  | .passing entries _ (.done (.ok _)) => some entries
  | .passing _ _ (.done (.error _)) | .passing _ _ (.send _ _) => none
  | .testing | .locking | .ended => none

theorem Poller.eq_of_passed {poller : Poller Object Error} {entries : List (FutureId × JobId)}
    (passed : poller.passed? = some entries) :
    ∃ log, poller = .passing entries log (.done (.ok ())) := by
  rw [passed?.eq_def] at passed
  split at passed <;> cases passed
  exact ⟨_, rfl⟩

def Poller.hasEnded : Poller Object Error → Bool
  | .ended => true
  | .testing | .locking | .passing _ _ _ => false

theorem Poller.eq_of_hasEnded {poller : Poller Object Error} (ended : poller.hasEnded = true) :
    poller = .ended := by
  cases poller with
  | ended => rfl
  | testing | locking | passing => cases ended

def HadoopCall.isWaiting : HadoopCall Object → Bool
  | .shutdown wait => wait
  | .submit _ _ _ | .submitBatch _ _ | .cancel _ => false

theorem HadoopCall.eq_of_isWaiting {call : HadoopCall Object} (waiting : call.isWaiting = true) :
    call = .shutdown true := by
  cases call with
  | shutdown wait => exact congrArg HadoopCall.shutdown waiting
  | submit | submitBatch | cancel => cases waiting

namespace HadoopExecutor

/-- Who goes on. -/
inductive Move (Object : Type)
  | call (call : HadoopCall Object)
  | advance
  | finish
  | test
  | copy
  | poll
  | sleep
  | cancel (future : FutureId)

variable (str : HadoopError Error → String) (cluster : Cluster Object Error)

def move (executor : HadoopExecutor Object Error) :
    Move Object → Option (HadoopExecutor Object Error)
  | .call call =>
      match executor.running with
      | none => some { executor with running := some { call, routine := call.attempt.run } }
      | some _ => none
  | .advance =>
      match executor.running with
      | some ⟨call, log, .send command next⟩ =>
          let reply := cluster.reply executor.state command
          (executor.state.exec command reply).map fun state =>
            { executor with
              state
              running := some ⟨call, log ++ [⟨command, reply⟩], next reply⟩ }
      | some ⟨_, _, .done _⟩ | none => none
  | .finish =>
      match executor.running with
      | some ⟨call, _, .done result⟩ =>
          some { executor with
            running := none
            returned := executor.returned ++ [⟨call, result⟩] }
      | some ⟨_, _, .send _ _⟩ | none => none
  | .test =>
      match executor.poller with
      | .testing =>
          some { executor with poller := if executor.state.shutdown then .ended else .locking }
      | .locking | .passing _ _ _ | .ended => none
  | .copy =>
      match executor.poller, executor.running with
      | .locking, none =>
          some { executor with
            poller :=
              if executor.state.jobs = [] then .testing
              else .passing executor.state.jobs []
                (Hadoop.pollJobs str executor.state.jobs).run }
      | .locking, some _ | .testing, _ | .passing _ _ _, _ | .ended, _ => none
  | .poll =>
      match executor.poller with
      | .passing entries log (.send command next) =>
          let reply := cluster.reply executor.state command
          (executor.state.exec command reply).map fun state =>
            { executor with
              state
              poller := .passing entries (log ++ [⟨command, reply⟩]) (next reply) }
      | .passing _ _ (.done _) | .testing | .locking | .ended => none
  | .sleep =>
      match executor.poller with
      | .passing _ log (.done _) =>
          some { executor with poller := .testing, pollerLog := executor.pollerLog ++ log }
      | .passing _ _ (.send _ _) | .testing | .locking | .ended => none
  | .cancel future =>
      if future ∈ executor.handedOut then
        some { executor with
          state :=
            { executor.state with
              futures := executor.state.futures.modify future Future.cancel } }
      else none

def play : List (Move Object) → HadoopExecutor Object Error → Option (HadoopExecutor Object Error)
  | [], executor => some executor
  | next :: moves, executor => (executor.move str cluster next).bind (play moves)

variable {str cluster} {executor after : HadoopExecutor Object Error}

theorem step_of_move {next : Move Object} (moved : executor.move str cluster next = some after) :
    ∃ cancelled, Step str executor cancelled after ∧
      ∀ future, cancelled = some future → next = .cancel future := by
  cases next with
  | call call =>
      rw [move] at moved
      split at moved <;> cases moved
      rename_i free
      exact ⟨none, .call call free, by rintro _ ⟨⟩⟩
  | advance =>
      rw [move] at moved
      split at moved
      · rename_i running
        rcases Option.map_eq_some_iff.mp moved with ⟨state, ran, rfl⟩
        exact ⟨none, .advance running ran, by rintro _ ⟨⟩⟩
      · cases moved
      · cases moved
  | finish =>
      rw [move] at moved
      split at moved <;> cases moved
      rename_i running
      exact ⟨none, .finish running, by rintro _ ⟨⟩⟩
  | test =>
      rw [move] at moved
      split at moved <;> cases moved
      rename_i testing
      exact ⟨none, .test testing, by rintro _ ⟨⟩⟩
  | copy =>
      rw [move] at moved
      split at moved <;> cases moved
      rename_i locking free
      exact ⟨none, .copy locking free, by rintro _ ⟨⟩⟩
  | poll =>
      rw [move] at moved
      split at moved
      · rename_i passing
        rcases Option.map_eq_some_iff.mp moved with ⟨state, ran, rfl⟩
        exact ⟨none, .poll passing ran, by rintro _ ⟨⟩⟩
      all_goals cases moved
  | sleep =>
      rw [move] at moved
      split at moved <;> cases moved
      rename_i passing
      exact ⟨none, .sleep passing, by rintro _ ⟨⟩⟩
  | cancel future =>
      rw [move] at moved
      split at moved <;> cases moved
      rename_i handed
      exact ⟨some future, .cancel future handed, by rintro _ ⟨⟩; rfl⟩

theorem run_of_play {kept : FutureId → Prop} {first : HadoopExecutor Object Error}
    {moves : List (Move Object)} (before : Run str kept first executor)
    (keeps : ∀ future, kept future → Move.cancel future ∉ moves)
    (played : play str cluster moves executor = some after) : Run str kept first after := by
  induction moves generalizing executor with
  | nil =>
      cases played
      exact before
  | cons next moves induction =>
      rcases Option.bind_eq_some_iff.mp played with ⟨middle, moved, rest⟩
      rcases step_of_move moved with ⟨cancelled, step, onlyThat⟩
      refine induction (before.tail step ?_) ?_ rest
      · rintro future rfl kept
        rw [onlyThat future rfl] at keeps
        exact keeps future kept List.mem_cons_self
      · intro future kept member
        exact keeps future kept (List.mem_cons_of_mem _ member)

theorem reachable_of_play {moves : List (Move Object)}
    (played : play str cluster moves {} = some executor) : Reachable str executor :=
  run_of_play .refl (by rintro _ ⟨⟩) played

theorem exists_of_play {moves : List (Move Object)} {Seen : Type}
    {look : HadoopExecutor Object Error → Seen} {seen : Seen}
    (played : (play str cluster moves {}).map look = some seen) :
    ∃ executor, Reachable str executor ∧ look executor = seen := by
  rcases Option.map_eq_some_iff.mp played with ⟨executor, played, same⟩
  exact ⟨executor, reachable_of_play played, same⟩

end HadoopExecutor

end EventPipeline
