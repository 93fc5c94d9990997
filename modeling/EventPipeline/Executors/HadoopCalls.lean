import EventPipeline.Executors.HadoopSound

/-! # What the methods of the executor do

Every future that `submit` and `submit_batch` return has a job, or has failed. A call of `shutdown`
that waits has waited for every future with a job.
-/

namespace EventPipeline

namespace Hadoop

open Routine

variable {Object Error : Type}

section Facts

variable (log : List (HadoopExchange Object Error))

def Tracked (job : JobId) : Prop :=
  ∃ outputPath, ⟨.trackJob job outputPath, ()⟩ ∈ log

def Assigned (future : FutureId) : Prop :=
  ∃ job, ⟨.setJob future job, ()⟩ ∈ log

def Failed (future : FutureId) : Prop :=
  ∃ error answer, ⟨.setException future error, answer⟩ ∈ log

/-- The future was made by the call, and nothing has been done with it. -/
structure Fresh (future : FutureId) : Prop where
  made : ⟨.newFuture, future⟩ ∈ log
  unassigned : ¬ Assigned log future
  unfailed : ¬ Failed log future

def Copied : Prop :=
  ∃ entries, ⟨.jobs, entries⟩ ∈ log

end Facts

/-- A method tracks the jobs that the cluster has given to it, and does with a future that it has
made one thing. It counts on the ids of jobs and of futures to be new. -/
def callContract : Contract (@HadoopReply Object Error) where
  allows log
    | .trackJob job _ => (∃ config, ⟨.submitJob config, .ok job⟩ ∈ log) ∧ ¬ Tracked log job
    | .setJob future job => Fresh log future ∧ Tracked log job ∧ ¬ Copied log
    | .setException future _ => Fresh log future
    | .setStatus _ status => status = .cancelled
    | .isConnected | .connect | .disconnect | .submitJob _ | .getOutputPath _ | .killJob _
    | .jobInfo _ | .isShutdown | .setShutdown | .jobOf _ | .jobs | .newFuture
    | .awaitResult _ => True
    | .getJobStatus _ | .pathExists _ | .ls _ | .load _ | .setError _ _ | .isDone _
    | .isCancelled _ | .cancelFuture _ | .setResult _ _ => False
  relies log
    | ⟨.submitJob _, .ok job⟩ => ¬ Tracked log job
    | ⟨.newFuture, future⟩ => ¬ Assigned log future ∧ ¬ Failed log future
    | ⟨.setException future _, answer⟩ => Fresh log future → answer = true
    | _ => True

section Calls

variable {log : List (HadoopExchange Object Error)} {future : FutureId}

/-- What a method does that leaves its futures alone. -/
structure Untouched (before log : List (HadoopExchange Object Error)) : Prop where
  late : before <+: log
  fresh : ∀ future, Fresh before future → Fresh log future
  copied : Copied log → Copied before

theorem Untouched.refl : Untouched log log :=
  ⟨List.prefix_rfl, fun _ => id, id⟩

theorem Untouched.append {before : List (HadoopExchange Object Error)}
    (untouched : Untouched before log) {exchange : HadoopExchange Object Error}
    (assigns : ∀ future job, exchange ≠ ⟨.setJob future job, ()⟩)
    (fails : ∀ future error answer, exchange ≠ ⟨.setException future error, answer⟩)
    (copies : ∀ entries, exchange ≠ ⟨.jobs, entries⟩) : Untouched before (log ++ [exchange]) where
  late := untouched.late.trans (List.prefix_append _ _)
  fresh future old := by
    have fresh := untouched.fresh future old
    refine ⟨List.mem_append_left _ fresh.made, ?_, ?_⟩
    · rintro ⟨job, member⟩
      rcases List.mem_append.mp member with early | new
      · exact fresh.unassigned ⟨job, early⟩
      · exact assigns future job (List.mem_singleton.mp new).symm
    · rintro ⟨error, answer, member⟩
      rcases List.mem_append.mp member with early | new
      · exact fresh.unfailed ⟨error, answer, early⟩
      · exact fails future error answer (List.mem_singleton.mp new).symm
  copied := by
    rintro ⟨entries, member⟩
    rcases List.mem_append.mp member with early | new
    · exact untouched.copied ⟨entries, early⟩
    · exact absurd (List.mem_singleton.mp new).symm (copies entries)

theorem keeps_ensureConnected :
    (ensureConnected : HadoopAttempt Object Error Unit).run.Keeps callContract
      (fun after _ => Untouched log after) log := by
  rw [ensureConnected]
  refine Fallible.keeps_ask_bind trivial ?_
  intro connected _
  have asked : Untouched log (log ++ [⟨.isConnected, connected⟩]) :=
    Untouched.refl.append (by rintro _ _ ⟨⟩) (by rintro _ _ _ ⟨⟩) (by rintro _ ⟨⟩)
  cases connected with
  | true => exact asked
  | false =>
      refine Fallible.keeps_ask_bind trivial ?_
      intro reply _
      have tried : Untouched log (log ++ [⟨.isConnected, false⟩] ++ [⟨.connect, reply⟩]) :=
        asked.append (by rintro _ _ ⟨⟩) (by rintro _ _ _ ⟨⟩) (by rintro _ ⟨⟩)
      rcases reply with error | connected
      · exact tried
      · cases connected with
        | true => exact tried
        | false => exact tried

theorem keeps_submitJob (config : JobConfig Object) :
    (submitJob config : HadoopAttempt Object Error JobId).run.Keeps callContract
      (fun after result => Untouched log after ∧ ∀ job, result = .ok job → Tracked after job)
      log := by
  rw [submitJob]
  refine Fallible.keeps_bind keeps_ensureConnected ?_ ?_
  · intro middle _ untouched
    refine Fallible.keeps_ask_bind trivial ?_
    intro submitted relied
    have sent : Untouched log (middle ++ [⟨.submitJob config, submitted⟩]) :=
      untouched.append (by rintro _ _ ⟨⟩) (by rintro _ _ _ ⟨⟩) (by rintro _ ⟨⟩)
    rcases submitted with error | job
    · exact ⟨sent, by rintro _ ⟨⟩⟩
    refine Fallible.keeps_ask_bind trivial ?_
    intro path _
    have asked : Untouched log (middle ++ [⟨.submitJob config, .ok job⟩] ++
        [⟨.getOutputPath job, path⟩]) :=
      sent.append (by rintro _ _ ⟨⟩) (by rintro _ _ _ ⟨⟩) (by rintro _ ⟨⟩)
    rcases path with error | outputPath
    · exact ⟨asked, by rintro _ ⟨⟩⟩
    refine Fallible.keeps_ask_bind ⟨⟨config, by simp⟩, ?_⟩ ?_
    · rintro ⟨other, member⟩
      refine relied ⟨other, ?_⟩
      simpa using member
    · intro _ _
      refine ⟨asked.append (by rintro _ _ ⟨⟩) (by rintro _ _ _ ⟨⟩) (by rintro _ ⟨⟩), ?_⟩
      rintro _ ⟨⟩
      exact ⟨outputPath, List.mem_append_right _ (List.mem_singleton_self _)⟩
  · intro after error untouched
    exact ⟨untouched, by rintro _ ⟨⟩⟩

/-- What has become of a future that a method has made. -/
def Accounted (log : List (HadoopExchange Object Error)) (future : FutureId) : Prop :=
  Assigned log future ∨ ∃ error, ⟨.setException future error, true⟩ ∈ log

theorem Accounted.later {before : List (HadoopExchange Object Error)}
    (accounted : Accounted before future) (late : before <+: log) : Accounted log future := by
  rcases accounted with ⟨job, member⟩ | ⟨error, member⟩
  · exact .inl ⟨job, late.subset member⟩
  · exact .inr ⟨error, late.subset member⟩

theorem keeps_submitFor (config : JobConfig Object) (fresh : Fresh log future)
    (uncopied : ¬ Copied log) :
    (submitFor future config : HadoopAttempt Object Error Unit).run.Keeps callContract
      (fun after result => result = .ok () ∧ log <+: after ∧ ¬ Copied after ∧
        Accounted after future) log := by
  have tried : (do
      let job ← submitJob config
      ask (.setJob future job) : HadoopAttempt Object Error Unit).run.Keeps callContract
      (fun after result => log <+: after ∧ ¬ Copied after ∧
        (result = .ok () ∧ Assigned after future ∨ Fresh after future ∧ result ≠ .ok ())) log := by
    refine Fallible.keeps_bind (keeps_submitJob config) ?_ ?_
    · rintro middle job ⟨untouched, tracked⟩
      have uncopied : ¬ Copied middle := fun copied => uncopied (untouched.copied copied)
      refine ⟨⟨untouched.fresh future fresh, tracked job rfl, uncopied⟩, ?_⟩
      intro _ _
      refine ⟨untouched.late.trans (List.prefix_append _ _), ?_, .inl ⟨rfl, job, by simp⟩⟩
      rintro ⟨entries, member⟩
      exact uncopied ⟨entries, by simpa using member⟩
    · rintro middle error ⟨untouched, -⟩
      exact ⟨untouched.late, fun copied => uncopied (untouched.copied copied),
        .inr ⟨untouched.fresh future fresh, by rintro ⟨⟩⟩⟩
  rw [submitFor]
  refine Fallible.keeps_tryCatch tried ?_ ?_
  · rintro after value ⟨late, uncopied, ⟨-, assigned⟩ | ⟨-, raised⟩⟩
    · exact ⟨rfl, late, uncopied, .inl assigned⟩
    · exact absurd rfl raised
  · rintro middle error ⟨late, uncopied, ⟨⟨⟩, -⟩ | ⟨fresh, -⟩⟩
    refine Fallible.keeps_ask_bind fresh ?_
    intro answer relied
    obtain rfl : answer = true := relied fresh
    refine ⟨rfl, late.trans (List.prefix_append _ _), ?_, .inr ⟨error, by simp⟩⟩
    rintro ⟨entries, member⟩
    exact uncopied ⟨entries, by simpa using member⟩

/-- The exceptions that the methods themselves raise. -/
def Refusal (error : HadoopError Error) : Prop :=
  ∃ message, error = .runtimeError message ∨ error = .typeError message

theorem keeps_checkOpen :
    (checkOpen : HadoopAttempt Object Error Unit).run.Keeps callContract
      (fun after result => Untouched log after ∧
        ∀ error, result = .error error → Refusal error) log := by
  rw [checkOpen]
  refine Fallible.keeps_ask_bind trivial ?_
  intro down _
  have asked : Untouched log (log ++ [⟨.isShutdown, down⟩]) :=
    Untouched.refl.append (by rintro _ _ ⟨⟩) (by rintro _ _ _ ⟨⟩) (by rintro _ ⟨⟩)
  cases down with
  | true =>
      refine ⟨asked, ?_⟩
      rintro _ ⟨⟩
      exact ⟨_, .inl rfl⟩
  | false => exact ⟨asked, by rintro _ ⟨⟩⟩

theorem keeps_newFuture {Result : Type} (config : JobConfig Object) (uncopied : ¬ Copied log)
    {rest : FutureId → HadoopAttempt Object Error Result}
    {ends : List (HadoopExchange Object Error) → Except (HadoopError Error) Result → Prop}
    (goesOn : ∀ future after, log <+: after → ¬ Copied after → Accounted after future →
      (rest future).run.Keeps callContract ends after) :
    (do
      let future ← ask .newFuture
      submitFor future config
      rest future : HadoopAttempt Object Error Result).run.Keeps callContract ends log := by
  refine Fallible.keeps_ask_bind trivial ?_
  intro future relied
  have fresh : Fresh (log ++ [⟨.newFuture, future⟩]) future := by
    refine ⟨by simp, ?_, ?_⟩
    · rintro ⟨job, member⟩
      exact relied.1 ⟨job, by simpa using member⟩
    · rintro ⟨error, answer, member⟩
      exact relied.2 ⟨error, answer, by simpa using member⟩
  have made : ¬ Copied (log ++ [⟨.newFuture, future⟩]) := by
    rintro ⟨entries, member⟩
    exact uncopied ⟨entries, by simpa using member⟩
  refine Fallible.keeps_bind (keeps_submitFor config fresh made) ?_ ?_
  · rintro after _ ⟨-, late, uncopied, accounted⟩
    exact goesOn future after ((List.prefix_append _ _).trans late) uncopied accounted
  · rintro after error ⟨⟨⟩, -⟩

/-- How a method that makes futures ends. -/
def FuturesReturned (log : List (HadoopExchange Object Error))
    (result : Except (HadoopError Error) (List FutureId)) : Prop :=
  (∀ futures, result = .ok futures → ∀ future ∈ futures, Accounted log future) ∧
    ∀ error, result = .error error → Refusal error

theorem keeps_submit (fn : HadoopFunction Object) (args : List Object)
    (kwargs : List (String × Object)) (uncopied : ¬ Copied log) :
    (submit fn args kwargs : HadoopAttempt Object Error FutureId).run.Keeps callContract
      (fun after result => FuturesReturned after (result.map fun future => [future])) log := by
  rw [submit]
  refine Fallible.keeps_bind keeps_checkOpen ?_ ?_
  · rintro middle _ ⟨untouched, -⟩
    have uncopied : ¬ Copied middle := fun copied => uncopied (untouched.copied copied)
    cases isEvent : fn.isEvent with
    | false =>
        refine ⟨by rintro _ ⟨⟩, ?_⟩
        rintro _ ⟨⟩
        exact ⟨_, .inr rfl⟩
    | true =>
        refine keeps_newFuture _ uncopied ?_
        intro future after _ _ accounted
        refine ⟨?_, by rintro _ ⟨⟩⟩
        rintro _ ⟨⟩ other member
        rw [List.mem_singleton.mp member]
        exact accounted
  · rintro after error ⟨-, refused⟩
    refine ⟨by rintro _ ⟨⟩, ?_⟩
    rintro _ ⟨⟩
    exact refused error rfl

theorem keeps_submitAll (argsList : List (BatchArguments Object)) (index : Nat)
    (fns : List (HadoopFunction Object)) (uncopied : ¬ Copied log) :
    (submitAll argsList index fns : HadoopAttempt Object Error (List FutureId)).run.Keeps
      callContract (fun after result => log <+: after ∧ FuturesReturned after result) log := by
  induction fns generalizing index log with
  | nil =>
      refine ⟨List.prefix_rfl, ?_, by rintro _ ⟨⟩⟩
      rintro _ ⟨⟩ _ ⟨⟩
  | cons fn fns induction =>
      rw [submitAll]
      refine keeps_newFuture _ uncopied ?_
      intro future middle late uncopied accounted
      refine Fallible.keeps_bind (induction (index + 1) uncopied) ?_ ?_
      · rintro after futures ⟨later, returned, -⟩
        refine ⟨late.trans later, ?_, by rintro _ ⟨⟩⟩
        rintro _ ⟨⟩ other member
        rcases List.mem_cons.mp member with rfl | member
        · exact accounted.later later
        · exact returned futures rfl other member
      · rintro after error ⟨later, -, refused⟩
        refine ⟨late.trans later, by rintro _ ⟨⟩, ?_⟩
        rintro _ ⟨⟩
        exact refused error rfl

theorem keeps_submitBatch (fns : List (HadoopFunction Object))
    (argsList : List (BatchArguments Object)) (uncopied : ¬ Copied log) :
    (submitBatch fns argsList : HadoopAttempt Object Error (List FutureId)).run.Keeps
      callContract (fun after result => FuturesReturned after result) log := by
  rw [submitBatch]
  refine Fallible.keeps_bind keeps_checkOpen ?_ ?_
  · rintro middle _ ⟨untouched, -⟩
    have uncopied : ¬ Copied middle := fun copied => uncopied (untouched.copied copied)
    split
    · refine ⟨by rintro _ ⟨⟩, ?_⟩
      rintro _ ⟨⟩
      exact ⟨_, .inr rfl⟩
    · exact (keeps_submitAll argsList 0 fns uncopied).weaken fun _ _ ends => ends.2
  · rintro after error ⟨-, refused⟩
    refine ⟨by rintro _ ⟨⟩, ?_⟩
    rintro _ ⟨⟩
    exact refused error rfl

theorem keeps_cancelJob (job : JobId) :
    (cancelJob job : HadoopAttempt Object Error Bool).run.Keeps callContract
      (fun _ result => ∃ value, result = .ok value) log := by
  rw [cancelJob]
  refine Fallible.keeps_ask_bind trivial ?_
  intro info _
  rcases info with _ | info
  · exact ⟨_, rfl⟩
  dsimp only
  split
  · refine Fallible.keeps_ask_bind trivial ?_
    intro killed _
    rcases killed with error | killed
    · exact ⟨_, rfl⟩
    · cases killed with
      | false => exact ⟨_, rfl⟩
      | true => exact Fallible.keeps_ask_bind rfl fun _ _ => ⟨_, rfl⟩
  · exact ⟨_, rfl⟩

theorem keeps_cancel (future : FutureId) :
    (cancel future : HadoopAttempt Object Error Bool).run.Keeps callContract
      (fun _ result => ∃ value, result = .ok value) log := by
  rw [cancel]
  refine Fallible.keeps_ask_bind trivial ?_
  intro job _
  rcases job with _ | job
  · exact ⟨_, rfl⟩
  · exact keeps_cancelJob job

def Awaited (log : List (HadoopExchange Object Error)) (future : FutureId) : Prop :=
  ⟨.awaitResult future, ()⟩ ∈ log

theorem keeps_awaitAll (entries : List (FutureId × JobId)) :
    (awaitAll entries : HadoopAttempt Object Error Unit).run.Keeps callContract
      (fun after result => result = .ok () ∧ log <+: after ∧
        ∀ entry ∈ entries, Awaited after entry.1) log := by
  induction entries generalizing log with
  | nil => exact ⟨rfl, List.prefix_rfl, by rintro _ ⟨⟩⟩
  | cons entry rest induction =>
      rw [awaitAll]
      refine Fallible.keeps_ask_bind trivial ?_
      intro _ _
      refine induction.weaken ?_
      rintro after result ⟨returned, late, awaited⟩
      refine ⟨returned, (List.prefix_append _ _).trans late, ?_⟩
      intro other member
      rcases List.mem_cons.mp member with rfl | member
      · exact late.subset (List.mem_append_right _ (List.mem_singleton_self _))
      · exact awaited other member

theorem keeps_shutdown (wait : Bool) :
    (shutdown wait : HadoopAttempt Object Error Unit).run.Keeps callContract
      (fun after result => result = .ok () ∧ (wait = true → ∃ entries,
        ⟨.jobs, entries⟩ ∈ after ∧ ∀ entry ∈ entries, Awaited after entry.1)) log := by
  rw [shutdown]
  refine Fallible.keeps_ask_bind trivial ?_
  intro _ _
  cases wait with
  | false => exact Fallible.keeps_ask_bind trivial fun _ _ => ⟨rfl, by rintro ⟨⟩⟩
  | true =>
      refine Fallible.keeps_ask_bind trivial ?_
      intro entries _
      refine Fallible.keeps_bind (keeps_awaitAll entries) ?_ ?_
      · rintro middle _ ⟨-, late, awaited⟩
        refine Fallible.keeps_ask_bind trivial fun _ _ => ⟨rfl, fun _ => ⟨entries, ?_, ?_⟩⟩
        · exact List.mem_append_left _ (late.subset (by simp))
        · intro entry member
          exact List.mem_append_left _ (awaited entry member)
      · rintro after error ⟨⟨⟩, -⟩

end Calls

/-- How a method ends. -/
def CallEnds (call : HadoopCall Object) (log : List (HadoopExchange Object Error))
    (result : Except (HadoopError Error) HadoopReturn) : Prop :=
  (∀ futures, result = .ok (.futures futures) → ∀ future ∈ futures, Accounted log future) ∧
    (∀ error, result = .error error → Refusal error) ∧
    (call = .shutdown true → ∃ entries, ⟨.jobs, entries⟩ ∈ log ∧
      ∀ entry ∈ entries, Awaited log entry.1)

theorem keeps_attempt (call : HadoopCall Object) :
    (call.attempt : HadoopAttempt Object Error HadoopReturn).run.Keeps callContract
      (CallEnds call) [] := by
  have uncopied : ¬ Copied ([] : List (HadoopExchange Object Error)) := by
    rintro ⟨entries, ⟨⟩⟩
  cases call with
  | submit fn args kwargs =>
      refine Fallible.keeps_bind (keeps_submit fn args kwargs uncopied) ?_ ?_
      · intro after future returned
        refine ⟨?_, by rintro _ ⟨⟩, by rintro ⟨⟩⟩
        rintro _ ⟨⟩
        exact returned.1 _ rfl
      · intro after error returned
        refine ⟨by rintro _ ⟨⟩, ?_, by rintro ⟨⟩⟩
        rintro _ ⟨⟩
        exact returned.2 error rfl
  | submitBatch fns argsList =>
      refine Fallible.keeps_bind (keeps_submitBatch fns argsList uncopied) ?_ ?_
      · intro after futures returned
        refine ⟨?_, by rintro _ ⟨⟩, by rintro ⟨⟩⟩
        rintro _ ⟨⟩
        exact returned.1 _ rfl
      · intro after error returned
        refine ⟨by rintro _ ⟨⟩, ?_, by rintro ⟨⟩⟩
        rintro _ ⟨⟩
        exact returned.2 error rfl
  | cancel future =>
      refine Fallible.keeps_bind (keeps_cancel future) ?_ ?_
      · intro after value _
        exact ⟨by rintro _ ⟨⟩, by rintro _ ⟨⟩, by rintro ⟨⟩⟩
      · rintro after error ⟨_, ⟨⟩⟩
  | shutdown wait =>
      refine Fallible.keeps_bind (keeps_shutdown wait) ?_ ?_
      · rintro after _ ⟨-, awaited⟩
        refine ⟨by rintro _ ⟨⟩, by rintro _ ⟨⟩, ?_⟩
        rintro ⟨⟩
        exact awaited rfl
      · rintro after error ⟨⟨⟩, -⟩

end Hadoop

end EventPipeline
