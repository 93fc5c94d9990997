import EventPipeline.Executors.HadoopExecutor

/-! # What the polling thread does

What a pass over the jobs may do to a future, and what it has done when it ends. The pass is
followed along every path that the answers allow.
-/

namespace EventPipeline

namespace Hadoop

open Routine

variable {Object Error : Type}

/-! ## What the exchanges say -/

section Facts

variable (log : List (HadoopExchange Object Error))

/-- The cluster has reported this state of the job. -/
def Reported (job : JobId) (hadoopStatus : String) : Prop :=
  ⟨.getJobStatus job, .ok hadoopStatus⟩ ∈ log

def FailureReported (job : JobId) : Prop :=
  ∃ hadoopStatus, isFailure hadoopStatus = true ∧ Reported log job hadoopStatus

def EndReported (job : JobId) : Prop :=
  ∃ hadoopStatus, statusMapping hadoopStatus = .finished ∧ Reported log job hadoopStatus

def ErrorRecorded (job : JobId) : Prop :=
  ∃ message, ⟨.setError job message, ()⟩ ∈ log

/-- No failure that was reported is forgotten. -/
def AllRecorded : Prop :=
  ∀ job, FailureReported log job → ErrorRecorded log job

/-- The value was loaded from a result file of the directory. -/
def Loaded (outputPath : String) (value : Object) : Prop :=
  ∃ path, ⟨.load path, .ok value⟩ ∈ log ∧
    (path = s!"{outputPath}/part-00000" ∨
      ∃ files, ⟨.ls outputPath, .ok files⟩ ∈ log ∧ path ∈ files ∧ isResultFile path = true)

/-- The value is the result of the job: it comes from its output, the job has ended, and no
failure of it was ever reported. -/
structure Earned (job : JobId) (value : Object) : Prop where
  loaded : ∃ info, ⟨.jobInfo job, some info⟩ ∈ log ∧ Loaded log info.outputPath value
  ended : EndReported log job
  unfailed : ¬ FailureReported log job

/-- The exceptions that a future of the job may get. -/
inductive Excused (job : JobId) : HadoopError Error → Prop
  | failed (hadoopStatus : String) (failure : isFailure hadoopStatus = true)
      (reported : Reported log job hadoopStatus) :
      Excused job (.hadoopJobError s!"Job failed with status: {hadoopStatus}")
  | unreadable (cause : String) (ended : EndReported log job) :
      Excused job (.hadoopJobError s!"Failed to retrieve job result: {cause}")
  | retracted (text : String) (ended : EndReported log job) :
      Excused job (.runtimeError s!"Job {job} is not yet complete (status: {text})")

def settles (future : FutureId) : HadoopExchange Object Error → Bool
  | ⟨.isDone other, answer⟩ | ⟨.isCancelled other, answer⟩ => other = future ∧ answer = true
  | ⟨.cancelFuture other, _⟩ | ⟨.setResult other _, _⟩ | ⟨.setException other _, _⟩ =>
      other = future
  | _ => false

def Settled (future : FutureId) : Prop :=
  ∃ exchange ∈ log, settles future exchange = true

/-- The job is not over, as far as the cluster or the connector knows. -/
def StillOpen (job : JobId) : Prop :=
  (∃ hadoopStatus, (statusMapping hadoopStatus).isOpen = true ∧ Reported log job hadoopStatus) ∨
    ∃ info, info.status.isOpen = true ∧ ⟨.jobInfo job, some info⟩ ∈ log

end Facts

/-- Polling resolves a future of the pass with what its job allows, and records what the cluster
reports. It counts on entries of the jobs that say no more than what was recorded, and on the
futures to stay done. -/
def pollContract (entries : List (FutureId × JobId)) :
    Contract (@HadoopReply Object Error) where
  allows log
    | .setResult future value => ∃ job, (future, job) ∈ entries ∧ Earned log job value
    | .setException future error => ∃ job, (future, job) ∈ entries ∧ Excused log job error
    | .cancelFuture future => ∃ job, (future, job) ∈ entries
    | .setStatus job status => status = .finished → EndReported log job
    | .setError job message => (∃ future, (future, job) ∈ entries) ∧
        ∃ hadoopStatus, isFailure hadoopStatus = true ∧ Reported log job hadoopStatus ∧
          message = s!"Job failed with status: {hadoopStatus}"
    | .getJobStatus _ | .jobInfo _ | .pathExists _ | .ls _ | .load _ | .isDone _
    | .isCancelled _ => True
    | .isConnected | .connect | .disconnect | .submitJob _ | .getOutputPath _ | .killJob _
    | .trackJob _ _ | .isShutdown | .setShutdown | .jobOf _ | .setJob _ _ | .jobs | .newFuture
    | .awaitResult _ => False
  relies log
    | ⟨.jobInfo job, none⟩ => ∀ future, (future, job) ∉ entries
    | ⟨.jobInfo job, some info⟩ =>
        (info.error = none → ¬ ErrorRecorded log job) ∧
        (∀ message, info.error = some message → ∃ hadoopStatus, isFailure hadoopStatus = true ∧
          Reported log job hadoopStatus ∧ message = s!"Job failed with status: {hadoopStatus}") ∧
        (info.status = .finished → EndReported log job)
    | ⟨.isDone future, answer⟩ => answer = false → ¬ Settled log future
    | _ => True

/-! ## Facts stay -/

section Later

variable {before log : List (HadoopExchange Object Error)} {job : JobId}

theorem EndReported.later (reported : EndReported before job) (late : before <+: log) :
    EndReported log job := by
  rcases reported with ⟨hadoopStatus, ended, member⟩
  exact ⟨hadoopStatus, ended, late.subset member⟩

theorem Excused.later {error : HadoopError Error} (excused : Excused before job error)
    (late : before <+: log) : Excused log job error := by
  cases excused with
  | failed hadoopStatus failure reported =>
      exact .failed hadoopStatus failure (late.subset reported)
  | unreadable cause ended => exact .unreadable cause (ended.later late)
  | retracted text ended => exact .retracted text (ended.later late)

theorem Settled.mono {future : FutureId} (settled : Settled before future) (all : before ⊆ log) :
    Settled log future := by
  rcases settled with ⟨exchange, member, settles⟩
  exact ⟨exchange, all member, settles⟩

theorem StillOpen.mono (still : StillOpen before job) (all : before ⊆ log) :
    StillOpen log job := by
  rcases still with ⟨hadoopStatus, isOpen, member⟩ | ⟨info, isOpen, member⟩
  · exact .inl ⟨hadoopStatus, isOpen, all member⟩
  · exact .inr ⟨info, isOpen, all member⟩

/-- Since the earlier log the cluster has reported nothing. -/
structure Untold (before log : List (HadoopExchange Object Error)) : Prop where
  late : before <+: log
  silent : ∀ job hadoopStatus, Reported log job hadoopStatus → Reported before job hadoopStatus

theorem Untold.refl : Untold log log :=
  ⟨List.prefix_rfl, fun _ _ reported => reported⟩

theorem Untold.append (untold : Untold before log) {exchange : HadoopExchange Object Error}
    (other : ∀ job hadoopStatus, exchange ≠ ⟨.getJobStatus job, .ok hadoopStatus⟩) :
    Untold before (log ++ [exchange]) where
  late := untold.late.trans (List.prefix_append _ _)
  silent := by
    intro job hadoopStatus reported
    rcases List.mem_append.mp reported with old | new
    · exact untold.silent job hadoopStatus old
    · exact absurd (List.mem_singleton.mp new).symm (other job hadoopStatus)

theorem Untold.recorded (untold : Untold before log) (recorded : AllRecorded before) :
    AllRecorded log := by
  rintro job ⟨hadoopStatus, failure, reported⟩
  rcases recorded job ⟨hadoopStatus, failure, untold.silent job hadoopStatus reported⟩ with
    ⟨message, member⟩
  exact ⟨message, untold.late.subset member⟩

theorem Untold.failureReported (untold : Untold before log) (failed : FailureReported log job) :
    FailureReported before job := by
  rcases failed with ⟨hadoopStatus, failure, reported⟩
  exact ⟨hadoopStatus, failure, untold.silent job hadoopStatus reported⟩

theorem AllRecorded.record (recorded : AllRecorded log) (reply : Except Error String)
    (status : JobStatus) (message : String) :
    AllRecorded (log ++ [⟨.getJobStatus job, reply⟩] ++ [⟨.setStatus job status, ()⟩] ++
      [⟨.setError job message, ()⟩]) := by
  rintro other ⟨hadoopStatus, failure, reported⟩
  by_cases same : other = job
  · subst same
    exact ⟨message, List.mem_append_right _ (List.mem_singleton_self _)⟩
  · have old : Reported log other hadoopStatus := by
      simpa [Reported, same] using reported
    rcases recorded other ⟨hadoopStatus, failure, old⟩ with ⟨text, member⟩
    refine ⟨text, ?_⟩
    simp only [List.append_assoc]
    exact List.mem_append_left _ member

theorem AllRecorded.unfailed (recorded : AllRecorded log) {hadoopStatus : String}
    (unfailed : isFailure hadoopStatus = false) (status : JobStatus) :
    AllRecorded (log ++ [⟨.getJobStatus job, .ok hadoopStatus⟩] ++
      [⟨.setStatus job status, ()⟩]) := by
  refine (Untold.refl.append (by rintro _ _ ⟨⟩)).recorded ?_
  rintro other ⟨text, failure, reported⟩
  rcases List.mem_append.mp reported with old | new
  · rcases recorded other ⟨text, failure, old⟩ with ⟨message, member⟩
    exact ⟨message, List.mem_append_left _ member⟩
  · cases List.mem_singleton.mp new
    rw [unfailed] at failure
    cases failure

end Later

/-! ## Along the routines -/

section Pass

variable {entries : List (FutureId × JobId)} {log : List (HadoopExchange Object Error)}
  {future : FutureId} {job : JobId}

/-- How an entry of a job is read in a pass. -/
structure InfoRead (entries : List (FutureId × JobId))
    (before log : List (HadoopExchange Object Error)) (job : JobId) (info : JobInfo) : Prop where
  log_eq : log = before ++ [⟨.jobInfo job, some info⟩]
  relied : (pollContract entries).relies before ⟨.jobInfo job, some info⟩

theorem keeps_getJobInfo (known : (future, job) ∈ entries) :
    (getJobInfo job : HadoopAttempt Object Error JobInfo).run.Keeps (pollContract entries)
      (fun after result => ∃ info, result = .ok info ∧ InfoRead entries log after job info)
      log := by
  rw [getJobInfo]
  refine Fallible.keeps_ask_bind trivial ?_
  intro reply relied
  cases reply with
  | none => exact absurd known (relied future)
  | some info => exact ⟨info, rfl, rfl, relied⟩

theorem InfoRead.mem {before log : List (HadoopExchange Object Error)} {info : JobInfo}
    (read : InfoRead entries before log job info) : ⟨.jobInfo job, some info⟩ ∈ log := by
  rw [read.log_eq]
  exact List.mem_append_right _ (List.mem_singleton_self _)

theorem InfoRead.untold {before log : List (HadoopExchange Object Error)} {info : JobInfo}
    (read : InfoRead entries before log job info) : Untold before log := by
  rw [read.log_eq]
  exact Untold.refl.append (by rintro _ _ ⟨⟩)

/-- What is known of the state of a job that was asked for since. -/
structure StatusKnown (before log : List (HadoopExchange Object Error)) (job : JobId)
    (status : JobStatus) : Prop where
  late : before <+: log
  recorded : AllRecorded log
  ended : status = .finished → EndReported log job
  still : status.isOpen = true → StillOpen (since before log) job

theorem keeps_getJobStatus (known : (future, job) ∈ entries) (recorded : AllRecorded log) :
    (getJobStatus job : HadoopAttempt Object Error JobStatus).run.Keeps (pollContract entries)
      (fun after result => ∃ status, result = .ok status ∧ StatusKnown log after job status)
      log := by
  rw [getJobStatus]
  refine Fallible.keeps_bind (keeps_getJobInfo known) ?_ ?_
  · rintro middle first ⟨_, ⟨⟩, read⟩
    refine Fallible.keeps_ask_bind trivial ?_
    intro reply _
    cases reply with
    | error error =>
        -- the entry is read again
        have asked : AllRecorded (middle ++ [⟨.getJobStatus job, .error error⟩]) :=
          (Untold.refl.append (by rintro _ _ ⟨⟩)).recorded (read.untold.recorded recorded)
        refine Fallible.keeps_bind (keeps_getJobInfo known) ?_ ?_
        · rintro after info ⟨_, ⟨⟩, again⟩
          have late := read.untold.late.trans ((List.prefix_append _ _).trans again.untold.late)
          refine ⟨info.status, rfl, late, again.untold.recorded asked, ?_, ?_⟩
          · intro finished
            exact (again.relied.2.2 finished).later again.untold.late
          · intro isOpen
            refine .inr ⟨info, isOpen, ?_⟩
            rw [again.log_eq]
            exact mem_since (read.untold.late.trans (List.prefix_append _ _)) _
        · rintro after error ⟨info, other, -⟩
          cases other
    | ok hadoopStatus =>
        have reported : Reported (middle ++ [⟨.getJobStatus job, .ok hadoopStatus⟩]) job
            hadoopStatus := List.mem_append_right _ (List.mem_singleton_self _)
        have new : Reported (since log (middle ++ [⟨.getJobStatus job, .ok hadoopStatus⟩])) job
            hadoopStatus := mem_since read.untold.late _
        have late : log <+: middle ++ [⟨.getJobStatus job, .ok hadoopStatus⟩] :=
          read.untold.late.trans (List.prefix_append _ _)
        refine Fallible.keeps_ask_bind (fun finished => ⟨hadoopStatus, finished, reported⟩) ?_
        intro _ _
        cases failure : isFailure hadoopStatus with
        | true =>
            refine Fallible.keeps_ask_bind ⟨⟨future, known⟩, hadoopStatus, failure,
              List.mem_append_left _ reported, rfl⟩ ?_
            intro _ _
            have later := (List.prefix_append (middle ++ [⟨.getJobStatus job, .ok hadoopStatus⟩])
              [⟨.setStatus job (statusMapping hadoopStatus), ()⟩]).trans (List.prefix_append _
                [⟨.setError job s!"Job failed with status: {hadoopStatus}", ()⟩])
            refine ⟨_, rfl, late.trans later, (read.untold.recorded recorded).record _ _ _, ?_, ?_⟩
            · intro finished
              exact ⟨hadoopStatus, finished, later.subset reported⟩
            · intro isOpen
              exact .inl ⟨hadoopStatus, isOpen, since_subset_of_late later new⟩
        | false =>
            have later := List.prefix_append (middle ++ [⟨.getJobStatus job, .ok hadoopStatus⟩])
              [⟨.setStatus job (statusMapping hadoopStatus), ()⟩]
            refine ⟨_, rfl, late.trans later, ?_, ?_, ?_⟩
            · exact (read.untold.recorded recorded).unfailed failure _
            · intro finished
              exact ⟨hadoopStatus, finished, later.subset reported⟩
            · intro isOpen
              exact .inl ⟨hadoopStatus, isOpen, since_subset_of_late later new⟩
  · rintro after error ⟨info, other, -⟩
    cases other

def ResultPath (log : List (HadoopExchange Object Error)) (outputPath path : String) : Prop :=
  path = s!"{outputPath}/part-00000" ∨
    ∃ files, ⟨.ls outputPath, .ok files⟩ ∈ log ∧ path ∈ files ∧ isResultFile path = true

theorem keeps_chooseFile {outputPath : String} {files : List String}
    (listed : ⟨.ls outputPath, .ok files⟩ ∈ log) :
    (chooseFile outputPath files : HadoopAttempt Object Error String).run.Keeps
      (pollContract entries)
      (fun after result => after = log ∧ ∀ path, result = .ok path → ResultPath log outputPath path)
      log := by
  rw [chooseFile]
  cases chosen : files.filter isResultFile with
  | nil => exact ⟨rfl, by rintro _ ⟨⟩⟩
  | cons file rest =>
      have member : file ∈ files.filter isResultFile := by
        rw [chosen]
        exact List.mem_cons_self
      have named := List.mem_filter.mp member
      exact ⟨rfl, by rintro _ ⟨⟩; exact .inr ⟨files, listed, named.1, named.2⟩⟩

theorem keeps_resultFile (outputPath : String) :
    (resultFile outputPath : HadoopAttempt Object Error String).run.Keeps (pollContract entries)
      (fun after result => Untold log after ∧
        ∀ path, result = .ok path → ResultPath after outputPath path) log := by
  rw [resultFile]
  refine Fallible.keeps_ask_bind trivial ?_
  intro found _
  have looked : Untold log (log ++ [⟨.pathExists s!"{outputPath}/part-00000", found⟩]) :=
    Untold.refl.append (by rintro _ _ ⟨⟩)
  rcases found with error | found
  · exact ⟨looked, by rintro _ ⟨⟩⟩
  cases found with
  | true => exact ⟨looked, by rintro _ ⟨⟩; exact .inl rfl⟩
  | false =>
      refine Fallible.keeps_ask_bind trivial ?_
      intro files _
      have untold : Untold log (log ++ [⟨.pathExists s!"{outputPath}/part-00000", .ok false⟩] ++
          [⟨.ls outputPath, files⟩]) := looked.append (by rintro _ _ ⟨⟩)
      rcases files with error | files
      · exact ⟨untold, by rintro _ ⟨⟩⟩
      · refine (keeps_chooseFile
          (List.mem_append_right _ (List.mem_singleton_self _))).weaken ?_
        rintro after result ⟨rfl, path⟩
        exact ⟨untold, path⟩

theorem keeps_readResult (outputPath : String) :
    (readResult outputPath : HadoopAttempt Object Error Object).run.Keeps (pollContract entries)
      (fun after result => Untold log after ∧
        ∀ value, result = .ok value → Loaded after outputPath value) log := by
  rw [readResult]
  refine Fallible.keeps_bind (keeps_resultFile outputPath) ?_ ?_
  · rintro middle path ⟨untold, named⟩
    refine Fallible.keeps_ask_bind trivial ?_
    intro reply _
    have loaded : Untold log (middle ++ [⟨.load path, reply⟩]) :=
      untold.append (by rintro _ _ ⟨⟩)
    rcases reply with error | value
    · exact ⟨loaded, by rintro _ ⟨⟩⟩
    · refine ⟨loaded, ?_⟩
      rintro _ ⟨⟩
      refine ⟨path, List.mem_append_right _ (List.mem_singleton_self _), ?_⟩
      rcases named path rfl with same | ⟨files, listed, member, isFile⟩
      · exact .inl same
      · exact .inr ⟨files, List.mem_append_left _ listed, member, isFile⟩
  · rintro middle error ⟨untold, -⟩
    exact ⟨untold, by rintro _ ⟨⟩⟩

variable {str : HadoopError Error → String}

theorem keeps_getJobResult (known : (future, job) ∈ entries) (recorded : AllRecorded log)
    (ended : EndReported log job) :
    (getJobResult str job : HadoopAttempt Object Error Object).run.Keeps (pollContract entries)
      (fun after result => log <+: after ∧ AllRecorded after ∧
        match result with
        | .ok value => Earned after job value
        | .error error => Excused after job error) log := by
  rw [getJobResult]
  refine Fallible.keeps_bind (keeps_getJobInfo known) ?_ ?_
  · rintro first info ⟨_, ⟨⟩, read⟩
    refine Fallible.keeps_bind (keeps_getJobStatus known (read.untold.recorded recorded)) ?_ ?_
    · rintro middle state ⟨_, ⟨⟩, status⟩
      have late := read.untold.late.trans status.late
      cases isOpen : state.isOpen with
      | true =>
          rw [if_pos rfl]
          exact ⟨late, status.recorded, .retracted state.text (ended.later late)⟩
      | false =>
          refine Fallible.keeps_bind (keeps_getJobInfo known) ?_ ?_
          · rintro third info ⟨_, ⟨⟩, again⟩
            have later := late.trans again.untold.late
            cases failed : info.error with
            | some message =>
                rcases again.relied.2.1 message failed with ⟨hadoopStatus, failure, told, rfl⟩
                exact ⟨later, again.untold.recorded status.recorded,
                  .failed hadoopStatus failure (again.untold.late.subset told)⟩
            | none =>
                refine Fallible.keeps_tryCatch (keeps_readResult info.outputPath) ?_ ?_
                · rintro after value ⟨untold, loaded⟩
                  refine ⟨later.trans untold.late,
                    untold.recorded (again.untold.recorded status.recorded),
                    ⟨info, untold.late.subset again.mem, loaded value rfl⟩,
                    ended.later (later.trans untold.late), ?_⟩
                  -- a failure would have been in the entry
                  intro failure
                  have early := again.untold.failureReported (untold.failureReported failure)
                  exact again.relied.1 failed (status.recorded job early)
                · rintro after error ⟨untold, -⟩
                  exact ⟨later.trans untold.late,
                    untold.recorded (again.untold.recorded status.recorded),
                    .unreadable (str error) (ended.later (later.trans untold.late))⟩
          · rintro after error ⟨_, other, -⟩
            cases other
    · rintro after error ⟨_, other, -⟩
      cases other
  · rintro after error ⟨_, other, -⟩
    cases other

structure Dealt (before log : List (HadoopExchange Object Error)) (future : FutureId)
    (job : JobId) (result : Except (HadoopError Error) Unit) : Prop where
  late : before <+: log
  recorded : AllRecorded log
  returned : result = .ok () →
    Settled (since before log) future ∨ StillOpen (since before log) job
  raised : ∀ error, result = .error error →
    error = .invalidStateError ∧ Settled (since before log) future ∨ Excused log job error

theorem keeps_resolved (future : FutureId) (job : JobId)
    {before : List (HadoopExchange Object Error)} (late : before <+: log)
    (recorded : AllRecorded log) {exchange : HadoopExchange Object Error}
    (silent : ∀ job hadoopStatus, exchange ≠ ⟨.getJobStatus job, .ok hadoopStatus⟩)
    (settled : settles future exchange = true) (answer : Bool) :
    (resolved answer : HadoopAttempt Object Error Unit).run.Keeps (pollContract entries)
      (fun after result => Dealt before after future job result ∧
        ∀ error, result = .error error → error = .invalidStateError) (log ++ [exchange]) := by
  have untold : Untold log (log ++ [exchange]) := Untold.refl.append silent
  have new : Settled (since before (log ++ [exchange])) future :=
    ⟨exchange, mem_since late exchange, settled⟩
  cases answer with
  | true =>
      refine ⟨⟨late.trans untold.late, untold.recorded recorded, fun _ => .inl new, ?_⟩, ?_⟩
      · rintro _ ⟨⟩
      · rintro _ ⟨⟩
  | false =>
      refine ⟨⟨late.trans untold.late, untold.recorded recorded, ?_, ?_⟩, ?_⟩
      · rintro ⟨⟩
      · rintro _ ⟨⟩
        exact .inl ⟨rfl, new⟩
      · rintro _ ⟨⟩
        rfl

theorem keeps_deliver (known : (future, job) ∈ entries) (recorded : AllRecorded log)
    (ended : EndReported log job) :
    (deliver str future job : HadoopAttempt Object Error Unit).run.Keeps (pollContract entries)
      (fun after result => Dealt log after future job result) log := by
  have tried : (do
      let result ← getJobResult str job
      resolved (← ask (.setResult future result)) :
      HadoopAttempt Object Error Unit).run.Keeps (pollContract entries)
      (fun after result => Dealt log after future job result) log := by
    refine Fallible.keeps_bind (keeps_getJobResult known recorded ended) ?_ ?_
    · rintro middle value ⟨late, noted, earned⟩
      refine Fallible.keeps_ask_bind ⟨job, known, earned⟩ ?_
      intro answer _
      refine (keeps_resolved future job late noted (by rintro _ _ ⟨⟩) ?_ answer).weaken ?_
      · simp [settles]
      · exact fun after result dealt => dealt.1
    · rintro middle error ⟨late, noted, excused⟩
      refine ⟨late, noted, by rintro ⟨⟩, ?_⟩
      rintro _ ⟨⟩
      exact .inr excused
  rw [deliver, catchJobError]
  refine Fallible.keeps_tryCatch tried (fun after value dealt => dealt) ?_
  rintro middle error dealt
  cases error with
  | hadoopJobError message =>
      have excused : Excused middle job (.hadoopJobError message : HadoopError Error) := by
        rcases dealt.raised _ rfl with ⟨other, -⟩ | excused
        · cases other
        · exact excused
      refine Fallible.keeps_ask_bind ⟨job, known, excused⟩ ?_
      intro answer _
      refine (keeps_resolved future job dealt.late dealt.recorded (by rintro _ _ ⟨⟩) ?_
        answer).weaken ?_
      · simp [settles]
      · exact fun after result dealt => dealt.1
  | runtimeError | keyError | typeError | connectionError | invalidStateError | raised =>
      exact dealt

theorem Dealt.of_early {before middle : List (HadoopExchange Object Error)}
    {result : Except (HadoopError Error) Unit} (dealt : Dealt middle log future job result)
    (early : before <+: middle) : Dealt before log future job result where
  late := early.trans dealt.late
  recorded := dealt.recorded
  returned ended := by
    rcases dealt.returned ended with settled | still
    · exact .inl (settled.mono (since_subset_of_early early))
    · exact .inr (still.mono (since_subset_of_early early))
  raised error failed := by
    rcases dealt.raised error failed with ⟨same, settled⟩ | excused
    · exact .inl ⟨same, settled.mono (since_subset_of_early early)⟩
    · exact .inr excused

theorem keeps_checkJob (known : (future, job) ∈ entries) (recorded : AllRecorded log) :
    (checkJob str future job : HadoopAttempt Object Error Unit).run.Keeps (pollContract entries)
      (fun after result => Dealt log after future job result) log := by
  rw [checkJob]
  refine Fallible.keeps_bind (keeps_getJobStatus known recorded) ?_ ?_
  · rintro middle state ⟨_, ⟨⟩, status⟩
    have waiting : state.isOpen = true →
        (pure () : HadoopAttempt Object Error Unit).run.Keeps (pollContract entries)
          (fun after result => Dealt log after future job result) middle := by
      intro isOpen
      refine ⟨status.late, status.recorded, fun _ => .inr (status.still isOpen), ?_⟩
      rintro _ ⟨⟩
    have cancelled : (do
        if !(← ask (.isCancelled future)) then ask (.cancelFuture future) :
        HadoopAttempt Object Error Unit).run.Keeps (pollContract entries)
          (fun after result => Dealt log after future job result) middle := by
      refine Fallible.keeps_ask_bind trivial ?_
      intro answer _
      have asked : Untold middle (middle ++ [⟨.isCancelled future, answer⟩]) :=
        Untold.refl.append (by rintro _ _ ⟨⟩)
      cases answer with
      | true =>
          refine ⟨status.late.trans asked.late, asked.recorded status.recorded,
            fun _ => .inl ⟨_, mem_since status.late _, by simp [settles]⟩, ?_⟩
          rintro _ ⟨⟩
      | false =>
          refine Fallible.keeps_ask_bind ⟨job, known⟩ ?_
          intro _ _
          have late := status.late.trans asked.late
          have told : Untold middle (middle ++ [⟨.isCancelled future, false⟩] ++
              [⟨.cancelFuture future, ()⟩]) := asked.append (by rintro _ _ ⟨⟩)
          refine ⟨status.late.trans told.late, told.recorded status.recorded,
            fun _ => .inl ⟨_, mem_since late _, by simp [settles]⟩, ?_⟩
          rintro _ ⟨⟩
    cases state with
    | finished =>
        refine (keeps_deliver known status.recorded (status.ended rfl)).weaken ?_
        exact fun after result dealt => dealt.of_early status.late
    | cancelled | cancelledAndNotified => exact cancelled
    | pending | running => exact waiting rfl
  · rintro after error ⟨_, other, -⟩
    cases other

theorem keeps_pollJob (known : (future, job) ∈ entries) (recorded : AllRecorded log) :
    (pollJob str future job : HadoopAttempt Object Error Unit).run.Keeps (pollContract entries)
      (fun after result => Dealt log after future job result ∧
        ∀ error, result = .error error → error = .invalidStateError) log := by
  rw [pollJob]
  refine Fallible.keeps_ask_bind trivial ?_
  intro answer _
  have asked : Untold log (log ++ [⟨.isDone future, answer⟩]) :=
    Untold.refl.append (by rintro _ _ ⟨⟩)
  cases answer with
  | true =>
      refine ⟨⟨asked.late, asked.recorded recorded,
        fun _ => .inl ⟨_, mem_since List.prefix_rfl _, by simp [settles]⟩, ?_⟩, ?_⟩
      · rintro _ ⟨⟩
      · rintro _ ⟨⟩
  | false =>
      refine Fallible.keeps_tryCatch (keeps_checkJob known (asked.recorded recorded)) ?_ ?_
      · intro after value dealt
        refine ⟨dealt.of_early asked.late, ?_⟩
        rintro _ ⟨⟩
      · intro middle error dealt
        have late := asked.late.trans dealt.late
        refine Fallible.keeps_ask_bind trivial ?_
        intro answer unsettled
        have again : Untold middle (middle ++ [⟨.isDone future, answer⟩]) :=
          Untold.refl.append (by rintro _ _ ⟨⟩)
        cases answer with
        | true =>
            refine ⟨⟨late.trans again.late, again.recorded dealt.recorded,
              fun _ => .inl ⟨_, mem_since late _, by simp [settles]⟩, ?_⟩, ?_⟩
            · rintro _ ⟨⟩
            · rintro _ ⟨⟩
        | false =>
            have excused : Excused middle job error := by
              rcases dealt.raised error rfl with ⟨-, settled⟩ | excused
              · exact absurd (settled.mono (List.drop_subset _ _)) (unsettled rfl)
              · exact excused
            refine Fallible.keeps_ask_bind ⟨job, known, excused.later again.late⟩ ?_
            intro answer _
            refine keeps_resolved future job (late.trans again.late)
              (again.recorded dealt.recorded) (by rintro _ _ ⟨⟩) ?_ answer
            simp [settles]

/-- A pass that is not left by an exception has dealt with all futures. -/
theorem keeps_pollJobs {rest : List (FutureId × JobId)} (known : rest ⊆ entries)
    (recorded : AllRecorded log) :
    (pollJobs str rest : HadoopAttempt Object Error Unit).run.Keeps (pollContract entries)
      (fun after result => log <+: after ∧ AllRecorded after ∧
        (result = .ok () → ∀ entry ∈ rest,
          Settled (since log after) entry.1 ∨ StillOpen (since log after) entry.2) ∧
        ∀ error, result = .error error → error = .invalidStateError) log := by
  induction rest generalizing log with
  | nil =>
      refine ⟨List.prefix_rfl, recorded, ?_, ?_⟩
      · rintro _ _ ⟨⟩
      · rintro _ ⟨⟩
  | cons entry rest induction =>
      rcases entry with ⟨future, job⟩
      rw [pollJobs]
      refine Fallible.keeps_bind (keeps_pollJob (known List.mem_cons_self) recorded) ?_ ?_
      · rintro middle _ ⟨dealt, -⟩
        refine (induction (fun _ member => known (List.mem_cons_of_mem _ member))
          dealt.recorded).weaken ?_
        rintro after result ⟨late, noted, returned, raised⟩
        refine ⟨dealt.late.trans late, noted, ?_, raised⟩
        intro ended entry member
        rcases List.mem_cons.mp member with rfl | member
        · rcases dealt.returned rfl with settled | still
          · exact .inl (settled.mono (since_subset_of_late late))
          · exact .inr (still.mono (since_subset_of_late late))
        · rcases returned ended entry member with settled | still
          · exact .inl (settled.mono (since_subset_of_early dealt.late))
          · exact .inr (still.mono (since_subset_of_early dealt.late))
      · rintro middle error ⟨dealt, raised⟩
        refine ⟨dealt.late, dealt.recorded, by rintro ⟨⟩, ?_⟩
        rintro _ ⟨⟩
        exact raised error rfl

end Pass

end Hadoop

end EventPipeline
