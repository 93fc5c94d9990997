import EventPipeline.Execution.Submission
import Mathlib.Order.Bounds.Basic

/-! # The executor of a parallel group

The tasks of a parallel group come in the order of a set. When their events have the same executor
class, its options are those of the first task, and the options of the others are not merged.
-/

namespace EventPipeline

def executorsMade {Value : Type} (log : List (ExecutionAction Value)) :
    List (ExecutorKlass × Arguments Value) :=
  log.filterMap fun
    | .makeExecutor executor config => some (executor, config)
    | _ => none

def ArgumentValues.number? {Value : Type} (values : ArgumentValues Value) (value : Value) :
    Option Int :=
  if values.isNumeric value then (values.int value).toOption else none

def numbers {Value : Type} (values : ArgumentValues Value) (contexts : List (Arguments Value))
    (key : String) : Set Int :=
  {number | ∃ context ∈ contexts, ∃ value, OrderedDict.get key context = some value ∧
    values.number? value = some number}

/-- Numeric options have the maximum of what is configured for them, and other options that are
set are kept. -/
structure Combines {Value : Type} (values : ArgumentValues Value)
    (contexts : List (Arguments Value)) (config : Arguments Value) : Prop where
  maximum : ∀ key, (numbers values contexts key).Nonempty →
    ∃ kept number, OrderedDict.get key config = some kept ∧ values.number? kept = some number ∧
      IsGreatest (numbers values contexts key) number
  kept : ∀ key, numbers values contexts key = ∅ → ∀ context ∈ contexts, ∀ value,
    OrderedDict.get key context = some value → value ≠ values.noneObject →
      ∃ other ∈ contexts, ∃ kept, OrderedDict.get key other = some kept ∧
        kept ≠ values.noneObject ∧ OrderedDict.get key config = some kept

theorem combines_of_forall_eq {Value : Type} (values : ArgumentValues Value)
    {contexts : List (Arguments Value)} {config : Arguments Value}
    (same : ∀ context ∈ contexts, context = config) : Combines values contexts config where
  maximum key := by
    rintro ⟨number, context, member, value, found, numeric⟩
    obtain rfl := same context member
    refine ⟨value, number, found, numeric, ⟨context, member, value, found, numeric⟩, ?_⟩
    rintro other ⟨_, otherMember, otherValue, otherFound, otherNumeric⟩
    obtain rfl := same _ otherMember
    obtain rfl : otherValue = value := Option.some.inj (otherFound.symm.trans found)
    exact (Option.some.inj (otherNumeric.symm.trans numeric)).le
  kept key _ context member value found set := by
    obtain rfl := same context member
    exact ⟨context, member, value, found, set, found⟩

namespace ExecutionEnvironment

variable {Value Future : Type} [DecidableEq Value] (env : ExecutionEnvironment Value Future)

def madeExecutors (tasks : List TaskId) (before : SubmissionState Value) :
    List (ExecutorKlass × Arguments Value) :=
  executorsMade ((Effects.after (env.initAndExecuteEvents tasks) before).log.drop
    before.log.length)

/-- The events of the tasks can be made, and have the same executor. -/
def ShareExecutor (tasks : List TaskId) (executor : ExecutorKlass) : Prop :=
  ∀ task ∈ tasks, ∃ prepared, env.getExecutorContextAndEvent task = .ok prepared ∧
    prepared.executor = executor

def configuredContexts (tasks : List TaskId) : List (Arguments Value) :=
  tasks.filterMap fun task =>
    (env.getExecutorContextAndEvent task).toOption.map PreparedEvent.context

/-- In any order of the tasks, one executor is made with the same options, which combine those of
the tasks. -/
def ConfiguredOnce (tasks : List TaskId) (executor : ExecutorKlass) : Prop :=
  ∃ config, (∀ order, order.Perm tasks → ∀ before,
      env.madeExecutors order before = [(executor, config)]) ∧
    Combines env.values (env.configuredContexts tasks) config

/-- The events of the tasks have the same option for each parameter of the executor. -/
def SameExecutorOptions (tasks : List TaskId) (executor : ExecutorKlass) : Prop :=
  ∀ first ∈ tasks, ∀ second ∈ tasks, ∀ config other,
    env.executorConfig first = .ok config → env.executorConfig second = .ok other →
      (env.executors executor).SameOptions env.values config other

end ExecutionEnvironment

/-! ## One executor is made -/

def MakesNone {Value : Type} (before after : SubmissionState Value) : Prop :=
  ∃ actions, after.log = before.log ++ actions ∧ executorsMade actions = []

theorem MakesNone.refl {Value : Type} (state : SubmissionState Value) : MakesNone state state :=
  ⟨[], by simp, rfl⟩

theorem MakesNone.trans {Value : Type} (first second third : SubmissionState Value)
    (front : MakesNone first second) (back : MakesNone second third) : MakesNone first third := by
  rcases front with ⟨actions, firstLog, none⟩
  rcases back with ⟨others, secondLog, noneBehind⟩
  refine ⟨actions ++ others, by rw [secondLog, firstLog, List.append_assoc], ?_⟩
  rw [executorsMade, List.filterMap_append] at *
  rw [none, noneBehind]
  rfl

theorem MakesNone.executorsMade_drop {Value : Type} {before state after : SubmissionState Value}
    {executor : ExecutorKlass} {config : Arguments Value} (front : MakesNone before state)
    (back : MakesNone { state with log := state.log ++ [.makeExecutor executor config] } after) :
    executorsMade (after.log.drop before.log.length) = [(executor, config)] := by
  rcases front with ⟨actions, firstLog, none⟩
  rcases back with ⟨others, secondLog, noneBehind⟩
  rw [secondLog, firstLog, List.append_assoc, List.append_assoc, List.drop_left, executorsMade,
    List.filterMap_append, List.filterMap_append]
  rw [executorsMade] at none noneBehind
  rw [none, noneBehind]
  rfl

theorem respects_logAction {Value : Type} {action : ExecutionAction Value}
    (other : executorsMade [action] = []) : Effects.Respects MakesNone (logAction action) :=
  fun _ => ⟨[action], rfl, other⟩

namespace ExecutionEnvironment

section Submitting

variable {Value Future : Type} {env : ExecutionEnvironment Value Future}

theorem respects_submitEntry (executor : ExecutorKlass)
    (entry : ExecutionKey × ExecutionEntry Value) :
    Effects.Respects MakesNone (env.submitEntry executor entry) := by
  rw [submitEntry]
  cases entry.2 with
  | configuration context => exact fun state => .refl state
  | event config =>
      refine Effects.respects_bind .trans (respects_logAction rfl) fun _ => ?_
      refine Effects.respects_bind .trans (respects_logAction rfl) fun _ => ?_
      refine Effects.respects_bind .trans (Effects.respects_lift .refl _) fun _ => ?_
      refine Effects.respects_bind .trans (respects_logAction rfl) fun _ => ?_
      exact Effects.respects_pure .refl _

theorem after_withExecutor {Output : Type} {executor : ExecutorKlass} {config : Arguments Value}
    {block : Submitting Value Output} (quiet : Effects.Respects MakesNone block)
    (state : SubmissionState Value) :
    MakesNone { state with log := state.log ++ [.makeExecutor executor config] }
      (Effects.after (env.withExecutor executor config block) state) := by
  have rest : Effects.Respects MakesNone (do
      Effects.lift (env.makeExecutor executor config)
      try block finally logAction (.shutdown executor) : Submitting Value Output) :=
    Effects.respects_bind .trans (Effects.respects_lift .refl _) fun _ =>
      Effects.respects_finally .trans quiet (respects_logAction rfl)
  exact rest _

theorem after_executeEvents {executor : ExecutorKlass} (first : GatheredEvent Value)
    (events : List (GatheredEvent Value)) (state : SubmissionState Value) :
    MakesNone { state with log := state.log ++ [.makeExecutor executor first.context] }
      (Effects.after (env.executeEvents executor
        (GatheredEvent.executionConfig (first :: events))) state) := by
  rw [executeEvents, popContext_executionConfig]
  cases events with
  | nil =>
      refine after_withExecutor ?_ state
      exact Effects.respects_bind .trans (respects_submitEntry executor first.entry) fun _ =>
        Effects.respects_pure .refl _
  | cons second rest =>
      refine after_withExecutor ?_ state
      exact Effects.respects_mapM .refl .trans (respects_submitEntry executor) _

end Submitting

section Order

variable {Value Future : Type} [DecidableEq Value] {env : ExecutionEnvironment Value Future}

theorem ShareExecutor.instantiable {tasks : List TaskId} {executor : ExecutorKlass}
    (share : env.ShareExecutor tasks executor) : ∀ task ∈ tasks, env.Instantiable task := by
  intro task member
  rcases share task member with ⟨prepared, made, -⟩
  exact ⟨prepared, made⟩

theorem ShareExecutor.executor_eq {tasks : List TaskId} {executor : ExecutorKlass} {address : Nat}
    (share : env.ShareExecutor tasks executor) :
    ∀ gathered ∈ env.gatheredEvents address tasks, gathered.executor = executor := by
  intro gathered member
  rcases mem_gatheredEvents member with ⟨task, present, prepared, made, own, -⟩
  rcases share task present with ⟨other, otherMade, shared⟩
  obtain rfl : prepared = other := Except.ok.inj (made.symm.trans otherMade)
  exact own.trans shared

theorem madeExecutors_eq {first : TaskId} {tasks : List TaskId} {executor : ExecutorKlass}
    {prepared : PreparedEvent Value} (share : env.ShareExecutor (first :: tasks) executor)
    (made : env.getExecutorContextAndEvent first = .ok prepared)
    (before : SubmissionState Value) :
    env.madeExecutors (first :: tasks) before = [(executor, prepared.context)] := by
  rcases gatherExecutors_eq_ok before share.instantiable with ⟨retries, gathered⟩
  have events := gatheredEvents_cons made before.retries.events.length tasks
  have grouped : GatheredEvent.executorsMap
      (env.gatheredEvents before.retries.events.length (first :: tasks)) =
      [(executor, GatheredEvent.executionConfig
        (env.gatheredEvents before.retries.events.length (first :: tasks)))] := by
    rw [GatheredEvent.executorsMap, Grouping.groupBy_eq_singleton _ (by rw [events]; simp)
      share.executor_eq]
    rfl
  rw [grouped, events] at gathered
  rw [madeExecutors, initAndExecuteEvents, Effects.after_bind_ok gathered]
  simp only [List.foldlM_cons, List.foldlM_nil, bind_pure, executeNext, bind_pure_comp,
    Effects.after_map]
  refine MakesNone.executorsMade_drop ⟨_, rfl, ?_⟩ (after_executeEvents _ _ _)
  simp [executorsMade]

theorem sameExecutorOptions_iff {tasks : List TaskId} {executor : ExecutorKlass}
    (share : env.ShareExecutor tasks executor) :
    env.SameExecutorOptions tasks executor ↔
      ∀ first ∈ tasks, ∀ second ∈ tasks, ∀ prepared other,
        env.getExecutorContextAndEvent first = .ok prepared →
        env.getExecutorContextAndEvent second = .ok other → prepared.context = other.context := by
  have context : ∀ task ∈ tasks, ∃ prepared config,
      env.getExecutorContextAndEvent task = .ok prepared ∧ env.executorConfig task = .ok config ∧
        prepared.context = (env.executors executor).constructorArguments env.values config := by
    intro task member
    rcases share task member with ⟨prepared, made, rfl⟩
    rcases getExecutorContextAndEvent_context made with ⟨config, declared, context⟩
    exact ⟨prepared, config, made, declared, context⟩
  constructor
  · intro same first firstMember second secondMember prepared other made otherMade
    rcases context first firstMember with ⟨own, config, ownMade, declared, arguments⟩
    rcases context second secondMember with
      ⟨otherOwn, otherConfig, otherOwnMade, otherDeclared, otherArguments⟩
    obtain rfl : own = prepared := Except.ok.inj (ownMade.symm.trans made)
    obtain rfl : otherOwn = other := Except.ok.inj (otherOwnMade.symm.trans otherMade)
    rw [arguments, otherArguments]
    exact (ExecutorDeclaration.sameOptions_iff _ _ _).mp
      (same first firstMember second secondMember config otherConfig declared otherDeclared)
  · intro same first firstMember second secondMember config otherConfig declared otherDeclared
    rcases context first firstMember with ⟨prepared, own, made, ownDeclared, arguments⟩
    rcases context second secondMember with
      ⟨other, otherOwn, otherMade, otherOwnDeclared, otherArguments⟩
    obtain rfl : own = config := Except.ok.inj (ownDeclared.symm.trans declared)
    obtain rfl : otherOwn = otherConfig :=
      Except.ok.inj (otherOwnDeclared.symm.trans otherDeclared)
    rw [ExecutorDeclaration.sameOptions_iff, ← arguments, ← otherArguments]
    exact same first firstMember second secondMember prepared other made otherMade

theorem ShareExecutor.perm {tasks order : List TaskId} {executor : ExecutorKlass}
    (share : env.ShareExecutor tasks executor) (perm : order.Perm tasks) :
    env.ShareExecutor order executor :=
  fun task member => share task (perm.mem_iff.mp member)

/-- The executor of a group does not depend on the order of the tasks exactly if they declare the
same options for it. -/
theorem configuredOnce_iff {tasks : List TaskId} {executor : ExecutorKlass} (nonempty : tasks ≠ [])
    (share : env.ShareExecutor tasks executor) :
    env.ConfiguredOnce tasks executor ↔ env.SameExecutorOptions tasks executor := by
  rw [sameExecutorOptions_iff share]
  constructor
  · rintro ⟨config, independent, -⟩
    -- Any task may come first, so that its options are the ones of the executor.
    have every : ∀ task ∈ tasks, ∀ prepared,
        env.getExecutorContextAndEvent task = .ok prepared → prepared.context = config := by
      intro task member prepared made
      have perm : (task :: tasks.erase task).Perm tasks := (List.perm_cons_erase member).symm
      have first := independent _ perm ⟨⟨⟨fun _ => .none, 0, fun _ => 0⟩, []⟩, []⟩
      rw [madeExecutors_eq (share.perm perm) made] at first
      simpa using first
    intro first firstMember second secondMember prepared other made otherMade
    rw [every first firstMember prepared made, every second secondMember other otherMade]
  · intro same
    rcases tasks with _ | ⟨first, rest⟩
    · exact absurd rfl nonempty
    · rcases share first List.mem_cons_self with ⟨prepared, made, -⟩
      refine ⟨prepared.context, ?_, combines_of_forall_eq _ ?_⟩
      · intro order perm before
        rcases order with _ | ⟨head, tail⟩
        · exact absurd perm.symm (List.not_perm_cons_nil)
        · have member : head ∈ first :: rest := perm.mem_iff.mp List.mem_cons_self
          rcases share head member with ⟨other, otherMade, -⟩
          rw [madeExecutors_eq (share.perm perm) otherMade,
            same head member first List.mem_cons_self other prepared otherMade made]
      · intro context member
        rcases List.mem_filterMap.mp member with ⟨task, among, found⟩
        rcases share task among with ⟨other, otherMade, -⟩
        rw [otherMade] at found
        obtain rfl : other.context = context := Option.some.inj found
        exact same task among first List.mem_cons_self other prepared otherMade made

end Order

end ExecutionEnvironment

def equalPools : ExecutionEnvironment PlainValue Nat :=
  { letterExecution with declarations := fun _ => pooledEvent 2 }

theorem configuredOnce_equalPools : equalPools.ConfiguredOnce [1, 2] 1 := by
  have share : equalPools.ShareExecutor [1, 2] 1 := by
    intro task member
    simp only [List.mem_cons, List.not_mem_nil, or_false] at member
    rcases member with rfl | rfl <;> exact ⟨_, rfl, rfl⟩
  have declared : ∀ task ∈ [1, 2], equalPools.executorConfig task =
      .ok { ExecutorInitializerConfig.default plainValues with maxWorkers := .int 2 } := by
    intro task member
    simp only [List.mem_cons, List.not_mem_nil, or_false] at member
    rcases member with rfl | rfl <;> rfl
  refine (ExecutionEnvironment.configuredOnce_iff (by decide) share).mpr ?_
  intro first firstMember second secondMember config other firstDeclared secondDeclared
  obtain rfl := Except.ok.inj (firstDeclared.symm.trans (declared first firstMember))
  obtain rfl := Except.ok.inj (secondDeclared.symm.trans (declared second secondMember))
  exact fun _ _ _ _ _ => rfl

/-- The pool has two workers if `A` comes first, and four if `B` does. -/
theorem not_configuredOnce_letterExecution :
    (letterExecution.madeExecutors [1, 2] ⟨noRetries, []⟩).map
        (fun made => OrderedDict.get "max_workers" made.2) = [some (.int 2)] ∧
      (letterExecution.madeExecutors [2, 1] ⟨noRetries, []⟩).map
        (fun made => OrderedDict.get "max_workers" made.2) = [some (.int 4)] ∧
      letterExecution.ShareExecutor [1, 2] 1 ∧ ¬ letterExecution.ConfiguredOnce [1, 2] 1 := by
  have two : (letterExecution.madeExecutors [1, 2] ⟨noRetries, []⟩).map
      (fun made => OrderedDict.get "max_workers" made.2) = [some (.int 2)] := by
    decide +kernel
  have four : (letterExecution.madeExecutors [2, 1] ⟨noRetries, []⟩).map
      (fun made => OrderedDict.get "max_workers" made.2) = [some (.int 4)] := by
    decide +kernel
  refine ⟨two, four, ?_, ?_⟩
  · intro task member
    simp only [List.mem_cons, List.not_mem_nil, or_false] at member
    rcases member with rfl | rfl <;> exact ⟨_, rfl, rfl⟩
  · rintro ⟨config, independent, -⟩
    rw [independent [1, 2] .rfl] at two
    rw [independent [2, 1] (.swap 1 2 []), two] at four
    cases four

end EventPipeline
