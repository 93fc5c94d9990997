import EventPipeline.Execution.Absorbing
import EventPipeline.Execution.Origin
import EventPipeline.Execution.ParallelGroups
import EventPipeline.Execution.Unordered
import Mathlib.Data.List.Perm.Basic

/-! # No result is lost

The loop over the finished futures keeps the result of every future, in whatever order they are
visited, as long as none of them ends it: a future that asks to switch ends it for the futures
that are visited later, and so does one whose result cannot be made or copied. A result whose
content has no truth value is replaced by another one.
-/

namespace EventPipeline

/-- The identity of the result that is recorded of a future. -/
def Outcome.resultId : Outcome → ResultId
  | .returned result | .switched _ result => result.id
  | .raised _ id | .untestable _ _ id => id

/-- The result of a future, which is made when it raises. None is there to be kept when the
content has no truth value: what is recorded then is made for the exception of the test. -/
def Outcome.delivered : Outcome → Option EventResult
  | .returned result | .switched _ result => some result
  | .raised exception id => (exception.eventResult id).toOption
  | .untestable _ _ _ => none

/-- The entry of a future in `execution_result`: an error loses a content that is an
exception. -/
def Outcome.entry? (outcome : Outcome) : Option (ResultId × EventResult) :=
  outcome.delivered.map fun result =>
    (result.id, if result.error then result.asDict.2 else result)

/-- The entry of a future in `_errors`. -/
def Outcome.error? (outcome : Outcome) : Option PipelineError :=
  outcome.delivered.map fun result => ⟨result.content, result.taskId, some result⟩

/-- The result of the future is there or can be made, and an error can be copied. -/
def Outcome.Recordable : Outcome → Prop
  | .returned result | .switched _ result => result.error = true → result.copyError = none
  | .raised exception _ => exception.params ≠ .none ∧
      (∀ text, exception.params ≠ .unreadable text) ∧ exception.resultError = none ∧
      exception.copyError = none
  | .untestable _ _ _ => False

namespace EventExecutionContext

/-- The loop over the futures ends normally, or by raising the request to switch. -/
def EndsOrSwitches : Option Interruption → Prop
  | none | some (.switchTask _ _) => True
  | some (.error _) => False

/-- Exactly the results of the futures, and exactly one error for each of them that is one. -/
structure KeepsEach (outcomes : List Outcome) (after : EventExecutionContext) : Prop where
  results : (after.executionResult.map some).Perm (outcomes.map Outcome.entry?)
  errors : (after.errors.map some).Perm
    ((outcomes.filter Outcome.isError).map Outcome.error?)

structure SameContents (first second : EventExecutionContext) : Prop where
  results : first.executionResult.Perm second.executionResult
  errors : first.errors.Perm second.errors
  state : first.state = second.state

/-- Whatever the order, nothing is lost and the order makes no difference. -/
def LosesNothing (heap : Heap) (profiles : List TaskId) (outcomes : List Outcome) : Prop :=
  ∀ order, order.Perm outcomes →
    let ended := (executing profiles).processExecutorResults heap order
    EndsOrSwitches ended.2 ∧ KeepsEach outcomes ended.1 ∧
      ∀ other, other.Perm outcomes →
        SameContents ended.1 ((executing profiles).processExecutorResults heap other).1

/-- The results are objects of their own, every one of them can be recorded, and a future that
asks to switch is the only one. -/
structure Undisturbed (heap : Heap) (profiles : List TaskId) (outcomes : List Outcome) :
    Prop where
  distinct : (outcomes.map Outcome.resultId).Nodup
  recordable : ∀ outcome ∈ outcomes, outcome.Recordable
  alone : ∀ outcome ∈ outcomes, outcome.asksToSwitch = true →
    outcomes = [outcome] ∧ ((executing profiles).lastTask heap).isSome = true

end EventExecutionContext

/-! ## What is kept of one future -/

theorem ExceptionParams.isSome_read_iff (params : ExceptionParams) :
    params.read.toOption.isSome = true ↔
      params ≠ .none ∧ ∀ text, params ≠ .unreadable text := by
  cases params <;> simp [ExceptionParams.read, Except.toOption]

theorem RaisedException.eventResult_eq_ok {exception : RaisedException} (id : ResultId)
    (read : exception.params.read.toOption.isSome = true)
    (made : exception.resultError = none) :
    ∃ result, exception.eventResult id = .ok result := by
  rw [RaisedException.eventResult, made]
  cases fields : exception.params.read with
  | error error =>
      rw [fields] at read
      cases read
  | ok fields => exact ⟨_, rfl⟩

theorem Outcome.id_of_result {outcome : Outcome} {result : EventResult} {switch : Option Int}
    (made : outcome.result = .ok (result, switch)) : result.id = outcome.resultId := by
  cases outcome with
  | returned first =>
      rw [Outcome.result] at made
      split at made <;> cases made <;> rfl
  | switched descriptor first =>
      cases made
      rfl
  | raised exception id | untestable first exception id =>
      rcases RaisedException.eventResult_of_map made with ⟨own, _⟩
      exact (RaisedException.eventResult_ok own).2.2.1

theorem EventResult.id_asDict (result : EventResult) : result.asDict.2.id = result.id := by
  rw [EventResult.asDict]
  cases result.content.isException with
  | false => rfl
  | true => rfl

theorem Outcome.id_kept {outcome : Outcome} {result : EventResult} {switch : Option Int}
    (made : outcome.result = .ok (result, switch)) :
    (if result.error then result.asDict.2 else result).id = outcome.resultId := by
  have identity := Outcome.id_of_result made
  cases result.error with
  | false => exact identity
  | true => exact result.id_asDict.trans identity

theorem Outcome.delivered_of_receive {outcome : Outcome} {result : EventResult}
    {switch : Option Int} (received : outcome.receive = .ok (result, switch)) :
    outcome.delivered = some result ∨ outcome.delivered = none := by
  rcases Outcome.result_of_receive received with ⟨made, _⟩
  cases outcome with
  | returned first =>
      rw [Outcome.result] at made
      split at made <;> cases made <;> exact .inl rfl
  | switched descriptor first =>
      cases made
      exact .inl rfl
  | raised exception id =>
      rcases RaisedException.eventResult_of_map made with ⟨own, _⟩
      rw [Outcome.delivered, own]
      exact .inl rfl
  | untestable first exception id => exact .inr rfl

theorem Outcome.recordable_iff (outcome : Outcome) :
    outcome.Recordable ↔ ∃ result switch, outcome.receive = .ok (result, switch) ∧
      outcome.delivered = some result := by
  constructor
  · intro recordable
    cases outcome with
    | returned result =>
        have made : ∃ switch, Outcome.result (.returned result) = .ok (result, switch) := by
          rw [Outcome.result]
          cases result.content <;> exact ⟨_, rfl⟩
        rcases made with ⟨switch, made⟩
        exact ⟨result, switch, Outcome.receive_of_result made recordable, rfl⟩
    | switched descriptor result =>
        exact ⟨result, descriptor, Outcome.receive_of_result rfl recordable, rfl⟩
    | raised exception id =>
        rcases recordable with ⟨present, readable, resultError, copyError⟩
        rcases exception.eventResult_eq_ok id (exception.params.isSome_read_iff.mpr
          ⟨present, readable⟩) resultError with ⟨result, made⟩
        rcases RaisedException.eventResult_ok made with ⟨-, -, -, -, copies⟩
        refine ⟨result, none, ?_, ?_⟩
        · apply Outcome.receive_of_result
          · rw [Outcome.result, made]
            rfl
          · exact fun _ => copies.trans copyError
        · rw [Outcome.delivered, made]
          rfl
    | untestable result exception id => exact recordable.elim
  · rintro ⟨result, switch, received, delivered⟩
    rcases Outcome.result_of_receive received with ⟨made, copies⟩
    cases outcome with
    | returned first =>
        cases delivered
        exact copies
    | switched descriptor first =>
        cases delivered
        exact copies
    | raised exception id =>
        rcases RaisedException.eventResult_of_map made with ⟨own, -⟩
        rcases RaisedException.eventResult_ok own with ⟨read, resultError, -, failed, copied⟩
        rcases exception.params.isSome_read_iff.mp read with ⟨present, readable⟩
        exact ⟨present, readable, resultError, copied.symm.trans (copies failed)⟩
    | untestable first exception id => cases delivered

theorem Outcome.calm_or_asks {outcome : Outcome} (recordable : outcome.Recordable) :
    outcome.Calm ∨ outcome.asksToSwitch = true := by
  obtain ⟨result, switch, received, -⟩ := outcome.recordable_iff.mp recordable
  cases switch with
  | none => exact .inl ⟨result, received⟩
  | some descriptor =>
      rw [Outcome.asksToSwitch, received]
      exact .inr rfl

theorem Outcome.entry_of_recordable {outcome : Outcome} (recordable : outcome.Recordable) :
    ∃ result switch, outcome.receive = .ok (result, switch) ∧
      outcome.entry? =
        some (outcome.resultId, if result.error then result.asDict.2 else result) ∧
      outcome.error? = some ⟨result.content, result.taskId, some result⟩ ∧
      (if result.error then result.asDict.2 else result).id = outcome.resultId := by
  obtain ⟨result, switch, received, delivered⟩ := outcome.recordable_iff.mp recordable
  have made := (Outcome.result_of_receive received).1
  refine ⟨result, switch, received, ?_, ?_, Outcome.id_kept made⟩
  · rw [Outcome.entry?, delivered, Option.map_some, Outcome.id_of_result made]
  · rw [Outcome.error?, delivered, Option.map_some]

section Entries

variable {outcomes : List Outcome}

theorem keys_entries (recordable : ∀ outcome ∈ outcomes, outcome.Recordable) :
    OrderedDict.keys (outcomes.filterMap Outcome.entry?) = outcomes.map Outcome.resultId := by
  induction outcomes with
  | nil => rfl
  | cons outcome rest induction =>
      obtain ⟨result, switch, -, entry, -⟩ :=
        Outcome.entry_of_recordable (recordable outcome List.mem_cons_self)
      rw [List.filterMap_cons_some entry, List.map_cons,
        ← induction fun other member => recordable other (List.mem_cons_of_mem _ member)]
      rfl

theorem map_some_filterMap {Item Value : Type} {value : Item → Option Value} {items : List Item}
    (present : ∀ item ∈ items, (value item).isSome = true) :
    (items.filterMap value).map some = items.map value := by
  induction items with
  | nil => rfl
  | cons item rest induction =>
      rcases Option.isSome_iff_exists.mp (present item List.mem_cons_self) with ⟨found, same⟩
      rw [List.filterMap_cons_some same, List.map_cons, List.map_cons, same,
        induction fun other member => present other (List.mem_cons_of_mem _ member)]

end Entries

/-! ## What is kept of all futures -/

namespace EventExecutionContext

variable {heap : Heap} {context : EventExecutionContext}

theorem processExecutorResults_preserves {holds : EventExecutionContext → Prop}
    {outcomes : List Outcome} (step : ∀ outcome ∈ outcomes, ∀ context, holds context →
      holds (recordOutcome heap context outcome).1) (start : holds context) :
    holds (context.processExecutorResults heap outcomes).1 := by
  induction outcomes generalizing context with
  | nil => exact start
  | cons outcome rest induction =>
      have first := step outcome List.mem_cons_self context start
      rw [processExecutorResults]
      rcases recorded : context.recordOutcome heap outcome with ⟨middle, _ | interruption⟩
      · rw [recorded] at first
        apply induction _ first
        exact fun other member => step other (List.mem_cons_of_mem _ member)
      · rw [recorded] at first
        exact first

theorem switchTo_keeps (descriptor : Int) :
    (context.switchTo heap descriptor).1.executionResult = context.executionResult ∧
      (context.switchTo heap descriptor).1.errors = context.errors := by
  rw [switchTo, ← lastTask]
  cases context.lastTask heap with
  | none => exact ⟨rfl, rfl⟩
  | some task =>
      dsimp only
      cases descriptor.toNat?.bind task.extraConfig.getDescriptorConfig with
      | none => exact ⟨rfl, rfl⟩
      | some config => exact ⟨rfl, rfl⟩

section Received

variable {outcome : Outcome} {result : EventResult} {switch : Option Int}

theorem stoppedBy_errors (context : EventExecutionContext) (outcome : Outcome) :
    (context.stoppedBy outcome).errors = context.errors := by
  rw [stoppedBy]
  cases outcome.stops <;> rfl

theorem recordOutcome_add (received : outcome.receive = .ok (result, switch)) :
    (context.recordOutcome heap outcome).1.executionResult =
      context.executionResult.add (if result.error then result.asDict.2 else result) := by
  rw [recordOutcome_of_receive received, ← stoppedBy_executionResult context outcome]
  cases switch with
  | none => rfl
  | some descriptor =>
      simp only [switchTo_keeps]
      rfl

/-- Even when the result cannot be copied, it is there before that is tried. -/
theorem recordOutcome_keeps (made : outcome.result = .ok (result, switch)) :
    (context.recordOutcome heap outcome).1.executionResult =
      context.executionResult.add (if result.error then result.asDict.2 else result) := by
  cases received : outcome.receive with
  | ok answer =>
      have same := (Outcome.result_of_receive received).1
      rw [made] at same
      cases same
      exact recordOutcome_add received
  | error error =>
      have failed : result.error = true := by
        by_contra quiet
        rw [Outcome.receive_of_result made fun failed => absurd failed quiet] at received
        cases received
      rw [(recordOutcome_of_refused received).2.executionResult, made, if_pos failed]

theorem recordOutcome_unmade {error : PyError} (unmade : outcome.result = .error error) :
    (context.recordOutcome heap outcome).1.executionResult = context.executionResult := by
  have refused : outcome.receive = .error error := by rw [Outcome.receive, unmade]
  rw [(recordOutcome_of_refused refused).2.executionResult, unmade]

theorem recordOutcome_errors (received : outcome.receive = .ok (result, switch)) :
    (context.recordOutcome heap outcome).1.errors = context.errors ++
      if result.error then [⟨result.content, result.taskId, some result⟩] else [] := by
  rw [recordOutcome_of_receive received, ← stoppedBy_errors context outcome]
  cases switch with
  | none => rfl
  | some descriptor =>
      simp only [switchTo_keeps]
      rfl

end Received

structure Adds (outcomes : List Outcome) (before after : EventExecutionContext) : Prop where
  results : after.executionResult =
    before.executionResult ++ outcomes.filterMap Outcome.entry?
  errors : after.errors =
    before.errors ++ (outcomes.filter Outcome.isError).filterMap Outcome.error?

theorem adds_recordOutcome {outcome : Outcome} (recordable : outcome.Recordable)
    (new : outcome.resultId ∉ OrderedDict.keys context.executionResult) :
    Adds [outcome] context (context.recordOutcome heap outcome).1 := by
  obtain ⟨result, switch, received, entry, error, identity⟩ :=
    Outcome.entry_of_recordable recordable
  constructor
  · rw [← identity] at new
    rw [recordOutcome_add received, ResultSet.add, OrderedDict.insert_of_not_mem _ new, identity,
      List.filterMap_cons_some entry]
    rfl
  · rw [recordOutcome_errors received, outcome.receive_error received]
    cases failed : outcome.isError with
    | false =>
        rw [List.filter_cons_of_neg (by simp [failed])]
        rfl
    | true =>
        rw [List.filter_cons_of_pos failed, List.filterMap_cons_some error]
        rfl

theorem Adds.cons {outcome : Outcome} {rest : List Outcome}
    {before middle after : EventExecutionContext} (first : Adds [outcome] before middle)
    (later : Adds rest middle after) : Adds (outcome :: rest) before after := by
  constructor
  · rw [later.results, first.results, List.append_assoc, ← List.filterMap_append]
    rfl
  · rw [later.errors, first.errors, List.append_assoc, ← List.filterMap_append,
      ← List.filter_append]
    rfl

theorem adds_processExecutorResults {outcomes : List Outcome}
    (recordable : ∀ outcome ∈ outcomes, outcome.Recordable)
    (calm : ∀ outcome ∈ outcomes, outcome.Calm)
    (distinct : (OrderedDict.keys context.executionResult ++
      outcomes.map Outcome.resultId).Nodup) :
    Adds outcomes context (context.processExecutorResults heap outcomes).1 := by
  induction outcomes generalizing context with
  | nil => exact ⟨(List.append_nil _).symm, (List.append_nil _).symm⟩
  | cons outcome rest induction =>
      obtain ⟨result, received⟩ := calm outcome List.mem_cons_self
      have first := recordable outcome List.mem_cons_self
      have new : outcome.resultId ∉ OrderedDict.keys context.executionResult := by
        intro present
        exact (List.nodup_append.mp distinct).2.2 _ present _ List.mem_cons_self rfl
      have added := @adds_recordOutcome heap context outcome first new
      have quiet : (context.recordOutcome heap outcome).2 = none := by
        rw [recordOutcome_of_receive received]
      rw [processExecutorResults]
      rcases recorded : context.recordOutcome heap outcome with ⟨middle, interruption⟩
      rw [recorded] at added quiet
      cases quiet
      apply added.cons
      apply induction (fun other member => recordable other (List.mem_cons_of_mem _ member))
        fun other member => calm other (List.mem_cons_of_mem _ member)
      have entered : OrderedDict.keys middle.executionResult =
          OrderedDict.keys context.executionResult ++ [outcome.resultId] := by
        rw [added.results, OrderedDict.keys, List.map_append]
        exact congrArg _ (keys_entries (by simpa using first))
      rw [entered, List.append_assoc]
      exact distinct

theorem nodup_keys_recordOutcome (outcome : Outcome)
    (distinct : (OrderedDict.keys context.executionResult).Nodup) :
    (OrderedDict.keys (context.recordOutcome heap outcome).1.executionResult).Nodup := by
  cases made : outcome.result with
  | error error =>
      rw [recordOutcome_unmade made]
      exact distinct
  | ok answer =>
      rw [recordOutcome_keeps made]
      exact OrderedDict.nodup_keys_insert _ _ distinct

theorem nodup_keys_processExecutorResults (outcomes : List Outcome)
    (distinct : (OrderedDict.keys context.executionResult).Nodup) :
    (OrderedDict.keys (context.processExecutorResults heap outcomes).1.executionResult).Nodup :=
  @processExecutorResults_preserves heap context
    (fun context => (OrderedDict.keys context.executionResult).Nodup) outcomes
    (fun outcome _ _ => nodup_keys_recordOutcome outcome) distinct

/-! ## The result of one future among others -/

theorem get_recordOutcome {outcome : Outcome} {key : ResultId} (other : outcome.resultId ≠ key) :
    OrderedDict.get key (context.recordOutcome heap outcome).1.executionResult =
      OrderedDict.get key context.executionResult := by
  cases made : outcome.result with
  | error error => rw [recordOutcome_unmade made]
  | ok answer =>
      rw [recordOutcome_keeps made, ResultSet.add, OrderedDict.get_insert, if_neg]
      rw [Outcome.id_kept made]
      exact other

theorem get_processExecutorResults {outcomes : List Outcome} {key : ResultId}
    (others : ∀ outcome ∈ outcomes, outcome.resultId ≠ key) :
    OrderedDict.get key (context.processExecutorResults heap outcomes).1.executionResult =
      OrderedDict.get key context.executionResult := by
  apply @processExecutorResults_preserves heap context fun after =>
    OrderedDict.get key after.executionResult = OrderedDict.get key context.executionResult
  · intro outcome member before same
    rw [get_recordOutcome (others outcome member), same]
  · rfl

/-- The result of the first future is kept, whether it ends the loop or not. -/
theorem get_processExecutorResults_cons {outcome : Outcome} {rest : List Outcome}
    {result : EventResult} {switch : Option Int} (made : outcome.result = .ok (result, switch))
    (others : ∀ later ∈ rest, later.resultId ≠ outcome.resultId) :
    OrderedDict.get outcome.resultId
        (context.processExecutorResults heap (outcome :: rest)).1.executionResult =
      some (if result.error then result.asDict.2 else result) := by
  have first : OrderedDict.get outcome.resultId
      (context.recordOutcome heap outcome).1.executionResult =
        some (if result.error then result.asDict.2 else result) := by
    rw [recordOutcome_keeps made, ResultSet.add, OrderedDict.get_insert,
      if_pos (Outcome.id_kept made)]
  rw [processExecutorResults]
  rcases recorded : context.recordOutcome heap outcome with ⟨middle, _ | interruption⟩
  · rw [recorded] at first
    exact (get_processExecutorResults others).trans first
  · rw [recorded] at first
    exact first

/-! ## Futures that end the loop -/

variable {profiles : List TaskId} {outcomes : List Outcome}

/-- A future that asks to switch ends the loop: with its request, unless there is no task to look
it up in. -/
theorem recordOutcome_asks (heap : Heap) (context : EventExecutionContext) {outcome : Outcome}
    (asks : outcome.asksToSwitch = true) :
    ∃ interruption, (context.recordOutcome heap outcome).2 = some interruption ∧
      (EndsOrSwitches (some interruption) ↔ (context.lastTask heap).isSome = true) := by
  rw [Outcome.asksToSwitch] at asks
  rcases received : outcome.receive with error | ⟨result, _ | descriptor⟩
  · rw [received] at asks
    cases asks
  · rw [received] at asks
    cases asks
  · rw [recordOutcome_of_receive received]
    refine ⟨_, rfl, ?_⟩
    rw [← stoppedBy_lastTask outcome result, switchTo, ← lastTask]
    cases ((context.stoppedBy outcome).recorded result).lastTask heap with
    | none => exact iff_of_false id Bool.false_ne_true
    | some task =>
        dsimp only
        cases descriptor.toNat?.bind task.extraConfig.getDescriptorConfig with
        | none => exact iff_of_true trivial rfl
        | some config => exact iff_of_true trivial rfl

theorem processExecutorResults_interrupted {outcome : Outcome} {rest : List Outcome}
    {interruption : Interruption}
    (interrupts : (context.recordOutcome heap outcome).2 = some interruption) :
    context.processExecutorResults heap (outcome :: rest) =
      context.recordOutcome heap outcome := by
  rw [processExecutorResults]
  rcases recorded : context.recordOutcome heap outcome with ⟨after, ended⟩
  rw [recorded] at interrupts
  cases interrupts
  rfl

/-- A result that cannot be made or copied ends the loop when its future is visited first, and
one that is replaced is not kept. -/
theorem LosesNothing.recordable (keeps : LosesNothing heap profiles outcomes)
    {outcome : Outcome} (member : outcome ∈ outcomes) : outcome.Recordable := by
  obtain ⟨ends, kept, -⟩ := keeps (outcome :: outcomes.erase outcome)
    (List.perm_cons_erase member).symm
  cases received : outcome.receive with
  | error error =>
      rw [processExecutorResults_interrupted (recordOutcome_of_refused received).1,
        (recordOutcome_of_refused received).1] at ends
      exact absurd ends id
  | ok answer =>
      rcases Outcome.delivered_of_receive received with delivered | lost
      · exact outcome.recordable_iff.mpr ⟨_, _, received, delivered⟩
      · have silent : outcome.entry? = none := by rw [Outcome.entry?, lost, Option.map_none]
        have missing : none ∈ outcomes.map Outcome.entry? := by
          rw [← silent]
          exact List.mem_map_of_mem member
        have held := kept.results.mem_iff.mpr missing
        simp at held

theorem LosesNothing.distinct (keeps : LosesNothing heap profiles outcomes) :
    (outcomes.map Outcome.resultId).Nodup := by
  obtain ⟨-, kept, -⟩ := keeps outcomes (List.Perm.refl outcomes)
  have present : ∀ outcome ∈ outcomes, outcome.entry?.isSome = true := by
    intro outcome member
    obtain ⟨result, switch, -, entry, -⟩ := Outcome.entry_of_recordable (keeps.recordable member)
    rw [entry]
    rfl
  have results := kept.results
  rw [← map_some_filterMap present] at results
  have same := (List.map_perm_map_iff (Option.some_injective _)).mp results
  have keys := same.map Prod.fst
  rw [← keys_entries fun outcome member => keeps.recordable member]
  apply keys.nodup_iff.mp
  exact nodup_keys_processExecutorResults outcomes List.nodup_nil

/-- A future that asks to switch ends the loop when it is visited first. -/
theorem LosesNothing.alone (keeps : LosesNothing heap profiles outcomes) {outcome : Outcome}
    (member : outcome ∈ outcomes) (asks : outcome.asksToSwitch = true) :
    outcomes = [outcome] ∧ ((executing profiles).lastTask heap).isSome = true := by
  obtain ⟨ends, kept, -⟩ := keeps (outcome :: outcomes.erase outcome)
    (List.perm_cons_erase member).symm
  obtain ⟨interruption, interrupts, proper⟩ := recordOutcome_asks heap (executing profiles) asks
  rw [processExecutorResults_interrupted interrupts] at ends kept
  constructor
  · have recordable := keeps.recordable member
    have added := @adds_recordOutcome heap (executing profiles) outcome recordable List.not_mem_nil
    obtain ⟨result, switch, -, entry, -⟩ := Outcome.entry_of_recordable recordable
    have same := kept.results
    rw [added.results, List.filterMap_cons_some entry] at same
    have one : outcomes.length = 1 := by
      rw [← List.length_map Outcome.entry?, ← same.length_eq]
      rfl
    obtain ⟨only, rfl⟩ := List.length_eq_one_iff.mp one
    rw [List.mem_singleton.mp member]
  · rw [interrupts] at ends
    exact proper.mp ends

theorem LosesNothing.undisturbed (keeps : LosesNothing heap profiles outcomes) :
    Undisturbed heap profiles outcomes where
  distinct := keeps.distinct
  recordable _ member := keeps.recordable member
  alone _ member asks := keeps.alone member asks

/-! ## Futures that do not -/

theorem Adds.keepsEach {after : EventExecutionContext}
    (added : Adds outcomes (executing profiles) after)
    (recordable : ∀ outcome ∈ outcomes, outcome.Recordable) : KeepsEach outcomes after where
  results := by
    have results : after.executionResult = outcomes.filterMap Outcome.entry? := added.results
    rw [results, map_some_filterMap]
    intro outcome member
    obtain ⟨result, switch, -, entry, -⟩ := Outcome.entry_of_recordable (recordable _ member)
    rw [entry]
    rfl
  errors := by
    have errors : after.errors =
        (outcomes.filter Outcome.isError).filterMap Outcome.error? := added.errors
    rw [errors, map_some_filterMap]
    intro outcome member
    obtain ⟨result, switch, -, -, error, -⟩ :=
      Outcome.entry_of_recordable (recordable _ (List.mem_of_mem_filter member))
    rw [error]
    rfl

theorem KeepsEach.perm {order : List Outcome} {after : EventExecutionContext}
    (kept : KeepsEach order after) (perm : order.Perm outcomes) : KeepsEach outcomes after where
  results := kept.results.trans (perm.map _)
  errors := kept.errors.trans ((perm.filter _).map _)

theorem processExecutorResults_state_of_calm {order : List Outcome} (perm : order.Perm outcomes)
    (calm : ∀ outcome ∈ order, outcome.Calm) :
    (context.processExecutorResults heap order).1.state =
      if outcomes.any Outcome.stops then .cancelled else context.state := by
  have ended := processExecutorResults_cases heap context order
  rw [processExecutorResults_calm calm] at ended
  cases ended with
  | calm _ state => rw [state, perm.any_eq]

/-- Without a future that asks to switch, the loop visits all futures. -/
theorem losesNothing_of_calm (distinct : (outcomes.map Outcome.resultId).Nodup)
    (recordable : ∀ outcome ∈ outcomes, outcome.Recordable)
    (calm : ∀ outcome ∈ outcomes, outcome.Calm) : LosesNothing heap profiles outcomes := by
  have visits : ∀ {order : List Outcome}, order.Perm outcomes →
      ∀ outcome ∈ order, outcome.Calm :=
    fun perm outcome member => calm outcome (perm.mem_iff.mp member)
  have records : ∀ {order : List Outcome}, order.Perm outcomes →
      ∀ outcome ∈ order, outcome.Recordable :=
    fun perm outcome member => recordable outcome (perm.mem_iff.mp member)
  have adds : ∀ {order : List Outcome}, order.Perm outcomes →
      Adds order (executing profiles)
        ((executing profiles).processExecutorResults heap order).1 := by
    intro order perm
    apply adds_processExecutorResults (records perm) (visits perm)
    exact (perm.map Outcome.resultId).nodup_iff.mpr distinct
  intro order perm
  refine ⟨?_, ((adds perm).keepsEach (records perm)).perm perm, ?_⟩
  · rw [processExecutorResults_calm (visits perm)]
    trivial
  · intro other otherPerm
    have same := perm.trans otherPerm.symm
    constructor
    · rw [(adds perm).results, (adds otherPerm).results]
      exact (same.filterMap _).append_left _
    · rw [(adds perm).errors, (adds otherPerm).errors]
      exact ((same.filter _).filterMap _).append_left _
    · rw [processExecutorResults_state_of_calm perm (visits perm),
        processExecutorResults_state_of_calm otherPerm (visits otherPerm)]

theorem losesNothing_of_alone {outcome : Outcome} (recordable : outcome.Recordable)
    (asks : outcome.asksToSwitch = true)
    (found : ((executing profiles).lastTask heap).isSome = true) :
    LosesNothing heap profiles [outcome] := by
  obtain ⟨interruption, interrupts, proper⟩ := recordOutcome_asks heap (executing profiles) asks
  intro order perm
  rw [List.perm_singleton.mp perm, processExecutorResults_interrupted interrupts]
  refine ⟨?_, ?_, ?_⟩
  · rw [interrupts]
    exact proper.mpr found
  · apply (adds_recordOutcome recordable List.not_mem_nil).keepsEach
    simpa using recordable
  · intro other otherPerm
    rw [List.perm_singleton.mp otherPerm, processExecutorResults_interrupted interrupts]
    exact ⟨.refl _, .refl _, rfl⟩

theorem Undisturbed.losesNothing (undisturbed : Undisturbed heap profiles outcomes) :
    LosesNothing heap profiles outcomes := by
  by_cases asks : ∃ outcome ∈ outcomes, outcome.asksToSwitch = true
  · obtain ⟨outcome, member, asks⟩ := asks
    have recordable := undisturbed.recordable outcome member
    obtain ⟨single, found⟩ := undisturbed.alone outcome member asks
    rw [single]
    exact losesNothing_of_alone recordable asks found
  · apply losesNothing_of_calm undisturbed.distinct undisturbed.recordable
    intro outcome member
    rcases outcome.calm_or_asks (undisturbed.recordable outcome member) with calm | switches
    · exact calm
    · exact absurd ⟨outcome, member, switches⟩ asks

end EventExecutionContext

/-- `A` of `S->A||B` asks to switch, and `B` succeeds. -/
def switchBesideSuccess : List Outcome :=
  [.switched 2 ⟨0, false, "A", .value "done", some 1, none, none, none⟩,
    .returned ⟨1, false, "B", .value "done", some 2, none, none, none⟩]

end EventPipeline
