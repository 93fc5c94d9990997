import EventPipeline.Telemetry.StandardLogger

/-! # Starts and ends

An end or a retry should belong to the metric of the event that was started last and is still
pending. The logger finds a metric only when the event has been started exactly once, and it does
not ask whether the metric that it finds is pending.
-/

namespace EventPipeline

/-- A call of the logger. -/
inductive TelemetryCall
  | startEvent (eventName taskId : String) (processId : Option Int) (pipelineId : Option String)
  | recordRetry (taskId name : String)
  | endEvent (taskId name : String) (error : Option String)
deriving DecidableEq, Repr

def updateLast {Value : Type} (holds : Value → Bool) (update : Value → Value) :
    List Value → List Value
  | [] => []
  | value :: rest =>
      if rest.any holds then value :: updateLast holds update rest
      else if holds value then update value :: rest
      else value :: rest

namespace EventMetrics

variable {Time : Type}

def isOf (name taskId : String) (metric : EventMetrics Time) : Bool :=
  metric.eventName = name ∧ metric.taskId = taskId

def isPendingOf (name taskId : String) (metric : EventMetrics Time) : Bool :=
  metric.isOf name taskId ∧ metric.status = .pending

/-- How an event should be ended. -/
def finished (now : Time) (error : Option String) (metric : EventMetrics Time) :
    EventMetrics Time :=
  { metric with
    endTime := some now, status := if error.isSome then .failed else .completed, error := error }

end EventMetrics

namespace StandardTelemetryLogger

variable {Time : Type}

def step (source : IdentitySource) (logger : StandardTelemetryLogger Time) (now : Time) :
    TelemetryCall → StandardTelemetryLogger Time × Except LookupError Unit
  | .startEvent eventName taskId processId pipelineId =>
      (logger.startEvent source now eventName taskId processId pipelineId, .ok ())
  | .recordRetry taskId name => logger.recordRetry taskId name
  | .endEvent taskId name error => logger.endEvent now taskId name error

def after (source : IdentitySource) (publishers : List (EventMetrics Time → Except String Unit))
    (calls : List (Time × TelemetryCall)) : StandardTelemetryLogger Time :=
  calls.foldl (fun logger call => (logger.step source call.1 call.2).1)
    { publishers := publishers }

/-- The call does not raise, and what it does to the metrics is to be expected. -/
def Meets (source : IdentitySource) (logger : StandardTelemetryLogger Time) (now : Time)
    (call : TelemetryCall) : Prop :=
  (logger.step source now call).2 = .ok () ∧
    match call with
    | .startEvent eventName taskId processId pipelineId =>
        ∃ id, (logger.step source now call).1.metrics.iter = logger.metrics.iter ++
          [{ id := id, eventName := eventName, taskId := taskId, startTime := now,
             processId := processId, pipelineId := pipelineId }]
    | .recordRetry taskId name =>
        (logger.step source now call).1.metrics.iter =
          updateLast (EventMetrics.isPendingOf name taskId) retried logger.metrics.iter
    | .endEvent taskId name error =>
        (logger.step source now call).1.metrics.iter =
          updateLast (EventMetrics.isPendingOf name taskId) (EventMetrics.finished now error)
            logger.metrics.iter

/-- The event of an end or a retry has been started exactly once and is pending, and the error of
an end is not empty; or the event has been ended already, at this very time with this very error. -/
def Expected (metrics : List (EventMetrics Time)) (now : Time) : TelemetryCall → Prop
  | .startEvent _ _ _ _ => True
  | .recordRetry taskId name =>
      ∃ metric, metrics.filter (EventMetrics.isOf name taskId) = [metric] ∧
        metric.status = .pending
  | .endEvent taskId name error =>
      ∃ metric, metrics.filter (EventMetrics.isOf name taskId) = [metric] ∧
        if metric.status = .pending then error ≠ some ""
        else metric.endTime = some now ∧ metric.error = error

/-- Every call of a run is met. -/
def PairsStartsWithEnds (source : IdentitySource)
    (publishers : List (EventMetrics Time → Except String Unit))
    (calls : List (Time × TelemetryCall)) : Prop :=
  ∀ front now call back, calls = front ++ (now, call) :: back →
    Meets source (after source publishers front) now call

end StandardTelemetryLogger

/-! ## Updating one value of a list -/

section Lists

variable {Value : Type} {holds : Value → Bool} {update : Value → Value}

theorem updateLast_of_none {values : List Value} (none : ∀ value ∈ values, holds value = false) :
    updateLast holds update values = values := by
  cases values with
  | nil => rfl
  | cons value rest =>
      have later : rest.any holds = false := by
        rw [List.any_eq_false]
        exact fun other member => by simp [none other (List.mem_cons_of_mem _ member)]
      simp [updateLast, later, none value List.mem_cons_self]

theorem updateLast_append {front back : List Value} {value : Value} (here : holds value = true)
    (later : ∀ other ∈ back, holds other = false) :
    updateLast holds update (front ++ value :: back) = front ++ update value :: back := by
  induction front with
  | nil =>
      have none : back.any holds = false := by
        rw [List.any_eq_false]
        exact fun other member => by simp [later other member]
      simp [updateLast, none, here]
  | cons first front induction =>
      have some : (front ++ value :: back).any holds = true := by
        rw [List.any_eq_true]
        exact ⟨value, by simp, here⟩
      rw [List.cons_append, updateLast, if_pos some, induction, List.cons_append]

theorem updateLast_ne (changes : ∀ value, holds value = true → update value ≠ value)
    {values : List Value} (some : values.any holds = true) :
    updateLast holds update values ≠ values := by
  induction values with
  | nil => cases some
  | cons value rest induction =>
      intro same
      by_cases later : rest.any holds = true
      · rw [updateLast, if_pos later] at same
        exact induction later (List.cons.inj same).2
      · have here : holds value = true := by
          simpa [later] using some
        rw [updateLast, if_neg later, if_pos here] at same
        exact changes value here (List.cons.inj same).1

end Lists

/-! ## Looking up a metric -/

/-- A result set that is made from results with different identities keeps them all. -/
theorem ResultContent.iter_foldl_store {Entity : Type} [ObjectIdentity Entity]
    {values : List Entity} (nodup : (values.map ObjectIdentity.id).Nodup) :
    ResultContent.iter (values.foldl ResultContent.store []) = values := by
  have stored : values.foldl ResultContent.store [] =
      OrderedDict.update [] (values.map fun value => (ObjectIdentity.id value, value)) := by
    rw [OrderedDict.update, List.foldl_map]
    rfl
  rw [stored, OrderedDict.update_of_disjoint]
  · simp [ResultContent.iter, Function.comp_def]
  · simpa [OrderedDict.keys, Function.comp_def] using nodup

namespace StandardTelemetryLogger

variable {Time : Type}

theorem matchesFilters_eq (name taskId : String) (metric : EventMetrics Time) :
    ResultContent.matchesFilters EventMetrics.getattr
      [("event_name", name), ("task_id", taskId)] metric = metric.isOf name taskId := by
  simp [ResultContent.matchesFilters, EventMetrics.getattr, EventMetrics.isOf,
    Bool.beq_eq_decide_eq]

/-- What holds of the logger at any time. Of an event that has been started more than once, the
last metric is pending, since none of its metrics is found any more. -/
structure Sound (source : IdentitySource) (logger : StandardTelemetryLogger Time) : Prop where
  keyed : ∀ entry ∈ logger.metrics, entry.1 = entry.2.id
  nodup : (OrderedDict.keys logger.metrics).Nodup
  generated : ∀ key ∈ OrderedDict.keys logger.metrics,
    ∃ number < logger.generated, source.identity number = key
  status : ∀ metric ∈ logger.metrics.iter,
    metric.status = .pending ∨ metric.status = endStatus metric.error
  last : ∀ name taskId front metric,
    logger.metrics.iter.filter (EventMetrics.isOf name taskId) = front ++ [metric] →
      front ≠ [] → metric.status = .pending

namespace Sound

variable {source : IdentitySource} {logger : StandardTelemetryLogger Time}

theorem ids_eq (sound : Sound source logger) :
    logger.metrics.iter.map EventMetrics.id = OrderedDict.keys logger.metrics := by
  rw [ResultContent.iter, OrderedDict.keys, List.map_map]
  apply List.map_congr_left
  intro entry member
  exact (sound.keyed entry member).symm

theorem nodup_ids (sound : Sound source logger) :
    (logger.metrics.iter.map EventMetrics.id).Nodup :=
  sound.ids_eq ▸ sound.nodup

theorem iter_filter_eq (sound : Sound source logger) (name taskId : String) :
    (logger.metrics.filter EventMetrics.getattr
      [("event_name", name), ("task_id", taskId)]).iter =
        logger.metrics.iter.filter (EventMetrics.isOf name taskId) := by
  rw [ResultContent.filter, funext (matchesFilters_eq name taskId)]
  apply ResultContent.iter_foldl_store
  exact sound.nodup_ids.sublist (List.filter_sublist.map EventMetrics.id)

theorem getMetric_of_none (sound : Sound source logger) {name taskId : String}
    (found : logger.metrics.iter.filter (EventMetrics.isOf name taskId) = []) :
    logger.getMetric name taskId =
      .error (.keyError [("event_name", name), ("task_id", taskId)]) := by
  rw [getMetric, ResultContent.get, sound.iter_filter_eq, found]

theorem getMetric_of_one (sound : Sound source logger) {name taskId : String}
    {metric : EventMetrics Time}
    (found : logger.metrics.iter.filter (EventMetrics.isOf name taskId) = [metric]) :
    logger.getMetric name taskId = .ok metric := by
  rw [getMetric, ResultContent.get, sound.iter_filter_eq, found]

theorem getMetric_of_several (sound : Sound source logger) {name taskId : String}
    {first second : EventMetrics Time} {rest : List (EventMetrics Time)}
    (found : logger.metrics.iter.filter (EventMetrics.isOf name taskId) =
      first :: second :: rest) :
    logger.getMetric name taskId =
      .error (.multiValueError [("event_name", name), ("task_id", taskId)]
        (rest.length + 2)) := by
  rw [getMetric, ResultContent.get, sound.iter_filter_eq, found]
  rfl

theorem iter_modifyMetric (sound : Sound source logger) (metric : EventMetrics Time)
    (update : EventMetrics Time → EventMetrics Time) :
    (logger.modifyMetric metric update).metrics.iter =
      logger.metrics.iter.map fun other =>
        if other.id = metric.id then update other else other := by
  rw [modifyMetric, ResultContent.iter, ResultContent.iter, List.map_map, List.map_map]
  apply List.map_congr_left
  intro entry member
  rw [Function.comp_apply, Function.comp_apply, sound.keyed entry member]
  split <;> rfl

theorem eq_of_id_eq (sound : Sound source logger) {metric other : EventMetrics Time}
    (member : metric ∈ logger.metrics.iter) (also : other ∈ logger.metrics.iter)
    (same : other.id = metric.id) : other = metric :=
  List.inj_on_of_nodup_map sound.nodup_ids also member same

theorem iter_modifyMetric_append (sound : Sound source logger) {metric : EventMetrics Time}
    {front back : List (EventMetrics Time)}
    (listed : logger.metrics.iter = front ++ metric :: back)
    (update : EventMetrics Time → EventMetrics Time) :
    (logger.modifyMetric metric update).metrics.iter = front ++ update metric :: back := by
  have distinct := sound.nodup_ids
  rw [listed, List.map_append, List.map_cons, List.nodup_append] at distinct
  obtain ⟨-, behind, before⟩ := distinct
  rw [sound.iter_modifyMetric, listed, List.map_append, List.map_cons, if_pos rfl]
  have kept : ∀ others : List (EventMetrics Time), (∀ other ∈ others, other.id ≠ metric.id) →
      (others.map fun other => if other.id = metric.id then update other else other) =
        others := by
    intro others apart
    calc
      _ = others.map fun other => other :=
        List.map_congr_left fun other member => if_neg (apart other member)
      _ = others := List.map_id' others
  rw [kept front, kept back]
  · intro other member same
    apply (List.nodup_cons.mp behind).1
    rw [← same]
    exact List.mem_map_of_mem member
  · intro other member
    exact before other.id (List.mem_map_of_mem member) metric.id List.mem_cons_self

/-! ## Every call keeps the logger sound -/

theorem of_eq (sound : Sound source logger) {other : StandardTelemetryLogger Time}
    (sameMetrics : other.metrics = logger.metrics)
    (sameGenerated : other.generated = logger.generated) : Sound source other where
  keyed := sameMetrics ▸ sound.keyed
  nodup := sameMetrics ▸ sound.nodup
  generated := sameMetrics ▸ sameGenerated ▸ sound.generated
  status := sameMetrics ▸ sound.status
  last := sameMetrics ▸ sound.last

theorem initial (publishers : List (EventMetrics Time → Except String Unit)) :
    Sound source { publishers := publishers } where
  keyed := fun _ member => nomatch member
  nodup := List.nodup_nil
  generated := fun _ member => nomatch member
  status := fun _ member => nomatch member
  last := by
    intro name taskId front metric found
    exact absurd found.symm (by simp [ResultContent.iter])

variable (now : Time) (eventName taskId : String) (processId : Option Int)
  (pipelineId : Option String)

theorem metrics_startEvent (sound : Sound source logger) :
    (logger.startEvent source now eventName taskId processId pipelineId).metrics =
      logger.metrics ++ [(source.identity logger.generated,
        { id := source.identity logger.generated, eventName := eventName, taskId := taskId,
          startTime := now, processId := processId, pipelineId := pipelineId })] := by
  apply OrderedDict.insert_of_not_mem
  intro present
  obtain ⟨number, earlier, same⟩ := sound.generated _ present
  exact Nat.ne_of_lt earlier (source.injective same)

theorem iter_startEvent (sound : Sound source logger) :
    (logger.startEvent source now eventName taskId processId pipelineId).metrics.iter =
      logger.metrics.iter ++
        [{ id := source.identity logger.generated, eventName := eventName, taskId := taskId,
           startTime := now, processId := processId, pipelineId := pipelineId }] := by
  rw [sound.metrics_startEvent, ResultContent.iter, List.map_append]
  rfl

theorem startEvent (sound : Sound source logger) :
    Sound source (logger.startEvent source now eventName taskId processId pipelineId) := by
  have metrics := sound.metrics_startEvent now eventName taskId processId pipelineId
  have iter := sound.iter_startEvent now eventName taskId processId pipelineId
  constructor
  · rw [metrics]
    intro entry member
    rcases List.mem_append.mp member with member | member
    · exact sound.keyed entry member
    · rw [List.mem_singleton.mp member]
  · exact OrderedDict.nodup_keys_insert _ _ sound.nodup
  · rw [metrics]
    intro key member
    rw [OrderedDict.keys, List.map_append, List.mem_append] at member
    rcases member with member | member
    · obtain ⟨number, earlier, same⟩ := sound.generated key member
      exact ⟨number, Nat.lt_succ_of_lt earlier, same⟩
    · exact ⟨logger.generated, Nat.lt_succ_self _, (List.mem_singleton.mp member).symm⟩
  · rw [iter]
    intro metric member
    rcases List.mem_append.mp member with member | member
    · exact sound.status metric member
    · rw [List.mem_singleton.mp member]
      exact .inl rfl
  · rw [iter]
    intro name task front metric found several
    rw [List.filter_append] at found
    by_cases own : eventName = name ∧ taskId = task
    · rw [List.filter_cons_of_pos (by simp [EventMetrics.isOf, own]), List.filter_nil] at found
      rw [← (List.append_inj' found rfl).2 |> List.singleton_inj.mp]
    · rw [List.filter_cons_of_neg (by simpa [EventMetrics.isOf] using own), List.filter_nil,
        List.append_nil] at found
      exact sound.last name task front metric found several

theorem keys_modifyMetric (metric : EventMetrics Time)
    (update : EventMetrics Time → EventMetrics Time) :
    OrderedDict.keys (logger.modifyMetric metric update).metrics =
      OrderedDict.keys logger.metrics := by
  rw [StandardTelemetryLogger.modifyMetric, OrderedDict.keys, OrderedDict.keys, List.map_map]
  apply List.map_congr_left
  intro entry _
  rw [Function.comp_apply]
  split <;> rfl

theorem filter_modifyMetric (sound : Sound source logger) (metric : EventMetrics Time)
    {update : EventMetrics Time → EventMetrics Time}
    (keepsEvent : ∀ metric name task, (update metric).isOf name task = metric.isOf name task)
    (name task : String) :
    (logger.modifyMetric metric update).metrics.iter.filter (EventMetrics.isOf name task) =
      (logger.metrics.iter.filter (EventMetrics.isOf name task)).map fun other =>
        if other.id = metric.id then update other else other := by
  have commutes : (EventMetrics.isOf name task ∘ fun other =>
      if other.id = metric.id then update other else other) = EventMetrics.isOf name task := by
    funext other
    rw [Function.comp_apply]
    split
    · exact keepsEvent other name task
    · rfl
  rw [sound.iter_modifyMetric, List.filter_map, commutes]

theorem mem_of_found {name task : String} {metric : EventMetrics Time}
    (found : logger.metrics.iter.filter (EventMetrics.isOf name task) = [metric]) :
    metric ∈ logger.metrics.iter ∧ metric.isOf name task = true := by
  rw [← List.mem_filter, found]
  exact List.mem_singleton_self metric

theorem ne_of_several (sound : Sound source logger) {name task otherName otherTask : String}
    {metric last : EventMetrics Time} {front : List (EventMetrics Time)}
    (found : logger.metrics.iter.filter (EventMetrics.isOf name task) = [metric])
    (several : logger.metrics.iter.filter (EventMetrics.isOf otherName otherTask) =
      front ++ [last]) (nonempty : front ≠ []) : last.id ≠ metric.id := by
  obtain ⟨member, own⟩ := mem_of_found found
  have listed : last ∈ logger.metrics.iter.filter (EventMetrics.isOf otherName otherTask) := by
    rw [several]
    exact List.mem_append_right front (List.mem_singleton_self last)
  obtain ⟨stored, event⟩ := List.mem_filter.mp listed
  intro same
  rw [sound.eq_of_id_eq member stored same] at event
  simp only [EventMetrics.isOf, decide_eq_true_eq] at event own
  rw [← event.1, ← event.2, own.1, own.2, found] at several
  cases front with
  | nil => exact nonempty rfl
  | cons first rest =>
      have lengths := congrArg List.length several
      simp at lengths

theorem modifyMetric (sound : Sound source logger) {name task : String}
    {metric : EventMetrics Time} {update : EventMetrics Time → EventMetrics Time}
    (found : logger.metrics.iter.filter (EventMetrics.isOf name task) = [metric])
    (keepsId : ∀ metric, (update metric).id = metric.id)
    (keepsEvent : ∀ metric name task, (update metric).isOf name task = metric.isOf name task)
    (status : (update metric).status = .pending ∨
      (update metric).status = endStatus (update metric).error) :
    Sound source (logger.modifyMetric metric update) := by
  constructor
  · intro entry changed
    obtain ⟨before, stored, rfl⟩ := List.mem_map.mp changed
    have keyed := sound.keyed before stored
    split
    · rw [keepsId]
      exact keyed
    · exact keyed
  · rw [keys_modifyMetric]
    exact sound.nodup
  · rw [keys_modifyMetric]
    exact sound.generated
  · rw [sound.iter_modifyMetric]
    intro changed mapped
    obtain ⟨before, stored, rfl⟩ := List.mem_map.mp mapped
    split
    · rename_i same
      rw [sound.eq_of_id_eq (mem_of_found found).1 stored same]
      exact status
    · exact sound.status before stored
  · intro otherName otherTask front last filtered several
    rw [sound.filter_modifyMetric metric keepsEvent, List.map_eq_append_iff] at filtered
    obtain ⟨before, ending, split, rfl, ended⟩ := filtered
    obtain ⟨earlier, rfl, rfl⟩ := List.map_eq_singleton_iff.mp ended
    have some : before ≠ [] := fun none => several (by rw [none, List.map_nil])
    rw [if_neg (sound.ne_of_several found split some)]
    exact sound.last otherName otherTask before earlier split some

theorem step (sound : Sound source logger) (call : TelemetryCall) :
    Sound source (logger.step source now call).1 := by
  cases call with
  | startEvent eventName taskId processId pipelineId =>
      exact sound.startEvent now eventName taskId processId pipelineId
  | recordRetry taskId name =>
      rw [StandardTelemetryLogger.step, recordRetry]
      rcases filtered : logger.metrics.iter.filter (EventMetrics.isOf name taskId) with
        _ | ⟨metric, _ | ⟨second, rest⟩⟩
      · rw [sound.getMetric_of_none filtered]
        exact sound
      · rw [sound.getMetric_of_one filtered]
        exact sound.modifyMetric filtered (fun _ => rfl) (fun _ _ _ => rfl)
          (sound.status metric (mem_of_found filtered).1)
      · rw [sound.getMetric_of_several filtered]
        exact sound
  | endEvent taskId name error =>
      rw [StandardTelemetryLogger.step, endEvent]
      rcases filtered : logger.metrics.iter.filter (EventMetrics.isOf name taskId) with
        _ | ⟨metric, _ | ⟨second, rest⟩⟩
      · rw [sound.getMetric_of_none filtered]
        exact sound
      · rw [sound.getMetric_of_one filtered]
        have changed : Sound source (logger.modifyMetric metric (ended now error)) :=
          sound.modifyMetric filtered (fun _ => rfl) (fun _ _ _ => rfl) (.inr rfl)
        exact changed.of_eq rfl rfl
      · rw [sound.getMetric_of_several filtered]
        exact sound.of_eq rfl rfl

end Sound

theorem sound_after (source : IdentitySource)
    (publishers : List (EventMetrics Time → Except String Unit))
    (calls : List (Time × TelemetryCall)) : Sound source (after source publishers calls) := by
  rw [after]
  have kept : ∀ logger : StandardTelemetryLogger Time, Sound source logger →
      Sound source (calls.foldl (fun logger call => (logger.step source call.1 call.2).1)
        logger) := by
    induction calls with
    | nil => exact fun _ sound => sound
    | cons call calls induction =>
        exact fun logger sound => induction _ (sound.step call.1 call.2)
  exact kept _ (.initial publishers)

/-! ## One call -/

section Call

variable {source : IdentitySource} {logger : StandardTelemetryLogger Time} {name taskId : String}

theorem isPendingOf_imp_isOf {metric : EventMetrics Time}
    (pending : metric.isPendingOf name taskId = true) : metric.isOf name taskId = true := by
  simp only [EventMetrics.isPendingOf, decide_eq_true_eq] at pending
  exact pending.1

theorem updateLast_of_one {metric : EventMetrics Time}
    {update : EventMetrics Time → EventMetrics Time} {front back : List (EventMetrics Time)}
    (before : ∀ other ∈ front, ¬other.isOf name taskId = true)
    (own : metric.isOf name taskId = true)
    (behind : back.filter (EventMetrics.isOf name taskId) = []) :
    updateLast (EventMetrics.isPendingOf name taskId) update (front ++ metric :: back) =
      front ++ (if metric.status = .pending then update metric else metric) :: back := by
  have later : ∀ other ∈ back, other.isPendingOf name taskId = false := by
    intro other member
    rw [← Bool.not_eq_true]
    exact fun pending => List.filter_eq_nil_iff.mp behind other member
      (isPendingOf_imp_isOf pending)
  by_cases pending : metric.status = .pending
  · rw [updateLast_append (by simp [EventMetrics.isPendingOf, own, pending]) later,
      if_pos pending]
  · rw [if_neg pending]
    apply updateLast_of_none
    intro other member
    rw [← Bool.not_eq_true]
    intro holds
    rcases List.mem_append.mp member with member | member
    · exact before other member (isPendingOf_imp_isOf holds)
    · rcases List.mem_cons.mp member with rfl | member
      · simp only [EventMetrics.isPendingOf, decide_eq_true_eq] at holds
        exact pending holds.2
      · rw [later other member] at holds
        cases holds

theorem ended_eq_finished (now : Time) (error : Option String) (metric : EventMetrics Time) :
    ended now error metric = metric.finished now error ↔ error ≠ some "" := by
  rw [ended, EventMetrics.finished]
  cases error with
  | none => simp [endStatus]
  | some text =>
      by_cases empty : text = ""
      · subst empty
        simp [endStatus]
      · simp [endStatus, empty]

/-- `end_event` does what it should to a metric that is pending, unless the error is empty, and
to one that has ended with the same outcome at the same time. -/
theorem ended_eq_iff (now : Time) (error : Option String) {metric : EventMetrics Time}
    (status : metric.status = .pending ∨ metric.status = endStatus metric.error) :
    ended now error metric =
        (if metric.status = .pending then metric.finished now error else metric) ↔
      if metric.status = .pending then error ≠ some ""
      else metric.endTime = some now ∧ metric.error = error := by
  by_cases pending : metric.status = .pending
  · rw [if_pos pending, if_pos pending, ended_eq_finished]
  · rw [if_neg pending, if_neg pending]
    constructor
    · intro same
      exact ⟨(congrArg EventMetrics.endTime same).symm, (congrArg EventMetrics.error same).symm⟩
    · rintro ⟨sameTime, sameError⟩
      have sameStatus := status.resolve_left pending
      rw [ended, ← sameTime, ← sameError, ← sameStatus]

theorem meets_recordRetry_iff (sound : Sound source logger) (now : Time) :
    Meets source logger now (.recordRetry taskId name) ↔
      Expected logger.metrics.iter now (.recordRetry taskId name) := by
  rw [Meets, Expected, step, recordRetry]
  rcases filtered : logger.metrics.iter.filter (EventMetrics.isOf name taskId) with
    _ | ⟨metric, _ | ⟨second, rest⟩⟩
  · rw [sound.getMetric_of_none filtered]
    exact iff_of_false (fun meets => nomatch meets.1) fun ⟨_, same, _⟩ => nomatch same
  · rw [sound.getMetric_of_one filtered]
    obtain ⟨front, back, listed, before, own, behind⟩ := List.filter_eq_cons_iff.mp filtered
    rw [sound.iter_modifyMetric_append listed, listed, updateLast_of_one before own behind]
    have assigned : front ++ retried metric :: back =
        front ++ (if metric.status = .pending then retried metric else metric) :: back ↔
          metric.status = .pending := by
      rw [List.append_cancel_left_eq, List.cons.injEq, and_iff_left rfl]
      by_cases pending : metric.status = .pending
      · simp [pending]
      · rw [if_neg pending]
        refine iff_of_false (fun same => ?_) pending
        exact Nat.succ_ne_self _ (congrArg EventMetrics.retryCount same)
    rw [assigned]
    simp
  · rw [sound.getMetric_of_several filtered]
    exact iff_of_false (fun meets => nomatch meets.1) fun ⟨_, same, _⟩ => nomatch same

theorem any_isPendingOf (sound : Sound source logger) {first second : EventMetrics Time}
    {rest : List (EventMetrics Time)}
    (filtered : logger.metrics.iter.filter (EventMetrics.isOf name taskId) =
      first :: second :: rest) :
    logger.metrics.iter.any (EventMetrics.isPendingOf name taskId) = true := by
  obtain ⟨front, last, split⟩ : ∃ front last, first :: second :: rest = front ++ [last] :=
    ⟨_, _, (List.dropLast_append_getLast (List.cons_ne_nil _ _)).symm⟩
  rw [split] at filtered
  have several : front ≠ [] := by
    rintro rfl
    cases split
  have pending := sound.last name taskId front last filtered several
  have listed : last ∈ logger.metrics.iter.filter (EventMetrics.isOf name taskId) := by
    rw [filtered]
    exact List.mem_append_right front (List.mem_singleton_self last)
  obtain ⟨member, own⟩ := List.mem_filter.mp listed
  rw [List.any_eq_true]
  refine ⟨last, member, ?_⟩
  simp only [EventMetrics.isPendingOf, decide_eq_true_eq]
  exact ⟨own, pending⟩

theorem meets_endEvent_iff (sound : Sound source logger) (now : Time) (error : Option String) :
    Meets source logger now (.endEvent taskId name error) ↔
      Expected logger.metrics.iter now (.endEvent taskId name error) := by
  rw [Meets, Expected, step, endEvent]
  rcases filtered : logger.metrics.iter.filter (EventMetrics.isOf name taskId) with
    _ | ⟨metric, _ | ⟨second, rest⟩⟩
  · rw [sound.getMetric_of_none filtered]
    exact iff_of_false (fun meets => nomatch meets.1) fun ⟨_, same, _⟩ => nomatch same
  · rw [sound.getMetric_of_one filtered]
    obtain ⟨front, back, listed, before, own, behind⟩ := List.filter_eq_cons_iff.mp filtered
    have changed : ((logger.modifyMetric metric (ended now error)).publish
        (ended now error metric)).metrics.iter = front ++ ended now error metric :: back :=
      sound.iter_modifyMetric_append listed (ended now error)
    simp only [changed]
    rw [listed, updateLast_of_one before own behind]
    have status := sound.status metric (Sound.mem_of_found filtered).1
    rw [List.append_cancel_left_eq, List.cons.injEq, and_iff_left rfl,
      ended_eq_iff now error status]
    simp
  · rw [sound.getMetric_of_several filtered]
    apply iff_of_false
    · rintro ⟨-, same⟩
      refine updateLast_ne ?_ (any_isPendingOf sound filtered) same.symm
      intro metric holds unchanged
      simp only [EventMetrics.isPendingOf, decide_eq_true_eq] at holds
      have status := congrArg EventMetrics.status unchanged
      rw [holds.2, EventMetrics.finished] at status
      cases error <;> cases status
    · exact fun ⟨_, same, _⟩ => nomatch same

theorem meets_iff (sound : Sound source logger) (now : Time) (call : TelemetryCall) :
    Meets source logger now call ↔ Expected logger.metrics.iter now call := by
  cases call with
  | startEvent eventName taskId processId pipelineId =>
      refine iff_of_true ⟨rfl, source.identity logger.generated, ?_⟩ trivial
      exact sound.iter_startEvent now eventName taskId processId pipelineId
  | recordRetry taskId name => exact meets_recordRetry_iff sound now
  | endEvent taskId name error => exact meets_endEvent_iff sound now error

end Call

/-- The calls of a run pair starts with ends exactly when every one of them is expected. -/
theorem pairsStartsWithEnds_iff (source : IdentitySource)
    (publishers : List (EventMetrics Time → Except String Unit))
    (calls : List (Time × TelemetryCall)) :
    PairsStartsWithEnds source publishers calls ↔
      ∀ front now call back, calls = front ++ (now, call) :: back →
        Expected (after source publishers front).metrics.iter now call := by
  constructor
  · intro pairs front now call back split
    exact (meets_iff (sound_after source publishers front) now call).mp
      (pairs front now call back split)
  · intro expected front now call back split
    exact (meets_iff (sound_after source publishers front) now call).mpr
      (expected front now call back split)

/-- Identifiers of growing length. -/
def unarySource : IdentitySource where
  identity := fun number => String.ofList (List.replicate number 'x')
  injective := by
    intro first second same
    have lists := String.ofList_injective same
    simpa using congrArg List.length lists

/-- A task is run twice. -/
def rerun : List (Nat × TelemetryCall) :=
  [(1, .startEvent "Load" "t1" none none), (2, .endEvent "t1" "Load" none),
    (3, .startEvent "Load" "t1" none none)]

/-- The metric of the second run is not ended. -/
theorem not_pairsStartsWithEnds_rerun :
    ¬PairsStartsWithEnds unarySource [] (rerun ++ [(4, .endEvent "t1" "Load" none)]) := by
  intro pairs
  have ended := pairs rerun 4 (.endEvent "t1" "Load" none) [] rfl
  exact absurd ended.2 (by decide)

end StandardTelemetryLogger

end EventPipeline
