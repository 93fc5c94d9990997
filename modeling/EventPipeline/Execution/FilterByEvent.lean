import EventPipeline.Execution.ContextLog

/-! # Filtering contexts by event

`filter_by_event` resolves the name to an event class and looks for it among the events of the
tasks. The tasks of a script hold the names of their events, and no class is equal to a name.
-/

namespace EventPipeline

/-- An event class, with its `__name__`. -/
structure EventKlass where
  id : Nat
  name : String
deriving DecidableEq, Repr

/-- What a task or a caller may give for an event. -/
inductive EventReference
  | name (eventName : String)
  | klass (event : EventKlass)
deriving DecidableEq, Repr

structure EventDoesNotExist where
  message : String
deriving DecidableEq, Repr

/-- What `resolve_event_name` works with: `str.lower`, the classes in the order of
`get_event_klasses`, and the entries of its cache, the one used last at the end. -/
structure EventResolver where
  lower : String → String
  eventKlasses : List EventKlass
  cache : List (EventReference × EventKlass) := []

namespace EventResolver

def maxsize : Nat := 128

/-- Keep an entry as the one used last, without those used least recently. -/
def remember (resolver : EventResolver) (entry : EventReference × EventKlass) : EventResolver :=
  let entries := resolver.cache.filter (fun other => other.1 ≠ entry.1) ++ [entry]
  { resolver with cache := entries.drop (entries.length - maxsize) }

def resolveUncached (resolver : EventResolver) :
    EventReference → Except EventDoesNotExist EventKlass
  | .klass event => .ok event
  | .name eventName =>
      match resolver.eventKlasses.find? fun event =>
          resolver.lower event.name = resolver.lower eventName with
      | some event => .ok event
      | none => .error ⟨"'" ++ eventName ++ "' was not found."⟩

def resolveEventName (resolver : EventResolver) (eventName : EventReference) :
    Except EventDoesNotExist EventKlass × EventResolver :=
  match resolver.cache.find? fun entry => entry.1 = eventName with
  | some entry => (.ok entry.2, resolver.remember entry)
  | none =>
      match resolver.resolveUncached eventName with
      | .error error => (.error error, resolver)
      | .ok event => (.ok event, resolver.remember (eventName, event))

end EventResolver

/-- `[task.event for task in context.task_profiles]` -/
def taskEvents (heap : Heap) (context : EventExecutionContext) : List EventReference :=
  context.taskProfiles.filterMap fun task =>
    (heap.get? task).map fun record => .name record.event

def addContext (result : List ContextId) (id : ContextId) : List ContextId :=
  if id ∈ result then result else result ++ [id]

def filterByEvent (resolver : EventResolver) (heap : Heap)
    (contexts : Arena EventExecutionContext) (id : ContextId) (eventName : String) :
    Except EventDoesNotExist (List ContextId) × EventResolver :=
  let head := getExecutionContextHead contexts id
  match resolver.resolveEventName (.name eventName) with
  | (.error error, resolver) => (.error error, resolver)
  | (.ok event, resolver) =>
      (.ok ((iterate contexts head).foldl (fun result id =>
        match contexts.get? id with
        | none => result
        | some context =>
            if .klass event ∈ taskEvents heap context then addContext result id else result) []),
        resolver)

/-- A task of the context names the event, in any letter case. -/
def namesEvent (resolver : EventResolver) (heap : Heap)
    (contexts : Arena EventExecutionContext) (eventName : String) (id : ContextId) : Bool :=
  (contexts.get? id).any fun context => context.taskProfiles.any fun task =>
    (heap.get? task).any fun record => resolver.lower record.event = resolver.lower eventName

/-- The name has been resolved before, or it is the name of a class in any letter case. -/
def Resolvable (resolver : EventResolver) (eventName : String) : Prop :=
  (∃ entry ∈ resolver.cache, entry.1 = .name eventName) ∨
    ∃ event ∈ resolver.eventKlasses, resolver.lower event.name = resolver.lower eventName

/-- Called on a context, the filter finds exactly the contexts of its chain that have a task naming
the event, in the order of the chain. -/
def FindsByEvent (resolver : EventResolver) (heap : Heap)
    (contexts : Arena EventExecutionContext) (id : ContextId) (eventName : String) : Prop :=
  (filterByEvent resolver heap contexts id eventName).1 =
    .ok ((iterate contexts (getExecutionContextHead contexts id)).filter
      (namesEvent resolver heap contexts eventName))

/-! ## Resolving and comparing -/

section Filter

variable {resolver : EventResolver} {heap : Heap} {contexts : Arena EventExecutionContext}
  {id : ContextId} {eventName : String}

theorem resolveEventName_eq_ok_iff :
    (∃ event, (resolver.resolveEventName (.name eventName)).1 = .ok event) ↔
      Resolvable resolver eventName := by
  rw [EventResolver.resolveEventName, Resolvable]
  cases cached : resolver.cache.find? fun entry => entry.1 = .name eventName with
  | some entry =>
      have member := List.mem_of_find?_eq_some cached
      have same : entry.1 = .name eventName := by simpa using List.find?_some cached
      simp only [Except.ok.injEq, exists_eq', true_iff]
      exact .inl ⟨entry, member, same⟩
  | none =>
      have fresh : ¬ ∃ entry ∈ resolver.cache, entry.1 = .name eventName := by
        rintro ⟨entry, member, same⟩
        exact List.find?_eq_none.mp cached entry member (decide_eq_true same)
      rw [or_iff_right fresh, EventResolver.resolveUncached]
      cases found : resolver.eventKlasses.find? fun event =>
          resolver.lower event.name = resolver.lower eventName with
      | some event =>
          have member := List.mem_of_find?_eq_some found
          have same : resolver.lower event.name = resolver.lower eventName := by
            simpa using List.find?_some found
          simp only [Except.ok.injEq, exists_eq', true_iff]
          exact ⟨event, member, same⟩
      | none =>
          have unknown : ¬ ∃ event ∈ resolver.eventKlasses,
              resolver.lower event.name = resolver.lower eventName := by
            simpa using found
          simp only [reduceCtorEq, exists_false, false_iff]
          exact unknown

theorem not_mem_taskEvents (event : EventKlass) (context : EventExecutionContext) :
    EventReference.klass event ∉ taskEvents heap context := by
  intro member
  rcases List.mem_filterMap.mp member with ⟨task, -, named⟩
  cases found : heap.get? task with
  | none =>
      rw [found] at named
      cases named
  | some record =>
      rw [found] at named
      cases named

theorem filterByEvent_eq_nil {event : EventKlass}
    (resolved : (resolver.resolveEventName (.name eventName)).1 = .ok event) :
    (filterByEvent resolver heap contexts id eventName).1 = .ok [] := by
  rw [filterByEvent]
  rcases called : resolver.resolveEventName (.name eventName) with ⟨result, next⟩
  rw [called] at resolved
  obtain rfl : result = .ok event := resolved
  simp only [Except.ok.injEq]
  generalize iterate contexts (getExecutionContextHead contexts id) = chain
  induction chain with
  | nil => rfl
  | cons first rest induction =>
      rw [List.foldl_cons]
      cases contexts.get? first with
      | none => exact induction
      | some context =>
          simp only [if_neg (not_mem_taskEvents event context)]
          exact induction

theorem filterByEvent_eq_error
    (unresolved : ¬ ∃ event, (resolver.resolveEventName (.name eventName)).1 = .ok event) :
    ∃ error, (filterByEvent resolver heap contexts id eventName).1 = .error error := by
  rw [filterByEvent]
  rcases called : resolver.resolveEventName (.name eventName) with ⟨error | event, next⟩
  · exact ⟨error, rfl⟩
  · rw [called] at unresolved
    exact absurd ⟨event, rfl⟩ unresolved

theorem findsByEvent_iff_of_chain :
    FindsByEvent resolver heap contexts id eventName ↔ Resolvable resolver eventName ∧
      ∀ other ∈ iterate contexts (getExecutionContextHead contexts id),
        namesEvent resolver heap contexts eventName other = false := by
  rw [FindsByEvent, ← resolveEventName_eq_ok_iff]
  by_cases resolved : ∃ event, (resolver.resolveEventName (.name eventName)).1 = .ok event
  · rcases resolved with ⟨event, found⟩
    rw [filterByEvent_eq_nil found]
    simp only [Except.ok.injEq, found, exists_eq', true_and]
    rw [eq_comm, List.filter_eq_nil_iff]
    simp
  · rcases @filterByEvent_eq_error resolver heap contexts id eventName resolved with
      ⟨error, raised⟩
    simp [raised, resolved]

end Filter

/-! ## Runs -/

/-- From every context of the chain of a run the filter goes through the whole chain. -/
theorem iterate_head_of_mem (pipeline : AcceptedPipeline) (env : Environment) {head : ContextId}
    (starts : (pipeline.final env).executionContext = some head) {id : ContextId}
    (member : id ∈ iterate (pipeline.final env).contexts head) :
    iterate (pipeline.final env).contexts
        (getExecutionContextHead (pipeline.final env).contexts id) =
      iterate (pipeline.final env).contexts head := by
  rcases pipeline.runs env with ⟨tree, final, same, stored, nodup, proper, runs, ended⟩
  have ends : pipeline.final env = final := by
    rw [AcceptedPipeline.final, runs false none rfl]
  rw [ends] at starts member ⊢
  rcases chained_of_visits ⟨⟨none, stored⟩, proper⟩ nodup ended with ⟨_, _, -, chained⟩
  have first := chained.heads head starts
  have reached : Arena.Reached contextLinks final.contexts head id :=
    Arena.reached_of_mem_followLink member
  have back := Arena.getLastD_followLink_previous chained.backed first.2 first.1 reached
  exact congrArg (iterate final.contexts) back

/-- In every run of a pipeline, the filter finds what ran exactly if the name can be resolved and
no context of the chain has a task naming the event. -/
theorem findsByEvent_iff (pipeline : AcceptedPipeline) (env : Environment) {head : ContextId}
    (starts : (pipeline.final env).executionContext = some head) {id : ContextId}
    (member : id ∈ iterate (pipeline.final env).contexts head) (resolver : EventResolver)
    (eventName : String) :
    FindsByEvent resolver pipeline.heap (pipeline.final env).contexts id eventName ↔
      Resolvable resolver eventName ∧
        ∀ other ∈ iterate (pipeline.final env).contexts head,
          namesEvent resolver pipeline.heap (pipeline.final env).contexts eventName other =
            false := by
  rw [findsByEvent_iff_of_chain, iterate_head_of_mem pipeline env starts member]

def lettersResolver : EventResolver where
  lower text := String.ofList (text.toList.map Char.toLower)
  eventKlasses := [⟨0, "A"⟩, ⟨1, "B"⟩, ⟨2, "C"⟩]

/-- The run of `A(2->B,3->C)` in which `A` does not ask to switch. -/
theorem chain_switchPipeline :
    (switchPipeline.final (.ofOutcomes (Outcome.ofTask false))).executionContext = some 0 ∧
      iterate (switchPipeline.final (.ofOutcomes (Outcome.ofTask false))).contexts 0 = [0] := by
  decide +kernel

/-- `B` has not run, and is not found. -/
theorem findsByEvent_notTaken :
    FindsByEvent lettersResolver switchPipeline.heap
      (switchPipeline.final (.ofOutcomes (Outcome.ofTask false))).contexts 0 "b" := by
  rcases chain_switchPipeline with ⟨starts, chain⟩
  have member : 0 ∈
      iterate (switchPipeline.final (.ofOutcomes (Outcome.ofTask false))).contexts 0 := by
    rw [chain]
    exact List.mem_singleton_self 0
  apply (findsByEvent_iff switchPipeline (.ofOutcomes (Outcome.ofTask false)) starts member
    lettersResolver "b").mpr
  refine ⟨.inr ⟨⟨1, "B"⟩, by decide, by decide +kernel⟩, ?_⟩
  intro other listed
  rw [chain] at listed
  obtain rfl := List.mem_singleton.mp listed
  decide +kernel

/-- `A` has run, and is not found either. -/
theorem not_findsByEvent_first :
    (filterByEvent lettersResolver switchPipeline.heap
        (switchPipeline.final (.ofOutcomes (Outcome.ofTask false))).contexts 0 "a").1 = .ok [] ∧
      ¬ FindsByEvent lettersResolver switchPipeline.heap
        (switchPipeline.final (.ofOutcomes (Outcome.ofTask false))).contexts 0 "a" := by
  have nothing : (filterByEvent lettersResolver switchPipeline.heap
      (switchPipeline.final (.ofOutcomes (Outcome.ofTask false))).contexts 0 "a").1 = .ok [] := by
    decide +kernel
  have expected : (iterate (switchPipeline.final (.ofOutcomes (Outcome.ofTask false))).contexts
      (getExecutionContextHead
        (switchPipeline.final (.ofOutcomes (Outcome.ofTask false))).contexts 0)).filter
      (namesEvent lettersResolver switchPipeline.heap
        (switchPipeline.final (.ofOutcomes (Outcome.ofTask false))).contexts "a") = [0] := by
    decide +kernel
  refine ⟨nothing, ?_⟩
  intro finds
  rw [FindsByEvent, nothing, expected] at finds
  cases finds

end EventPipeline
