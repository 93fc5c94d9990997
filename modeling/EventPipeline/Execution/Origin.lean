import EventPipeline.Execution.ContextLog

/-! # Where contexts come from

How a run comes to each of its contexts: it starts there, it goes on behind a context,
an event switches to a descriptor, or a sink is taken from the queue. And what a context
holds that the run has gone on behind: the results of all its events.
-/

namespace EventPipeline

open Procedure

def RunState.sites (state : RunState) : List EventExecutionContext :=
  state.contexts.cells.map fun context => { context with nextContext := none }

@[simp] theorem RunState.sites_append (state : RunState) (heap : Heap) (task : TaskId)
    (previous : Option ContextId) (context : EventExecutionContext) :
    (state.append heap task previous context).sites =
      state.sites ++ [{ context with nextContext := none }] :=
  RunState.map_append (fun _ _ => rfl) state heap task previous context

theorem RunState.length_sites (state : RunState) : state.sites.length = state.contexts.size := by
  simp [RunState.sites, Arena.size]

theorem RunState.sites_getElem? (state : RunState) (id : ContextId) :
    state.sites[id]? =
      (state.contexts.get? id).map fun context => { context with nextContext := none } := by
  simp [RunState.sites, Arena.get?]

/-- The run over `root` comes to `tree` behind the given context. -/
inductive Origin (env : Environment) (root : TaskTree) (sites : List EventExecutionContext) :
    TaskTree → Option ContextId → Prop
  | start : Origin env root sites root none
  | branch {tree previous failed kid} {behind : Nat} {site : EventExecutionContext} :
      Origin env root sites tree previous → sites[behind]? = some site →
      site.taskProfiles.Perm (tree.members previous) → site.Passed env behind →
      kid ∈ ((tree.turn previous).branch failed).tree? →
      Origin env root sites kid (some behind)
  | switch {tree previous target} {here : Nat} {site : EventExecutionContext} :
      Origin env root sites tree previous → sites[here]? = some site →
      site.taskProfiles.Perm (tree.members previous) → (∀ behind ∈ previous, behind < here) →
      target ∈ (tree.turn previous).customs.trees →
      Origin env root sites target previous
  | sink {tree before previous sink} :
      Origin env root sites tree (some before) → sink ∈ tree.sink.tree? →
      Origin env root sites sink (some previous)

section Origins

variable {env : Environment} {heap : Heap} {root tree : TaskTree} {previous : Option ContextId}
  {sites : List EventExecutionContext}

theorem Origin.append (origin : Origin env root sites tree previous)
    (later : List EventExecutionContext) : Origin env root (sites ++ later) tree previous := by
  have kept : ∀ {id : Nat} {site : EventExecutionContext}, sites[id]? = some site →
      (sites ++ later)[id]? = some site := by
    intro id site found
    rw [List.getElem?_append_left (List.getElem?_eq_some_iff.mp found).choose]
    exact found
  induction origin with
  | start => exact .start
  | branch _ found perm passed member induction =>
      exact .branch induction (kept found) perm passed member
  | switch _ found perm earlier member induction =>
      exact .switch induction (kept found) perm earlier member
  | sink _ member induction => exact .sink induction member

theorem Origin.rooted (origin : Origin env root sites tree previous) (rooted : Rooted heap root) :
    Rooted heap tree := by
  induction origin with
  | start => exact rooted
  | branch _ _ _ _ member induction =>
      exact induction.turn_kid _ (TaskTree.branch_mem_kids member)
  | switch _ _ _ _ member induction =>
      exact induction.turn_kid _ (List.mem_append_right _ member)
  | @sink tree before previous sink _ member induction =>
      apply @Rooted.pushed heap tree sink induction (some before)
      exact Option.mem_toList.mpr member

/-- Every context and every call to come has an origin. -/
structure Traced (env : Environment) (root : TaskTree) (config : RunConfig)
    (current : Option TaskTree)
    (queue : List TaskTree) : Prop where
  contexts : ∀ site ∈ config.state.sites, ∃ tree,
    Origin env root config.state.sites tree site.previousContext ∧
      site.taskProfiles.Perm (tree.members site.previousContext)
  current : ∀ tree ∈ current, ∀ call ∈ config.control,
    Origin env root config.state.sites tree call.previousContext
  queue : ∀ sink ∈ queue, ∃ tree before, Origin env root config.state.sites tree (some before) ∧
    sink ∈ tree.sink.tree?

/-- What a visited context adds: its own origin, the one of the tree that the run goes
on with, and the one of the sink that is pushed. -/
theorem Traced.visit {waiting : List Call} {state : RunState} {queue : List TaskTree}
    {context : EventExecutionContext} {flow : Flow} {next : Option TaskTree}
    (traced : Traced env root ⟨some ⟨some tree.id, previous⟩, waiting, state⟩ (some tree) queue)
    (earlier : ∀ behind ∈ previous, behind < state.contexts.size)
    (visited : Visited env heap tree previous state.contexts.size context flow next) :
    Traced env root ⟨flow.call?, waiting, state.append heap tree.id previous context⟩ next
      (tree.pushed previous ++ queue) := by
  have origin := traced.current tree rfl _ rfl
  have latest : (state.append heap tree.id previous context).sites[state.contexts.size]? =
      some { context with nextContext := none } := by
    rw [RunState.sites_append, ← state.length_sites, List.getElem?_concat_length]
  have carried := fun {tree previous} (origin : Origin env root state.sites tree previous) =>
    origin.append [{ context with nextContext := none }]
  simp only [← RunState.sites_append state heap tree.id previous context] at carried
  refine ⟨fun site member => ?_, fun kid onward call called => ?_, fun sink member => ?_⟩
  · rw [RunState.sites_append] at member
    rcases List.mem_append.mp member with before | here
    · rcases traced.contexts site before with ⟨other, known, perm⟩
      exact ⟨other, carried known, perm⟩
    · rw [List.mem_singleton.mp here]
      simp only [visited.previousContext]
      exact ⟨tree, carried origin, visited.members⟩
  · cases visited.onward with
    | stop => cases onward
    | branch passed _ =>
        cases called
        exact .branch (carried origin) latest visited.members passed onward
    | switch _ _ member =>
        cases called
        cases onward
        exact .switch (carried origin) latest visited.members earlier member
  · rcases List.mem_append.mp member with pushed | waits
    · cases previous with
      | none => cases pushed
      | some before => exact ⟨tree, before, carried origin, Option.mem_toList.mp pushed⟩
    · rcases traced.queue sink waits with ⟨other, before, known, inside⟩
      exact ⟨other, before, carried known, inside⟩

theorem traced_of_visits {config : RunConfig} (rooted : Rooted heap root)
    (nodup : root.ids.Nodup) (visited : Visits env heap root.id config) :
    ∃ current queue, Forest heap root config current queue ∧
      Traced env root config current queue := by
  refine @visits_forest env heap root (Traced env root) rooted nodup ?_ ?_ config visited
  · refine ⟨by simp [initialConfig, RunState.sites, Arena.empty], ?_, by simp⟩
    rintro tree ⟨⟩ call ⟨⟩
    exact .start
  · intro before current queue after next later visited _ traced step
    cases step with
    | visit visit =>
        rcases chained_of_visits rooted nodup visited with ⟨_, _, _, chained⟩
        exact traced.visit (chained.control _ rfl) visit
    | drained _ => exact ⟨traced.contexts, by simp, traced.queue⟩
    | @drain previous waiting state tree queue taken =>
        have follows := loop_follows rooted nodup visited ⟨none, previous⟩ List.mem_cons_self rfl
        rcases Option.ne_none_iff_exists'.mp follows with ⟨behind, same⟩
        obtain rfl : previous = some behind := same
        refine ⟨traced.contexts, ?_, fun sink waits =>
          traced.queue sink (List.mem_cons_of_mem _ waits)⟩
        rintro _ ⟨⟩ call ⟨⟩
        rcases traced.queue tree List.mem_cons_self with ⟨parent, before, origin, member⟩
        exact .sink origin member
    | resume => exact ⟨traced.contexts, by simp, traced.queue⟩

end Origins

/-! ## The results of contexts -/

/-- The result that a context keeps of a future. -/
def Outcome.kept (outcome : Outcome) : Option EventResult :=
  match outcome.receive with
  | .error _ => none
  | .ok (result, _) => some (if result.error then result.asDict.2 else result)

/-- The results of the given tasks, in the order in which their futures are read. There are
none when the events have not all been submitted. -/
def Environment.collected (env : Environment) (id : ContextId) (tasks : List TaskId) :
    ResultSet :=
  match env.futures id tasks with
  | .error _ => []
  | .ok outcomes => (outcomes.filterMap Outcome.kept).foldl ResultSet.add []

namespace EventExecutionContext

theorem stoppedBy_executionResult (context : EventExecutionContext) (outcome : Outcome) :
    (context.stoppedBy outcome).executionResult = context.executionResult := by
  unfold stoppedBy
  split <;> rfl

theorem recordOutcome_executionResult {heap : Heap} {before after : EventExecutionContext}
    {outcome : Outcome} (recorded : before.recordOutcome heap outcome = (after, none)) :
    ∃ result, outcome.kept = some result ∧
      after.executionResult = before.executionResult.add result := by
  rcases received : outcome.receive with error | ⟨result, _ | descriptor⟩
  · have ended := (@recordOutcome_of_refused heap before outcome error received).1
    rw [recorded] at ended
    cases ended
  · rw [recordOutcome_of_receive received] at recorded
    cases recorded
    refine ⟨if result.error then result.asDict.2 else result, ?_, ?_⟩
    · simp only [Outcome.kept, received]
    · rw [EventExecutionContext.recorded, stoppedBy_executionResult]
  · rw [recordOutcome_of_receive received] at recorded
    cases recorded

theorem processExecutorResults_executionResult {heap : Heap} {outcomes : List Outcome}
    {before after : EventExecutionContext}
    (processed : before.processExecutorResults heap outcomes = (after, none)) :
    after.executionResult =
      (outcomes.filterMap Outcome.kept).foldl ResultSet.add before.executionResult := by
  induction outcomes generalizing before with
  | nil =>
      cases processed
      rfl
  | cons outcome rest induction =>
      rw [processExecutorResults] at processed
      rcases recorded : before.recordOutcome heap outcome with ⟨middle, _ | interruption⟩
      · rw [recorded] at processed
        rcases recordOutcome_executionResult recorded with ⟨result, kept, added⟩
        rw [induction processed, added, List.filterMap_cons_some kept, List.foldl_cons]
      · rw [recorded] at processed
        cases processed

theorem dispatch_finished {heap : Heap} {futures : Except SubmissionFailure (List Outcome)}
    {context : EventExecutionContext}
    (finished : (context.dispatch heap futures).1.state = .finished) :
    ∃ outcomes, futures = .ok outcomes ∧ (context.dispatch heap futures).1.executionResult =
      (outcomes.filterMap Outcome.kept).foldl ResultSet.add context.executionResult := by
  unfold dispatch at finished ⊢
  cases futures with
  | error failure => cases failure <;> cases finished
  | ok outcomes =>
      have recorded := @processExecutorResults_recorded heap outcomes
        { context with state := .executing } (.inl rfl)
      refine ⟨outcomes, rfl, ?_⟩
      rcases processed : ({ context with state := .executing } :
        EventExecutionContext).processExecutorResults heap outcomes with
        ⟨after, _ | ⟨descriptor, configured⟩ | error⟩
      · have kept := processExecutorResults_executionResult processed
        simp only [processed]
        by_cases executing : after.state = .executing
        · rw [if_pos executing]
          exact kept
        · rw [if_neg executing]
          exact kept
      · simp only [processed] at finished recorded
        have state : after.state = .finished := finished
        rcases recorded.state with executing | cancelled
        · rw [state] at executing
          cases executing
        · rw [state] at cancelled
          cases cancelled
      · simp only [processed] at finished
        cases finished

end EventExecutionContext

theorem Visited.executionResult {env : Environment} {heap : Heap} {tree : TaskTree}
    {previous : Option ContextId} {id : ContextId} {context : EventExecutionContext}
    {flow : Flow} {next : Option TaskTree}
    (visited : Visited env heap tree previous id context flow next)
    (passed : context.Passed env id) :
    context.executionResult = env.collected id context.taskProfiles := by
  rcases visited.dispatched with ⟨last, switch, made⟩
  rcases dispatchTask_eq_ok made with ⟨profiles, grouped, same, place⟩
  rcases passed with finished | ⟨_, nothing, descriptor, refused⟩
  · have ended := @EventExecutionContext.dispatch_finished heap (env.futures id profiles)
      { taskProfiles := profiles, previousContext := previous }
    rw [same] at ended
    rcases ended finished with ⟨outcomes, futures, result⟩
    rw [result, Environment.collected, place, futures]
  · rw [nothing, Environment.collected, env.futures_of_submission refused]

theorem executionResult_of_visits {env : Environment} {heap : Heap} {root : TaskTree}
    {config : RunConfig} (rooted : Rooted heap root) (nodup : root.ids.Nodup)
    (visited : Visits env heap root.id config) {id : ContextId} {site : EventExecutionContext}
    (found : config.state.sites[id]? = some site) (passed : site.Passed env id) :
    site.executionResult = env.collected id site.taskProfiles := by
  have held := @visits_forest env heap root (fun config _ _ => ∀ (id : Nat) site,
    config.state.sites[id]? = some site → site.Passed env id →
      site.executionResult = env.collected id site.taskProfiles) rooted nodup ?_ ?_ config visited
  · rcases held with ⟨_, _, _, collected⟩
    exact collected id site found passed
  · intro id site found
    simp [initialConfig, RunState.sites, Arena.empty] at found
  · intro before current queue after next later _ _ held step
    cases step with
    | @visit tree previous waiting state queue context flow next visited =>
        intro id site found passed
        rw [RunState.sites_append, List.getElem?_append] at found
        split at found
        · exact held id site found passed
        · rename_i beyond
          have bound := (List.getElem?_eq_some_iff.mp found).choose
          rw [List.length_singleton, state.length_sites] at bound
          rw [state.length_sites] at beyond
          obtain rfl : id = state.contexts.size := by omega
          rw [state.length_sites, Nat.sub_self] at found
          cases found
          exact visited.executionResult passed
    | drained _ => exact held
    | drain _ => exact held
    | resume => exact held

end EventPipeline
