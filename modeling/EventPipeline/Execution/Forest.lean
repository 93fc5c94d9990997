import EventPipeline.Execution.Group

/-! # The trees of a run

At every point of a run the tasks dispatched so far, the tree of the call to
make and the trees that wait in the sink queue do not overlap. No task is
dispatched twice, and what is left to do gets smaller with every step.
-/

namespace EventPipeline

open Procedure

/-! ## Parts of a tree -/

/-- The trees that a run can go on with from the root of a tree. -/
def TaskTree.kids (tree : TaskTree) : List TaskTree :=
  tree.failure.tree?.toList ++ tree.success.tree?.toList ++ tree.customs.trees

def TaskTree.pushed (tree : TaskTree) : Option ContextId → List TaskTree
  | none => []
  | some _ => tree.sink.tree?.toList

def TaskTree.body : TaskTree → List TaskId
  | .node id _ failure _ success customs => id :: (failure.ids ++ (success.ids ++ customs.ids))

def forestIds (trees : List TaskTree) : List TaskId :=
  trees.flatMap TaskTree.ids

theorem Slot.forestIds_tree? (slot : Slot) : forestIds slot.tree?.toList = slot.ids := by
  cases slot <;> simp [forestIds, Slot.tree?, Slot.ids]

theorem Customs.forestIds_trees (customs : Customs) :
    forestIds customs.trees = customs.ids := by
  cases customs with
  | nil => rfl
  | cons descriptor pipe tree rest =>
      have inner := Customs.forestIds_trees rest
      simp only [forestIds] at inner
      simp [forestIds, Customs.trees, Customs.ids, inner]

theorem TaskTree.body_append_sink (tree : TaskTree) :
    (tree.body ++ tree.sink.ids).Perm tree.ids := by
  rcases tree with ⟨id, label, failure, sink, success, customs⟩
  simp only [TaskTree.body, TaskTree.sink, TaskTree.ids, List.cons_append]
  apply List.Perm.cons id
  rw [List.append_assoc]
  exact List.Perm.append_left _ List.perm_append_comm

theorem TaskTree.sublist_body_of_kid {tree kid : TaskTree} (member : kid ∈ tree.kids) :
    (tree.id :: kid.ids).Sublist tree.body := by
  rcases tree with ⟨id, label, failure, sink, success, customs⟩
  have flat : (failure.ids ++ (success.ids ++ customs.ids)) =
      forestIds (TaskTree.node id label failure sink success customs).kids := by
    simp only [TaskTree.kids, TaskTree.failure, TaskTree.success, TaskTree.customs]
    rw [← failure.forestIds_tree?, ← success.forestIds_tree?, ← customs.forestIds_trees]
    simp [forestIds]
  apply List.Sublist.cons_cons id
  rw [flat, forestIds]
  exact List.sublist_flatten_of_mem (List.mem_map_of_mem member)

theorem TaskTree.body_subperm (tree : TaskTree) : tree.body.Subperm tree.ids :=
  (List.sublist_append_left _ _).subperm.trans tree.body_append_sink.subperm

theorem TaskTree.group_append {tree : TaskTree} {behind : List TaskId}
    (inside : (tree.last.id :: behind).Subperm tree.last.body) :
    (tree.group ++ behind).Subperm tree.body := by
  induction tree using TaskTree.group_induction with
  | single tree _ group last =>
      rw [last] at inside
      rwa [group]
  | parallel id label failure sink next customs induction =>
      have inner := (induction inside).trans next.body_subperm
      refine (List.subperm_cons id).mpr (inner.trans (List.Sublist.subperm ?_))
      exact (List.sublist_append_left _ _).trans (List.sublist_append_right _ _)

theorem TaskTree.id_mem_body (tree : TaskTree) : tree.id ∈ tree.body := by
  cases tree
  exact List.mem_cons_self

theorem TaskTree.group_subperm (tree : TaskTree) : tree.group.Subperm tree.ids := by
  have whole : (tree.group ++ []).Subperm tree.body :=
    tree.group_append (List.singleton_subperm_iff.mpr tree.last.id_mem_body)
  rw [List.append_nil] at whole
  exact whole.trans tree.body_subperm

/-- The tasks of a visit, the tree the run goes on with and the tree that is
pushed do not overlap. -/
theorem TaskTree.visit_account {tree : TaskTree} {previous : Option ContextId}
    {next : Option TaskTree} (member : ∀ kid ∈ next, kid ∈ (tree.turn previous).kids) :
    (tree.members previous ++ forestIds (next.toList ++ tree.pushed previous)).Subperm
      tree.ids := by
  have behind : ((tree.turn previous).id :: forestIds next.toList).Subperm
      (tree.turn previous).body := by
    cases next with
    | none => exact List.singleton_subperm_iff.mpr (TaskTree.id_mem_body _)
    | some kid =>
        simpa [forestIds] using (TaskTree.sublist_body_of_kid (member kid rfl)).subperm
  cases previous with
  | none =>
      have inside := behind.trans tree.body_subperm
      simpa [TaskTree.members, TaskTree.pushed, TaskTree.turn] using inside
  | some previous =>
      have inside := (tree.group_append behind).append (List.Subperm.refl tree.sink.ids)
      have split : forestIds (next.toList ++ tree.pushed (some previous)) =
          forestIds next.toList ++ tree.sink.ids := by
        rw [← tree.sink.forestIds_tree?]
        simp [forestIds, TaskTree.pushed]
      rw [TaskTree.members, split, ← List.append_assoc]
      exact inside.trans tree.body_append_sink.subperm

/-! ## Appending a context -/

theorem RunState.map_append {Value : Type} {project : EventExecutionContext → Value}
    (kept : ∀ id context, project (contextLinks.setNext id context) = project context)
    (state : RunState) (heap : Heap) (task : TaskId) (previous : Option ContextId)
    (context : EventExecutionContext) :
    (state.append heap task previous context).contexts.cells.map project =
      state.contexts.cells.map project ++ [project context] := by
  cases previous with
  | none => simp [RunState.append, Arena.linkBehind, Arena.alloc]
  | some previous =>
      simp only [RunState.append, Arena.linkBehind, Arena.alloc, List.map_append, List.map_cons,
        List.map_nil]
      rw [Arena.map_cells_modify _ _ (kept state.contexts.size)]

def RunState.groups (state : RunState) : List (List TaskId) :=
  state.contexts.cells.map EventExecutionContext.taskProfiles

def RunState.dispatched (state : RunState) : List TaskId :=
  state.groups.flatten

@[simp] theorem RunState.groups_append (state : RunState) (heap : Heap) (task : TaskId)
    (previous : Option ContextId) (context : EventExecutionContext) :
    (state.append heap task previous context).groups =
      state.groups ++ [context.taskProfiles] :=
  RunState.map_append (fun _ _ => rfl) state heap task previous context

@[simp] theorem RunState.dispatched_append (state : RunState) (heap : Heap) (task : TaskId)
    (previous : Option ContextId) (context : EventExecutionContext) :
    (state.append heap task previous context).dispatched =
      state.dispatched ++ context.taskProfiles := by
  simp [RunState.dispatched]

@[simp] theorem RunState.size_append (state : RunState) (heap : Heap) (task : TaskId)
    (previous : Option ContextId) (context : EventExecutionContext) :
    (state.append heap task previous context).contexts.size = state.contexts.size + 1 := by
  simp [RunState.append]

theorem TaskTree.Stored.sinkQueue_append {heap : Heap} {parent : Option TaskId}
    {tree : TaskTree} (stored : tree.Stored heap parent) (state : RunState)
    (previous : Option ContextId) (context : EventExecutionContext) :
    (state.append heap tree.id previous context).sinkQueue =
      (tree.pushed previous).map TaskTree.id ++ state.sinkQueue := by
  cases previous with
  | none => rfl
  | some previous =>
      simp only [RunState.append, pushSink, stored.record_eq, Option.bind_some,
        TaskTree.record_sinkNode, TaskTree.pushed]
      cases tree.sink <;> rfl

/-! ## The invariant -/

structure Rooted (heap : Heap) (tree : TaskTree) : Prop where
  stored : ∃ parent, tree.Stored heap parent
  proper : tree.Proper

theorem TaskTree.Stored.kid {heap : Heap} {parent : Option TaskId} {tree kid : TaskTree}
    (stored : tree.Stored heap parent) (member : kid ∈ tree.kids) :
    kid.Stored heap (some tree.id) := by
  rcases tree with ⟨id, label, failure, sink, success, customs⟩
  simp only [TaskTree.kids, TaskTree.failure, TaskTree.success, TaskTree.customs,
    List.mem_append, Option.mem_toList] at member
  rcases member with (member | member) | member
  · exact stored.2.1.tree member
  · exact stored.2.2.2.1.tree member
  · exact stored.2.2.2.2.tree member

theorem TaskTree.Proper.kid {tree kid : TaskTree} (proper : tree.Proper)
    (member : kid ∈ tree.kids) : kid.Proper := by
  rcases tree with ⟨id, label, failure, sink, success, customs⟩
  simp only [TaskTree.kids, TaskTree.failure, TaskTree.success, TaskTree.customs,
    List.mem_append, Option.mem_toList] at member
  rcases member with (member | member) | member
  · exact proper.2.1.tree member
  · exact proper.2.2.2.1.tree member
  · exact proper.2.2.2.2.tree member

theorem Rooted.turn_kid {heap : Heap} {tree kid : TaskTree} (rooted : Rooted heap tree)
    (previous : Option ContextId) (member : kid ∈ (tree.turn previous).kids) :
    Rooted heap kid := by
  rcases rooted.stored with ⟨parent, stored⟩
  rcases stored.turn previous with ⟨above, turnStored⟩
  exact ⟨⟨_, turnStored.kid member⟩, (rooted.proper.turn previous).kid member⟩

theorem Rooted.pushed {heap : Heap} {tree sink : TaskTree} (rooted : Rooted heap tree)
    {previous : Option ContextId} (member : sink ∈ tree.pushed previous) :
    Rooted heap sink := by
  cases previous with
  | none => cases member
  | some previous =>
      rcases rooted.stored with ⟨parent, stored⟩
      rcases tree with ⟨id, label, failure, slot, success, customs⟩
      simp only [TaskTree.pushed, TaskTree.sink, Option.mem_toList] at member
      exact ⟨⟨_, stored.2.2.1.tree member⟩, rooted.proper.2.2.1.tree member⟩

/-- `current` is the tree of the call to make and `queue` are the trees of the
sinks that wait. -/
structure Forest (heap : Heap) (root : TaskTree) (config : RunConfig)
    (current : Option TaskTree) (queue : List TaskTree) : Prop where
  control : config.control.bind Call.task = current.map TaskTree.id
  sinkQueue : config.state.sinkQueue = queue.map TaskTree.id
  rooted : ∀ tree ∈ current.toList ++ queue, Rooted heap tree
  account : (config.state.dispatched ++ forestIds (current.toList ++ queue)).Subperm root.ids
  frames : ∀ call ∈ config.waiting, call.task = none

/-- The call that a visit ends with. -/
def Flow.call? : Flow → Option Call
  | .finish => none
  | .call task previous => some ⟨task, previous⟩

inductive ForestStep (env : Environment) (heap : Heap) :
    RunConfig → Option TaskTree → List TaskTree →
    RunConfig → Option TaskTree → List TaskTree → Prop
  | visit {tree previous waiting state queue context flow next} :
      Visited env heap tree previous state.contexts.size context flow next →
      ForestStep env heap ⟨some ⟨some tree.id, previous⟩, waiting, state⟩ (some tree) queue
        ⟨flow.call?, waiting, state.append heap tree.id previous context⟩ next
        (tree.pushed previous ++ queue)
  | drained {previous waiting state} : state.sinkQueue = [] →
      ForestStep env heap ⟨some ⟨none, previous⟩, waiting, state⟩ none []
        ⟨none, waiting, state⟩ none []
  | drain {previous waiting state tree queue} :
      state.sinkQueue = (tree :: queue).map TaskTree.id →
      ForestStep env heap ⟨some ⟨none, previous⟩, waiting, state⟩ none (tree :: queue)
        ⟨some ⟨some tree.id, previous⟩, ⟨none, previous⟩ :: waiting,
          { state with sinkQueue := queue.map TaskTree.id }⟩ (some tree) queue
  | resume {previous waiting state queue} :
      ForestStep env heap ⟨none, ⟨none, previous⟩ :: waiting, state⟩ none queue
        ⟨some ⟨none, previous⟩, waiting, state⟩ none queue

theorem Slot.map_id_tree? (slot : Slot) : slot.tree?.map TaskTree.id = slot.id? := by
  cases slot <;> rfl

theorem TaskTree.branch_mem_kids {tree kid : TaskTree} {failed : Bool}
    (member : kid ∈ (tree.branch failed).tree?) : kid ∈ tree.kids := by
  simp only [TaskTree.kids, List.mem_append, Option.mem_toList]
  unfold TaskTree.branch at member
  split at member
  · exact .inl (.inl member)
  · exact .inl (.inr member)

theorem Onward.call_task {env : Environment} {heap : Heap} {tree : TaskTree}
    {previous : Option ContextId} {id : ContextId} {context : EventExecutionContext}
    {flow : Flow} {next : Option TaskTree}
    (onward : Onward env heap tree previous id context flow next) :
    flow.call?.bind Call.task = next.map TaskTree.id := by
  cases onward with
  | stop => rfl
  | branch => exact (Slot.map_id_tree? _).symm
  | switch => rfl

theorem Onward.mem_kids {env : Environment} {heap : Heap} {tree : TaskTree}
    {previous : Option ContextId} {id : ContextId} {context : EventExecutionContext}
    {flow : Flow} {next : Option TaskTree}
    (onward : Onward env heap tree previous id context flow next) :
    ∀ kid ∈ next, kid ∈ tree.kids := by
  intro kid member
  cases onward with
  | stop => cases member
  | branch => exact TaskTree.branch_mem_kids member
  | switch _ _ custom =>
      cases member
      exact List.mem_append_right _ custom

theorem nodup_of_subperm {part whole : List TaskId} (inside : part.Subperm whole)
    (nodup : whole.Nodup) : part.Nodup := by
  rcases inside with ⟨arranged, perm, sublist⟩
  exact perm.nodup_iff.mp (nodup.sublist sublist)

section Steps

variable {env : Environment} {heap : Heap} {root : TaskTree} {before after : RunConfig}
  {current : Option TaskTree} {queue : List TaskTree}

theorem Forest.account_visit {tree : TaskTree} {previous : Option ContextId}
    {waiting : List Call} {state : RunState} {context : EventExecutionContext}
    {next : Option TaskTree}
    (forest : Forest heap root ⟨some ⟨some tree.id, previous⟩, waiting, state⟩ (some tree)
      queue)
    (members : context.taskProfiles.Perm (tree.members previous))
    (kids : ∀ kid ∈ next, kid ∈ (tree.turn previous).kids) :
    ((state.append heap tree.id previous context).dispatched ++
      forestIds (next.toList ++ (tree.pushed previous ++ queue))).Subperm root.ids := by
  have account := forest.account
  have split : forestIds ((some tree).toList ++ queue) = tree.ids ++ forestIds queue := by
    simp [forestIds]
  have join : forestIds (next.toList ++ (tree.pushed previous ++ queue)) =
      forestIds (next.toList ++ tree.pushed previous) ++ forestIds queue := by
    simp [forestIds]
  rw [split] at account
  rw [RunState.dispatched_append, join, List.append_assoc,
    ← List.append_assoc _ _ (forestIds queue)]
  refine List.Subperm.trans ?_ account
  refine (List.subperm_append_left _).mpr (List.Subperm.append ?_ (List.Subperm.refl _))
  exact (members.append_right _).subperm.trans (TaskTree.visit_account kids)

theorem Forest.group_length_le {tree : TaskTree} {config : RunConfig} (nodup : root.ids.Nodup)
    (forest : Forest heap root config (some tree) queue) :
    tree.group.length ≤ heap.size + 1 := by
  rcases (forest.rooted tree (by simp)).stored with ⟨parent, stored⟩
  have inside : tree.ids.Subperm root.ids := by
    refine List.Subperm.trans (List.Sublist.subperm ?_) forest.account
    simp only [forestIds, Option.toList_some, List.singleton_append, List.flatMap_cons]
    exact (List.sublist_append_left _ _).trans (List.sublist_append_right _ _)
  calc tree.group.length ≤ tree.ids.length := tree.group_subperm.length_le
    _ ≤ heap.size := stored.length_le_size (nodup_of_subperm inside nodup)
    _ ≤ heap.size + 1 := Nat.le_succ _

theorem Forest.visit (env : Environment) (nodup : root.ids.Nodup) {task : TaskId}
    {previous : Option ContextId} {waiting : List Call} {state : RunState}
    (forest : Forest heap root ⟨some ⟨some task, previous⟩, waiting, state⟩ current queue) :
    ∃ tree context flow next, current = some tree ∧ tree.id = task ∧
      EventPipeline.visit env heap task previous state =
        .ok (flow, state.append heap task previous context) ∧
      Visited env heap tree previous state.contexts.size context flow next ∧
      Forest heap root ⟨flow.call?, waiting, state.append heap task previous context⟩ next
        (tree.pushed previous ++ queue) := by
  cases current with
  | none => cases forest.control
  | some tree =>
      obtain rfl : task = tree.id := Option.some_inj.mp forest.control
      have rooted := forest.rooted tree (by simp)
      rcases rooted.stored with ⟨parent, stored⟩
      rcases visit_stored env stored rooted.proper (forest.group_length_le nodup) previous state
        with
        ⟨context, flow, next, visited, spec⟩
      refine ⟨tree, context, flow, next, rfl, rfl, visited, spec, ?_⟩
      refine ⟨spec.onward.call_task, ?_, fun other member => ?_,
        forest.account_visit spec.members spec.onward.mem_kids, forest.frames⟩
      · have waitingSinks : state.sinkQueue = queue.map TaskTree.id := forest.sinkQueue
        rw [stored.sinkQueue_append, waitingSinks, List.map_append]
      · rcases List.mem_append.mp member with onward | member
        · exact rooted.turn_kid previous
            (spec.onward.mem_kids other (Option.mem_toList.mp onward))
        · rcases List.mem_append.mp member with sink | waits
          · exact rooted.pushed sink
          · exact forest.rooted other (List.mem_append_right _ waits)

theorem Forest.step (nodup : root.ids.Nodup) (forest : Forest heap root before current queue)
    (step : RunStep env heap before after) :
    ∃ next later, ForestStep env heap before current queue after next later ∧
      Forest heap root after next later := by
  cases step with
  | stop ended =>
      rcases forest.visit env nodup with
        ⟨tree, context, flow, next, rfl, rfl, visited, spec, onward⟩
      rw [visited] at ended
      cases ended
      exact ⟨next, _, .visit spec, onward⟩
  | call ended =>
      rcases forest.visit env nodup with
        ⟨tree, context, flow, next, rfl, rfl, visited, spec, onward⟩
      rw [visited] at ended
      cases ended
      exact ⟨next, _, .visit spec, onward⟩
  | @drained previous waiting state empty =>
      obtain rfl : current = none := Option.map_eq_none_iff.mp forest.control.symm
      obtain rfl : queue = [] := List.map_eq_nil_iff.mp (forest.sinkQueue.symm.trans empty)
      exact ⟨none, [], .drained empty, rfl, empty, forest.rooted, forest.account,
        forest.frames⟩
  | @drain previous waiting sink rest state taken =>
      obtain rfl : current = none := Option.map_eq_none_iff.mp forest.control.symm
      have waits : state.sinkQueue = queue.map TaskTree.id := forest.sinkQueue
      cases queue with
      | nil => simp [waits] at taken
      | cons tree queue =>
          have shape := waits
          rw [taken, List.map_cons, List.cons.injEq] at shape
          rcases shape with ⟨rfl, rfl⟩
          refine ⟨some tree, queue, .drain waits, rfl, rfl, forest.rooted, forest.account, ?_⟩
          intro call member
          rcases List.mem_cons.mp member with rfl | member
          · rfl
          · exact forest.frames call member
  | @resume call waiting state =>
      obtain rfl : current = none := Option.map_eq_none_iff.mp forest.control.symm
      have loops : call.task = none := forest.frames call List.mem_cons_self
      rcases call with ⟨task, previous⟩
      obtain rfl : task = none := loops
      exact ⟨none, queue, .resume, rfl, forest.sinkQueue, forest.rooted, forest.account,
        fun call member => forest.frames call (List.mem_cons_of_mem _ member)⟩

end Steps

theorem Forest.initial {heap : Heap} {root : TaskTree} (rooted : Rooted heap root) :
    Forest heap root (initialConfig root.id) (some root) [] := by
  refine ⟨rfl, rfl, fun tree member => ?_, ?_, by simp [initialConfig]⟩
  · obtain rfl : tree = root := by simpa using member
    exact rooted
  · have whole : forestIds ((some root).toList ++ []) = root.ids := by simp [forestIds]
    rw [whole]
    exact List.Subperm.refl _

/-- What every step with its trees preserves holds in every configuration. -/
theorem visits_forest {env : Environment} {heap : Heap} {root : TaskTree}
    {Inv : RunConfig → Option TaskTree → List TaskTree → Prop}
    (rooted : Rooted heap root) (nodup : root.ids.Nodup)
    (initial : Inv (initialConfig root.id) (some root) [])
    (preserved : ∀ {before current queue after next later},
      Visits env heap root.id before → Forest heap root before current queue →
      Inv before current queue →
      ForestStep env heap before current queue after next later → Inv after next later)
    {config : RunConfig} (visited : Visits env heap root.id config) :
    ∃ current queue, Forest heap root config current queue ∧ Inv config current queue := by
  induction visited with
  | refl => exact ⟨some root, [], .initial rooted, initial⟩
  | tail visited step induction =>
      rcases induction with ⟨current, queue, forest, invariant⟩
      rcases forest.step nodup (runStep_of_step step) with
        ⟨next, later, forestStep, forestAfter⟩
      exact ⟨next, later, forestAfter, preserved visited forest invariant forestStep⟩

/-- A call without a task, to be made or suspended, follows a context. -/
theorem loop_follows {env : Environment} {heap : Heap} {root : TaskTree} {config : RunConfig}
    (rooted : Rooted heap root) (nodup : root.ids.Nodup)
    (visited : Visits env heap root.id config) :
    ∀ call ∈ config.control.toList ++ config.waiting, call.task = none →
      call.previousContext ≠ none := by
  have held := @visits_forest env heap root (fun config _ _ =>
    ∀ call ∈ config.control.toList ++ config.waiting, call.task = none →
      call.previousContext ≠ none) rooted nodup ?_ ?_ config visited
  · rcases held with ⟨_, _, _, follows⟩
    exact follows
  · simp [initialConfig]
  · intro before current queue after next later _ _ held step call member loops
    cases step with
    | visit visited =>
        rcases List.mem_append.mp member with called | suspended
        · cases visited.onward with
          | stop => cases called
          | branch =>
              rw [List.mem_singleton.mp called]
              simp
          | switch =>
              rw [List.mem_singleton.mp called] at loops
              cases loops
        · exact held call (List.mem_append_right _ suspended) loops
    | drained _ => exact held call (List.mem_append_right _ member) loops
    | drain _ =>
        rcases List.mem_cons.mp member with rfl | member
        · cases loops
        · exact held call member loops
    | resume => exact held call member loops

end EventPipeline
