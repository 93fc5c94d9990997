import EventPipeline.Translator.Drawing

/-! # The walk of the translator

`generate_dot_from_task_state` returns exactly when every group that it comes to leads
on over `||`. A sink that is joined by `||` and leads on over another pipe is a group of
its own last task: the loop starts again at this task for ever.
-/

namespace EventPipeline

/-- The translator draws a group when it comes to the task. -/
def Heap.opensGroup (heap : Heap) (id : TaskId) : Bool :=
  !heap.isSkipped id && heap.isParallelExecutionNode id

/-- The walk that starts at a task comes to the given tasks: to all of the traversal up to
the first task that opens a group, which leads on over `||`, and then to those of the walk
that starts at the last task of the group. The last task itself is passed over. -/
inductive Walk (heap : Heap) : TaskId → List TaskId → Prop
  | plain {start tasks} : heap.bfTraversal start = some tasks →
      (∀ task ∈ tasks, heap.opensGroup task = false) →
      Walk heap start (tasks.filter fun task => !heap.isSkipped task)
  | group {start before task after nodes last later} :
      heap.bfTraversal start = some (before ++ task :: after) →
      (∀ other ∈ before, heap.opensGroup other = false) → heap.opensGroup task = true →
      (heap.get? task).bind PipelineTask.onSuccessPipe = some .parallelism →
      heap.getParallelNodes task = .ok (some nodes) → nodes.getLast? = some last →
      Walk heap last later →
      Walk heap start ((before.filter fun task => !heap.isSkipped task) ++ task :: later)

/-- The walk over a tree, with the trees of the tasks that it comes to. -/
inductive TreeWalk (heap : Heap) : TaskTree → List TaskTree → Prop
  | plain {tree} : (∀ sub ∈ tree.subtrees, heap.opensGroup sub.id = false) →
      TreeWalk heap tree (tree.subtrees.filter fun sub => !heap.isSkipped sub.id)
  | group {tree before group after later} : tree.subtrees = before ++ group :: after →
      (∀ sub ∈ before, heap.opensGroup sub.id = false) →
      heap.opensGroup group.id = true → group.success.pipe? = some .parallelism →
      TreeWalk heap group.last later →
      TreeWalk heap tree ((before.filter fun sub => !heap.isSkipped sub.id) ++ group :: later)

section Trees

variable {heap : Heap} {above : Option TaskId} {tree : TaskTree}

theorem Planted.last (planted : Planted heap above tree) :
    ∃ above, Planted heap above tree.last :=
  planted.turn (some 0)

theorem map_id_filter (heap : Heap) (trees : List TaskTree) :
    (trees.map TaskTree.id).filter (fun task => !heap.isSkipped task) =
      (trees.filter fun sub => !heap.isSkipped sub.id).map TaskTree.id := by
  rw [List.filter_map]
  rfl

theorem TreeWalk.walk {trees : List TaskTree} (walk : TreeWalk heap tree trees)
    (planted : Planted heap above tree) : Walk heap tree.id (trees.map TaskTree.id) := by
  induction walk generalizing above with
  | @plain tree none =>
      have traversal := planted.stored.bfTraversal_eq planted.nodup
      rw [← map_id_filter, tree.map_id_subtrees]
      refine .plain traversal fun task member => ?_
      rcases TaskTree.exists_subtree member with ⟨sub, inside, rfl⟩
      exact none sub inside
  | @group tree before group after later split earlier opens parallel _ induction =>
      have traversal := planted.stored.bfTraversal_eq planted.nodup
      have member : group ∈ tree.subtrees := by
        rw [split]
        simp
      rcases planted.subtree member with ⟨_, known⟩
      rcases known.last with ⟨_, last⟩
      rw [← tree.map_id_subtrees, split, List.map_append, List.map_cons] at traversal
      rw [List.map_append, List.map_cons, ← map_id_filter]
      have nodes : heap.getParallelNodes group.id = .ok (some group.group) := by
        rw [known.getParallelNodes_eq, if_pos (Bool.and_eq_true_iff.mp opens).2]
      refine .group traversal ?_ opens ?_ nodes ?_ (induction last)
      · intro other inside
        rcases List.mem_map.mp inside with ⟨sub, here, rfl⟩
        exact earlier sub here
      · rw [known.stored.record_eq, Option.bind_some, TaskTree.record_onSuccessPipe, parallel]
      · rw [group.group_eq, List.getLast?_concat]

theorem Walk.treeWalk {start : TaskId} {tasks : List TaskId} (walk : Walk heap start tasks)
    (planted : Planted heap above tree) (same : tree.id = start) :
    ∃ trees, TreeWalk heap tree trees ∧ trees.map TaskTree.id = tasks := by
  induction walk generalizing tree above with
  | plain traversal none =>
      subst same
      rw [planted.stored.bfTraversal_eq planted.nodup, Option.some_inj] at traversal
      refine ⟨_, .plain fun sub inside => none _ ?_, ?_⟩
      · rw [← traversal, ← tree.map_id_subtrees]
        exact List.mem_map_of_mem inside
      · rw [← map_id_filter, tree.map_id_subtrees, traversal]
  | group traversal earlier opens parallel nodes ends _ induction =>
      subst same
      rw [planted.stored.bfTraversal_eq planted.nodup, Option.some_inj,
        ← tree.map_id_subtrees] at traversal
      rcases List.map_eq_append_iff.mp traversal with ⟨before, rest, split, rfl, restEq⟩
      rcases List.map_eq_cons_iff.mp restEq with ⟨group, after, rfl, rfl, rfl⟩
      have member : group ∈ tree.subtrees := by
        rw [split]
        simp
      rcases planted.subtree member with ⟨_, known⟩
      rcases known.last with ⟨_, last⟩
      rw [known.getParallelNodes_eq, if_pos (Bool.and_eq_true_iff.mp opens).2, Except.ok.injEq,
        Option.some_inj] at nodes
      rw [← nodes, group.group_eq, List.getLast?_concat, Option.some_inj] at ends
      rcases induction last ends with ⟨later, walk, rfl⟩
      rw [known.stored.record_eq, Option.bind_some, TaskTree.record_onSuccessPipe] at parallel
      refine ⟨_, .group split (fun sub inside => ?_) opens parallel walk, ?_⟩
      · exact earlier _ (List.mem_map_of_mem inside)
      · rw [List.map_append, List.map_cons, ← map_id_filter]

end Trees

/-! ## Runs of the loop -/

/-- The statements of nodes that the translator adds when it comes to a task. -/
def Heap.drawnNodes (heap : Heap) (tree : TaskTree) : List DotNode :=
  if heap.isParallelExecutionNode tree.id then
    [heap.ownNode tree, heap.recordNode tree.id tree.group]
  else
    heap.ownNode tree :: heap.childNodes tree

def Heap.drawnEdges (heap : Heap) (tree : TaskTree) : List DotEdge :=
  if heap.isParallelExecutionNode tree.id then tree.last.childEdges tree.id
  else tree.childEdges tree.id

/-- The task that an iteration expands, unless it passes over it. -/
def Heap.expanded (heap : Heap) (state : DotState) : Option TaskId :=
  match state.iterator with
  | [] => none
  | task :: _ => if heap.isSkipped task then none else some task

/-- The tasks that the first `fuel` iterations expand. -/
def Heap.expansions (heap : Heap) (fuel : Nat) (state : DotState) : List TaskId :=
  (statesOf (dotStep heap) fuel state).filterMap heap.expanded

section Runs

variable {heap : Heap} {above : Option TaskId} {tree : TaskTree}

theorem expansions_step {task : TaskId} {rest : List TaskId} {nodes : List DotNode}
    {edges : List DotEdge} {next : DotState}
    (stepped : dotStep heap ⟨task :: rest, nodes, edges⟩ = .ok (some next)) (fuel : Nat) :
    heap.expansions (fuel + 1) ⟨task :: rest, nodes, edges⟩ =
      (if heap.isSkipped task then [] else [task]) ++ heap.expansions fuel next := by
  rw [Heap.expansions, statesOf_next stepped, List.filterMap_cons]
  cases skipped : heap.isSkipped task <;>
    simp [Heap.expanded, skipped, Heap.expansions]

theorem scan {before : List TaskTree}
    (planted : ∀ sub ∈ before, ∃ above, Planted heap above sub)
    (closed : ∀ sub ∈ before, heap.opensGroup sub.id = false) (rest : List TaskId)
    (nodes : List DotNode) (edges : List DotEdge) :
    ∃ next : DotState, next.iterator = rest ∧
      next.nodes = addAll nodes
        ((before.filter fun sub => !heap.isSkipped sub.id).flatMap heap.drawnNodes) ∧
      next.edges = addAll edges
        ((before.filter fun sub => !heap.isSkipped sub.id).flatMap heap.drawnEdges) ∧
      ∀ fuel, loop (dotStep heap) (fuel + before.length)
          ⟨before.map TaskTree.id ++ rest, nodes, edges⟩ = loop (dotStep heap) fuel next ∧
        heap.expansions (fuel + before.length) ⟨before.map TaskTree.id ++ rest, nodes, edges⟩ =
          (before.filter fun sub => !heap.isSkipped sub.id).map TaskTree.id ++
            heap.expansions fuel next := by
  induction before generalizing nodes edges with
  | nil => exact ⟨⟨rest, nodes, edges⟩, rfl, rfl, rfl, fun fuel => ⟨rfl, rfl⟩⟩
  | cons sub before induction =>
      have others := @induction (fun sub member => planted sub (List.mem_cons_of_mem _ member))
        (fun sub member => closed sub (List.mem_cons_of_mem _ member))
      rw [List.map_cons, List.cons_append, List.length_cons]
      by_cases skipped : heap.isSkipped sub.id = true
      · have stepped := dotStep_skip (before.map TaskTree.id ++ rest) nodes edges skipped
        rcases others nodes edges with ⟨next, iterator, nodesEq, edgesEq, runs⟩
        refine ⟨next, iterator, ?_, ?_, fun fuel => ?_⟩
        · simpa [skipped] using nodesEq
        · simpa [skipped] using edgesEq
        · rw [← Nat.add_assoc, loop_next stepped, expansions_step stepped, (runs fuel).1,
            (runs fuel).2]
          simp [skipped]
      · have met : heap.isSkipped sub.id = false := by simpa using skipped
        have alone : heap.isParallelExecutionNode sub.id = false := by
          simpa [Heap.opensGroup, met] using closed sub List.mem_cons_self
        rcases planted sub List.mem_cons_self with ⟨_, known⟩
        have stepped := known.dotStep_plain (before.map TaskTree.id ++ rest) nodes edges met alone
        rcases others (addAll nodes (heap.ownNode sub :: heap.childNodes sub))
          (addAll edges (sub.childEdges sub.id)) with ⟨next, iterator, nodesEq, edgesEq, runs⟩
        refine ⟨next, iterator, ?_, ?_, fun fuel => ?_⟩
        · have drawn : heap.drawnNodes sub = heap.ownNode sub :: heap.childNodes sub := by
            simp [Heap.drawnNodes, alone]
          simp only [nodesEq, List.filter_cons, met, Bool.not_false, if_true, List.flatMap_cons,
            addAll_append, drawn]
        · have drawn : heap.drawnEdges sub = sub.childEdges sub.id := by
            simp [Heap.drawnEdges, alone]
          simp only [edgesEq, List.filter_cons, met, Bool.not_false, if_true, List.flatMap_cons,
            addAll_append, drawn]
        · rw [← Nat.add_assoc, loop_next stepped, expansions_step stepped, (runs fuel).1,
            (runs fuel).2]
          simp [met]

theorem Planted.subtrees (planted : Planted heap above tree) :
    ∀ sub ∈ tree.subtrees, ∃ above, Planted heap above sub :=
  fun _ member => planted.subtree member

theorem TreeWalk.ends {trees : List TaskTree} (walk : TreeWalk heap tree trees)
    (planted : Planted heap above tree) (nodes : List DotNode) (edges : List DotEdge) :
    ∃ steps, ∀ fuel, loop (dotStep heap) (fuel + 1 + steps) ⟨tree.ids, nodes, edges⟩ =
        some (.ok ⟨[], addAll nodes (trees.flatMap heap.drawnNodes),
          addAll edges (trees.flatMap heap.drawnEdges)⟩) ∧
      heap.expansions (fuel + 1 + steps) ⟨tree.ids, nodes, edges⟩ = trees.map TaskTree.id := by
  induction walk generalizing above nodes edges with
  | @plain tree closed =>
      rcases scan planted.subtrees closed [] nodes edges with
        ⟨⟨iterator, _, _⟩, rfl, rfl, rfl, runs⟩
      rw [tree.map_id_subtrees, List.append_nil] at runs
      refine ⟨tree.subtrees.length, fun fuel => ?_⟩
      have done : ∀ nodes edges, dotStep heap ⟨[], nodes, edges⟩ = .ok none := fun _ _ => rfl
      rw [(runs (fuel + 1)).1, (runs (fuel + 1)).2, loop_done (done _ _), Heap.expansions,
        statesOf_done (done _ _)]
      simp
  | @group tree before group after later split earlier opens parallel _ induction =>
      have inTree := planted.subtrees
      rw [split] at inTree
      rcases inTree group (by simp) with ⟨_, known⟩
      rcases known.last with ⟨_, last⟩
      have opened := Bool.and_eq_true_iff.mp opens
      have met : heap.isSkipped group.id = false := by simpa using opened.1
      rcases scan (fun sub member => inTree sub (List.mem_append_left _ member)) earlier
        (group.id :: after.map TaskTree.id) nodes edges with
        ⟨⟨iterator, scanned, linked⟩, rfl, rfl, rfl, runs⟩
      have stepped := known.dotStep_group (after.map TaskTree.id)
        (addAll nodes ((before.filter fun sub => !heap.isSkipped sub.id).flatMap heap.drawnNodes))
        (addAll edges ((before.filter fun sub => !heap.isSkipped sub.id).flatMap heap.drawnEdges))
        met opened.2
      have drawnNodes : heap.drawnNodes group =
          [heap.ownNode group, heap.recordNode group.id group.group] := by
        simp [Heap.drawnNodes, opened.2]
      have drawnEdges : heap.drawnEdges group = group.last.childEdges group.id := by
        simp [Heap.drawnEdges, opened.2]
      rcases induction last _ _ with ⟨steps, ended⟩
      refine ⟨steps + 1 + before.length, fun fuel => ?_⟩
      have iterator : tree.ids = before.map TaskTree.id ++ group.id :: after.map TaskTree.id := by
        rw [← tree.map_id_subtrees, split, List.map_append, List.map_cons]
      rw [iterator, show fuel + 1 + (steps + 1 + before.length) =
        fuel + 1 + steps + 1 + before.length by omega, (runs _).1, (runs _).2,
        loop_next stepped, expansions_step stepped, (ended fuel).1, (ended fuel).2]
      simp only [met, Bool.false_eq_true, if_false, List.map_append, List.map_cons,
        List.flatMap_append, List.flatMap_cons, addAll_append, drawnNodes, drawnEdges,
        List.singleton_append, and_self]

theorem TaskTree.next_ids_length_lt (id : TaskId) (label : Label) (failure sink : Slot)
    (next : TaskTree) (customs : Customs) :
    next.ids.length <
      (TaskTree.node id label failure sink (.child .parallelism next) customs).ids.length := by
  have member : next ∈ (TaskTree.node id label failure sink (.child .parallelism next)
      customs).children :=
    TaskTree.mem_children.mpr (.inr (.inr (.inl rfl)))
  have smaller := (TaskTree.ids_sublist_of_child member).length_le
  rwa [List.length_cons] at smaller

theorem TaskTree.last_ids_length_le (tree : TaskTree) :
    tree.last.ids.length ≤ tree.ids.length := by
  induction tree using TaskTree.group_induction with
  | single tree _ _ last => rw [last]
  | parallel id label failure sink next customs induction =>
      have smaller := TaskTree.next_ids_length_lt id label failure sink next customs
      exact induction.trans (Nat.le_of_succ_le smaller)

theorem TaskTree.last_ids_length_lt {tree : TaskTree}
    (parallel : tree.success.pipe? = some .parallelism) :
    tree.last.ids.length < tree.ids.length := by
  induction tree using TaskTree.group_induction with
  | single tree other _ _ => exact absurd parallel other
  | parallel id label failure sink next customs _ =>
      have smaller := TaskTree.next_ids_length_lt id label failure sink next customs
      exact Nat.lt_of_le_of_lt next.last_ids_length_le smaller

/-- A group that does not lead on over `||` is drawn again and again. -/
theorem Planted.loop_lone (planted : Planted heap above tree)
    (opens : heap.opensGroup tree.id = true) (lone : tree.last = tree) (fuel : Nat)
    (nodes : List DotNode) (edges : List DotEdge) :
    loop (dotStep heap) fuel ⟨tree.ids, nodes, edges⟩ = none := by
  have opened := Bool.and_eq_true_iff.mp opens
  have met : heap.isSkipped tree.id = false := by simpa using opened.1
  induction fuel generalizing nodes edges with
  | zero => rfl
  | succ fuel induction =>
      have stepped := planted.dotStep_group (tree.children.flatMap TaskTree.ids) nodes edges met
        opened.2
      rw [← tree.ids_eq, lone] at stepped
      rw [loop_next stepped]
      exact induction _ _

theorem treeWalk_of_loop {fuel : Nat} (planted : Planted heap above tree)
    {nodes : List DotNode} {edges : List DotEdge} {result : Except PyError DotState}
    (ended : loop (dotStep heap) fuel ⟨tree.ids, nodes, edges⟩ = some result) :
    ∃ trees, TreeWalk heap tree trees := by
  induction size : tree.ids.length using Nat.strong_induction_on
    generalizing tree above nodes edges with
  | _ length induction =>
      cases first : tree.subtrees.find? fun sub => heap.opensGroup sub.id with
      | none =>
          rw [List.find?_eq_none] at first
          exact ⟨_, .plain fun sub member => by simpa using first sub member⟩
      | some group =>
          rcases List.find?_eq_some_iff_append.mp first with ⟨opens, before, after, split, closed⟩
          have closed : ∀ sub ∈ before, heap.opensGroup sub.id = false := by simpa using closed
          have inTree := planted.subtrees
          have member : group ∈ tree.subtrees := by
            rw [split]
            simp
          have opened := Bool.and_eq_true_iff.mp opens
          have met : heap.isSkipped group.id = false := by simpa using opened.1
          rcases inTree group member with ⟨_, known⟩
          rcases known.last with ⟨_, last⟩
          rw [split] at inTree
          rcases scan (fun sub member => inTree sub (List.mem_append_left _ member)) closed
            (group.id :: after.map TaskTree.id) nodes edges with
            ⟨⟨iterator, scanned, linked⟩, rfl, rfl, rfl, runs⟩
          have stepped := known.dotStep_group (after.map TaskTree.id)
            (addAll nodes
              ((before.filter fun sub => !heap.isSkipped sub.id).flatMap heap.drawnNodes))
            (addAll edges
              ((before.filter fun sub => !heap.isSkipped sub.id).flatMap heap.drawnEdges))
            met opened.2
          have onward := loop_mono ended (1 + before.length)
          rw [← tree.map_id_subtrees, split, List.map_append, List.map_cons, ← Nat.add_assoc,
            (runs _).1, loop_next stepped] at onward
          by_cases parallel : group.success.pipe? = some .parallelism
          · have smaller := TaskTree.last_ids_length_lt parallel
            have inside := (TaskTree.ids_sublist_of_subtree member).length_le
            rcases induction _ (by omega) last onward rfl with ⟨later, walk⟩
            exact ⟨_, .group split closed opens parallel walk⟩
          · have lone := @TaskTree.last_eq_self group (by
              rw [TaskTree.group_eq_singleton parallel]
              rfl)
            rw [lone, known.loop_lone opens lone] at onward
            cases onward

end Runs

/-! ## Tasks of a walk -/

section Tasks

variable {heap : Heap} {tree : TaskTree} {trees : List TaskTree}

theorem TaskTree.last_mem_subtrees (tree : TaskTree) : tree.last ∈ tree.subtrees := by
  induction tree using TaskTree.group_induction with
  | single tree _ _ last =>
      rw [last]
      exact tree.self_mem_subtrees
  | parallel id label failure sink next customs induction =>
      exact TaskTree.mem_subtrees_of_child (TaskTree.mem_children.mpr (.inr (.inr (.inl rfl))))
        induction

theorem TaskTree.subtrees_trans {tree sub inner : TaskTree} (outside : sub ∈ tree.subtrees)
    (inside : inner ∈ sub.subtrees) : inner ∈ tree.subtrees := by
  induction tree using TaskTree.children_induction with
  | step tree induction =>
      rw [tree.subtrees_eq] at outside
      rcases List.mem_cons.mp outside with rfl | below
      · exact inside
      · rcases List.mem_flatMap.mp below with ⟨child, among, further⟩
        exact TaskTree.mem_subtrees_of_child among (induction child among further)

theorem TreeWalk.subset (walk : TreeWalk heap tree trees) : trees ⊆ tree.subtrees := by
  induction walk with
  | plain => exact List.filter_subset_self _
  | @group tree before group after later split _ _ _ _ induction =>
      intro sub member
      rcases List.mem_append.mp member with earlier | member
      · rw [split]
        exact List.mem_append_left _ (List.filter_subset_self _ earlier)
      · have inTree : group ∈ tree.subtrees := by
          rw [split]
          simp
        rcases List.mem_cons.mp member with rfl | later
        · exact inTree
        · exact TaskTree.subtrees_trans inTree
            (TaskTree.subtrees_trans group.last_mem_subtrees (induction later))

theorem TaskTree.not_mem_of_split {sub : TaskTree} {before after : List TaskTree}
    (nodup : tree.ids.Nodup) (split : tree.subtrees = before ++ sub :: after) {id : TaskId}
    (earlier : id ∈ before.map TaskTree.id) : id ∉ sub.ids := by
  intro inside
  rw [← tree.map_id_subtrees, split, List.map_append, List.nodup_append] at nodup
  refine nodup.2.2 id earlier id ?_ rfl
  rw [← sub.map_id_subtrees] at inside
  exact (List.map_subset TaskTree.id (TaskTree.subtrees_prefix split).subset) inside

theorem TaskTree.id_not_mem_last {tree : TaskTree} (nodup : tree.ids.Nodup)
    (parallel : tree.success.pipe? = some .parallelism) : tree.id ∉ tree.last.ids := by
  induction tree using TaskTree.group_induction with
  | single tree other _ _ => exact absurd parallel other
  | parallel id label failure sink next customs _ =>
      intro inside
      have member : next ∈ (TaskTree.node id label failure sink (.child .parallelism next)
          customs).children :=
        TaskTree.mem_children.mpr (.inr (.inr (.inl rfl)))
      have apart := List.nodup_cons.mp (nodup.sublist (TaskTree.ids_sublist_of_child member))
      exact apart.1 ((TaskTree.ids_sublist_of_subtree next.last_mem_subtrees).subset inside)

theorem TreeWalk.nodup (walk : TreeWalk heap tree trees) (nodup : tree.ids.Nodup) :
    (trees.map TaskTree.id).Nodup := by
  induction walk with
  | @plain tree _ =>
      rw [← tree.map_id_subtrees] at nodup
      exact nodup.sublist (List.filter_sublist.map _)
  | @group tree before group after later split _ _ parallel walk induction =>
      have member : group ∈ tree.subtrees := by
        rw [split]
        simp
      have inner := nodup.sublist (TaskTree.ids_sublist_of_subtree member)
      have lastIn := TaskTree.ids_sublist_of_subtree group.last_mem_subtrees
      have laterIn : ∀ id ∈ later.map TaskTree.id, id ∈ group.last.ids := by
        intro id inside
        rw [← group.last.map_id_subtrees]
        exact List.map_subset TaskTree.id walk.subset inside
      rw [List.map_append, List.map_cons, List.nodup_append]
      refine ⟨?_, List.nodup_cons.mpr ⟨fun inside => ?_, induction (inner.sublist lastIn)⟩, ?_⟩
      · have whole := nodup
        rw [← tree.map_id_subtrees, split, List.map_append, List.nodup_append] at whole
        exact whole.1.sublist (List.filter_sublist.map _)
      · exact TaskTree.id_not_mem_last inner parallel (laterIn _ inside)
      · rintro id earlier other further rfl
        have outside := TaskTree.not_mem_of_split nodup split
          (List.map_subset TaskTree.id (List.filter_subset_self _) earlier)
        rcases List.mem_cons.mp further with rfl | further
        · exact outside group.id_mem_ids
        · exact outside (lastIn.subset (laterIn _ further))

end Tasks

/-! ## Walks that end -/

/-- The walk over a tree comes to a group: the first one of the traversal, or one that the walk
over the last task of the first comes to. -/
inductive ComesTo (heap : Heap) : TaskTree → TaskTree → Prop
  | first {tree before group after} : tree.subtrees = before ++ group :: after →
      (∀ sub ∈ before, heap.opensGroup sub.id = false) → heap.opensGroup group.id = true →
      ComesTo heap tree group
  | further {tree before group after other} : tree.subtrees = before ++ group :: after →
      (∀ sub ∈ before, heap.opensGroup sub.id = false) → heap.opensGroup group.id = true →
      ComesTo heap group.last other → ComesTo heap tree other

section Ends

variable {heap : Heap} {tree : TaskTree}

theorem firstGroup_unique {group other : TaskTree} {before after front back : List TaskTree}
    (split : tree.subtrees = before ++ group :: after)
    (closed : ∀ sub ∈ before, heap.opensGroup sub.id = false)
    (opens : heap.opensGroup group.id = true)
    (otherSplit : tree.subtrees = front ++ other :: back)
    (otherClosed : ∀ sub ∈ front, heap.opensGroup sub.id = false)
    (otherOpens : heap.opensGroup other.id = true) : other = group := by
  have found : tree.subtrees.find? (fun sub => heap.opensGroup sub.id) = some group :=
    List.find?_eq_some_iff_append.mpr ⟨opens, before, after, split, by simpa using closed⟩
  have again : tree.subtrees.find? (fun sub => heap.opensGroup sub.id) = some other :=
    List.find?_eq_some_iff_append.mpr
      ⟨otherOpens, front, back, otherSplit, by simpa using otherClosed⟩
  exact Option.some.inj (again.symm.trans found)

theorem exists_treeWalk_iff : (∃ trees, TreeWalk heap tree trees) ↔
    ∀ group, ComesTo heap tree group → group.success.pipe? = some .parallelism := by
  constructor
  · rintro ⟨trees, walk⟩
    induction walk with
    | @plain tree closed =>
        intro group comes
        have member : ∀ {before after sub}, tree.subtrees = before ++ sub :: after →
            heap.opensGroup sub.id = true → False := by
          intro before after sub split opens
          rw [closed sub (by rw [split]; simp)] at opens
          cases opens
        cases comes with
        | first split _ opens => exact (member split opens).elim
        | further split _ opens _ => exact (member split opens).elim
    | group split closed opens parallel _ induction =>
        intro other comes
        cases comes with
        | first otherSplit otherClosed otherOpens =>
            rw [firstGroup_unique split closed opens otherSplit otherClosed otherOpens]
            exact parallel
        | further otherSplit otherClosed otherOpens onward =>
            rw [firstGroup_unique split closed opens otherSplit otherClosed otherOpens] at onward
            exact induction other onward
  · intro parallel
    induction size : tree.ids.length using Nat.strong_induction_on generalizing tree with
    | _ length induction =>
        cases first : tree.subtrees.find? fun sub => heap.opensGroup sub.id with
        | none =>
            rw [List.find?_eq_none] at first
            exact ⟨_, .plain fun sub member => by simpa using first sub member⟩
        | some group =>
            rcases List.find?_eq_some_iff_append.mp first with
              ⟨opens, before, after, split, closed⟩
            have closed : ∀ sub ∈ before, heap.opensGroup sub.id = false := by simpa using closed
            have leads := parallel group (.first split closed opens)
            have member : group ∈ tree.subtrees := by
              rw [split]
              simp
            have smaller := TaskTree.last_ids_length_lt leads
            have inside := (TaskTree.ids_sublist_of_subtree member).length_le
            obtain ⟨later, walk⟩ := induction _ (by omega)
              (fun other onward => parallel other (.further split closed opens onward)) rfl
            exact ⟨_, .group split closed opens leads walk⟩

end Ends

/-! ## Returning -/

/-- `generate_dot_from_task_state` returns. -/
def DotReturns (heap : Heap) (task : TaskId) : Prop :=
  ∃ fuel result, generateDot heap fuel task = some (.ok result)

/-- No iteration expands a task that has been expanded before. -/
def NeverRevisits (heap : Heap) (task : TaskId) : Prop :=
  ∀ root iterator, heap.getRoot task = some root → traverse heap root = .ok iterator →
    ∀ fuel, (heap.expansions fuel ⟨iterator, [], []⟩).Nodup

theorem Planted.generateDot_eq {heap : Heap} {tree : TaskTree}
    (planted : Planted heap none tree) (fuel : Nat) :
    generateDot heap fuel tree.id = loop (dotStep heap) fuel ⟨tree.ids, [], []⟩ := by
  simp only [generateDot, planted.stored.getRoot_eq planted.nodup tree.id_mem_ids,
    planted.traverse_eq]

/-- The translator returns, and never comes back to a task, exactly when every group that
its walk comes to leads on over `||`. -/
theorem dotReturns_iff (pipeline : AcceptedPipeline) :
    DotReturns pipeline.heap pipeline.root ∧ NeverRevisits pipeline.heap pipeline.root ↔
      ∃ tasks, Walk pipeline.heap pipeline.root tasks := by
  rcases pipeline.planted with ⟨tree, same, planted⟩
  rw [← same]
  constructor
  · rintro ⟨⟨fuel, result, returned⟩, _⟩
    rw [planted.generateDot_eq] at returned
    rcases treeWalk_of_loop planted returned with ⟨trees, walk⟩
    exact ⟨_, walk.walk planted⟩
  · rintro ⟨tasks, walk⟩
    rcases walk.treeWalk planted rfl with ⟨trees, walked, _⟩
    rcases walked.ends planted [] [] with ⟨steps, ended⟩
    refine ⟨⟨_, _, (planted.generateDot_eq _).trans (ended 0).1⟩, ?_⟩
    intro root iterator rooted traversed fuel
    rw [planted.stored.getRoot_eq planted.nodup tree.id_mem_ids, Option.some_inj] at rooted
    subst rooted
    rw [planted.traverse_eq, Except.ok.injEq] at traversed
    subst traversed
    have longer := (@statesOf_append_left _ _ (dotStep pipeline.heap) fuel (1 + steps)
      ⟨tree.ids, [], []⟩).sublist.filterMap pipeline.heap.expanded
    have whole := (ended fuel).2
    rw [Heap.expansions, Nat.add_assoc] at whole
    rw [whole] at longer
    exact (walked.nodup planted.nodup).sublist longer

/-- The tasks of `A(0->X,1->Y)||C`. -/
def joinedSinkHeap : Heap := ⟨[
  { event := "X", descriptor := some 0, descriptorPipe := some .pointer, parentNode := some 2 },
  { event := "Y", descriptor := some 1, descriptorPipe := some .pointer, parentNode := some 2 },
  { event := "A", sinkNode := some 3, sinkPipe := some .parallelism, onSuccessEvent := some 1,
    onFailureEvent := some 0, onSuccessPipe := some .pointer, onFailurePipe := some .pointer },
  { event := "C", parentNode := some 2 }]⟩

def joinedSinkPipeline : AcceptedPipeline :=
  ⟨.initial, "A(0->X,1->Y)||C", 2, joinedSinkHeap, rfl⟩

/-- The state in which the translator comes back to `C`. -/
def joinedSinkState : DotState where
  iterator := [3]
  nodes := [⟨2, "A", .diamond⟩, ⟨3, "\x7bC\x7d", .record⟩, ⟨0, "X", .circle⟩, ⟨3, "C", .box⟩]
  edges := [⟨2, 0, some 0⟩, ⟨2, 3, none⟩, ⟨2, 1, some 1⟩]

/-- The translator draws `C` for ever. -/
theorem not_dotReturns_joinedSink :
    ¬DotReturns joinedSinkPipeline.heap joinedSinkPipeline.root ∧
      ¬NeverRevisits joinedSinkPipeline.heap joinedSinkPipeline.root := by
  constructor
  · rintro ⟨fuel, result, returned⟩
    have again : dotStep joinedSinkHeap joinedSinkState = .ok (some joinedSinkState) := by decide
    have forever : ∀ fuel, loop (dotStep joinedSinkHeap) fuel joinedSinkState = none := by
      intro fuel
      induction fuel with
      | zero => rfl
      | succ fuel induction => rw [loop_next again, induction]
    have longer : generateDot joinedSinkHeap (fuel + 3) 2 =
        loop (dotStep joinedSinkHeap) fuel joinedSinkState := rfl
    have ended : generateDot joinedSinkHeap (fuel + 3) 2 = some (.ok result) :=
      loop_mono returned 3
    rw [longer, forever] at ended
    cases ended
  · intro never
    have twice := never 2 [2, 0, 3, 1] (by decide) rfl 4
    exact absurd twice (by decide)

end EventPipeline
