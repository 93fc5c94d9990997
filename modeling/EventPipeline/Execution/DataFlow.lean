import EventPipeline.Execution.PreviousResult

/-! # Which results reach which tasks

When the results that the event of a task is constructed with are those of the task, or
of the whole parallel group, on the left of the `|->` that leads to it.
-/

namespace EventPipeline

open Procedure

/-! ## The groups of a run -/

section Origins

variable {env : Environment} {heap : Heap} {root tree : TaskTree} {previous : Option ContextId}
  {sites : List EventExecutionContext}

theorem Origin.planted (origin : Origin env root sites tree previous)
    (planted : Planted heap none root) :
    (tree = root ∧ previous = none) ∨ ∃ above, Planted heap (some above) tree := by
  have descend : ∀ {tree kid : TaskTree} {previous : Option ContextId},
      (tree = root ∧ previous = none) ∨ (∃ above, Planted heap (some above) tree) →
      kid ∈ (tree.turn previous).children →
      ∃ above, Planted heap (some above) kid := by
    intro tree kid previous known member
    rcases known with ⟨rfl, _⟩ | ⟨above, known⟩
    · rcases planted.turn previous with ⟨above, turned⟩
      exact ⟨_, turned.child member⟩
    · rcases known.turn previous with ⟨above, turned⟩
      exact ⟨_, turned.child member⟩
  induction origin with
  | start => exact .inl ⟨rfl, rfl⟩
  | branch _ _ _ _ member induction =>
      rcases TaskTree.branch_edge member with ⟨position, pipe, edge, _⟩
      exact .inr (descend induction (TaskTree.mem_children_of_edge edge))
  | switch _ _ _ _ member induction =>
      exact .inr (descend induction (TaskTree.mem_children.mpr (.inr (.inr (.inr member)))))
  | sink _ member induction =>
      refine .inr (@descend _ _ none ?_ (TaskTree.mem_children.mpr (.inr (.inl member))))
      rcases induction with ⟨_, nothing⟩ | known
      · cases nothing
      · exact .inr known

theorem Origin.exists_planted (origin : Origin env root sites tree previous)
    (planted : Planted heap none root) : ∃ above, Planted heap above tree := by
  rcases origin.planted planted with ⟨rfl, _⟩ | ⟨above, known⟩
  · exact ⟨none, planted⟩
  · exact ⟨some above, known⟩

/-- Of the trees that are visited without a previous context only the root leads on
over `||`. -/
theorem Origin.eq_root (origin : Origin env root sites tree none)
    (planted : Planted heap none root) (parallel : tree.success.pipe? = some .parallelism) :
    tree = root := by
  cases origin with
  | start => rfl
  | switch origin _ _ _ member =>
      rcases origin.exists_planted planted with ⟨above, known⟩
      rcases known.turn none with ⟨above, turned⟩
      rcases turnedTree : TaskTree.turn _ none with ⟨id, label, failure, sink, success, customs⟩
      rw [turnedTree] at turned member
      exact absurd parallel (turned.scripted.2.2.2.2.2.2.tree member).2

theorem Origin.parallel_root (origin : Origin env root sites tree previous)
    (planted : Planted heap none root) {before : TaskId}
    (reached : ParallelTo heap before tree.id) : before = root.id ∧ previous ≠ none := by
  cases origin with
  | start => exact absurd reached (planted.stored.not_parallelTo_root before)
  | @branch tree previous failed kid behind site origin _ _ _ member =>
      rcases origin.exists_planted planted with ⟨above, known⟩
      rcases known.turn previous with ⟨above, turned⟩
      rcases TaskTree.branch_edge member with ⟨position, pipe, edge, _⟩
      rcases turned.parallelTo_edge edge reached with ⟨rfl, rfl, rfl⟩
      have pipe : (tree.turn previous).success.pipe? = some .parallelism := by
        rw [TaskTree.success_of_edge edge]
        rfl
      cases previous with
      | none =>
          obtain rfl := origin.eq_root planted pipe
          exact ⟨rfl, by simp⟩
      | some previous => exact absurd pipe tree.last_success
  | switch origin _ _ _ member =>
      rcases origin.exists_planted planted with ⟨above, known⟩
      rcases known.turn previous with ⟨above, turned⟩
      rcases TaskTree.customs_edge member with ⟨pipe, edge⟩
      rcases turned.parallelTo_edge edge reached with ⟨_, custom, _⟩
      cases custom
  | sink origin member =>
      rcases origin.exists_planted planted with ⟨above, known⟩
      rcases TaskTree.sink_edge member with ⟨pipe, edge⟩
      rcases known.parallelTo_edge edge reached with ⟨_, sink, _⟩
      cases sink

/-- The tasks of a context are a whole group, or a part of the group that starts at the
root. -/
theorem Origin.whole_or_part (origin : Origin env root sites tree previous)
    (planted : Planted heap none root) :
    (MaximalChain (ParallelTo heap) (tree.members previous) ∧
      ((tree.members previous).head? = some root.id → tree.members previous = [root.id])) ∨
    ∃ chain, ParallelChain heap chain ∧ chain.head? = some root.id ∧
      tree.members previous ⊆ chain ∧ ¬(tree.members previous).Perm chain := by
  rcases origin.exists_planted planted with ⟨above, known⟩
  by_cases reached : ∃ before, ParallelTo heap before tree.id
  · rcases reached with ⟨before, reached⟩
    rcases origin.parallel_root planted reached with ⟨rfl, follows⟩
    rcases Option.ne_none_iff_exists'.mp follows with ⟨behind, rfl⟩
    have positive := List.length_pos_iff.mpr tree.group_ne_nil
    refine .inr ⟨root.id :: tree.group, ⟨?_, ?_⟩, rfl, fun task member => ?_, fun perm => ?_⟩
    · exact planted.stored.root_group_maximal known.stored reached
    · exact Nat.succ_le_succ positive
    · exact List.mem_cons_of_mem _ member
    · simpa [TaskTree.members] using perm.length_eq
  · have maximal := known.stored.group_maximal fun before edge => reached ⟨before, edge⟩
    cases previous with
    | some behind =>
        refine .inl ⟨maximal, fun first => ?_⟩
        rw [TaskTree.members, tree.head?_group, Option.some_inj] at first
        rcases origin.planted planted with ⟨_, nothing⟩ | ⟨parent, below⟩
        · cases nothing
        · have record := below.stored.record_eq
          rw [first, planted.stored.record_eq, Option.some_inj] at record
          have parents := congrArg PipelineTask.parentNode record
          simp at parents
    | none =>
        by_cases parallel : tree.success.pipe? = some .parallelism
        · obtain rfl := origin.eq_root planted parallel
          have several := TaskTree.two_le_length_group parallel
          refine .inr ⟨tree.group, ⟨maximal, several⟩, tree.head?_group, ?_, fun perm => ?_⟩
          · rintro task member
            rw [List.mem_singleton.mp member]
            exact List.mem_of_mem_head? (Option.mem_def.mpr tree.head?_group)
          · have length := perm.length_eq
            simp only [TaskTree.members, List.length_singleton] at length
            omega
        · have alone := TaskTree.group_eq_singleton parallel
          rw [alone] at maximal
          refine .inl ⟨maximal, fun first => ?_⟩
          simpa [TaskTree.members] using first

theorem Origin.head_eq (origin : Origin env root sites tree previous)
    (planted : Planted heap none root) {parent head task : TaskId} {position : Position}
    {pipe : PipeType} (inside : task ∈ root.ids) (member : task ∈ tree.members previous)
    (edge : Edge heap parent position pipe head) (arrow : pipe ≠ .parallelism)
    (group : Relation.ReflTransGen (ParallelTo heap) head task) : head = tree.id := by
  rcases origin.exists_planted planted with ⟨above, known⟩
  have within := tree.members_subset_group previous member
  have leads : Relation.ReflTransGen (ParallelTo heap) tree.id task := by
    have chain := known.stored.group_isChain
    rcases tree
    exact reflTransGen_of_isChain chain within
  rcases total_of_leftUnique (parallelTo_leftUnique heap) group leads with up | down
  · rcases up.cases_tail with same | ⟨before, further, reached⟩
    · exact same.symm
    · -- the root leads to the group, and no arrow leads to the root
      obtain ⟨rfl, _⟩ := origin.parallel_root planted reached
      rcases further.cases_tail with rfl | ⟨before, _, reached⟩
      · rcases edge with ⟨_, record, _, found, linked, _⟩
        rw [planted.stored.record_eq, Option.some_inj] at found
        rw [← found, TaskTree.record_parentNode] at linked
        cases linked
      · exact absurd reached (planted.stored.not_parallelTo_root before)
  · rcases down.cases_tail with same | ⟨before, _, reached⟩
    · exact same
    · have known := planted.edge_unique_of_mem
        (planted.mem_ids_of_reflTransGen group inside) reached.edge edge
      exact absurd known.2.2.symm arrow

end Origins

/-! ## Delivery -/

/-- The result that is handed over is the one of the context of the whole group that the
task stands in, and it holds exactly the results of this group. -/
def Delivered (env : Environment) (heap : Heap) (final : RunState) (parent : TaskId)
    (handed : PreviousResult) : Prop :=
  ∃ chain, MaximalChain (ParallelTo heap) chain ∧ parent ∈ chain ∧
    ∃ id context, handed = .results id ∧ final.contexts.get? id = some context ∧
      context.taskProfiles.Perm chain ∧
      context.executionResult = env.collected id context.taskProfiles

/-- What is handed to a task that is reached from `parent`: over `|->`, unless it is a
sink, the results of the group of `parent`, and over `->` nothing. -/
def PassesOn (env : Environment) (heap : Heap) (final : RunState) (parent : TaskId)
    (position : Position) (pipe : PipeType) (handed : PreviousResult) : Prop :=
  (pipe = .pipePointer → position ≠ .sink → Delivered env heap final parent handed) ∧
    (pipe = .pointer → handed = .absent)

/-- The task stands in a parallel group of several tasks that starts at the root. -/
def InRootGroup (heap : Heap) (root task : TaskId) : Prop :=
  ∃ chain, ParallelChain heap chain ∧ chain.head? = some root ∧ task ∈ chain

section Handing

variable {env : Environment} {heap : Heap} {root tree : TaskTree}
  {previous : Option ContextId} {sites : List EventExecutionContext}

theorem previousResult_results {context : EventExecutionContext} {task : TaskId}
    {behind : ContextId} (pointer : heap.inputPointer task = some (.pipe .pipePointer))
    (linked : context.previousContext = some behind) :
    context.previousResult heap task = .results behind := by
  simp [EventExecutionContext.previousResult, pointer, linked]

theorem previousContext_of_results {context : EventExecutionContext} {task : TaskId}
    {behind : ContextId} (handed : context.previousResult heap task = .results behind) :
    context.previousContext = some behind := by
  unfold EventExecutionContext.previousResult at handed
  split at handed
  · split at handed
    · cases handed
      assumption
    · cases handed
  · cases handed

theorem previousResult_absent {context : EventExecutionContext} {task : TaskId}
    {pipe : PipeType} {condition : Prop} (other : pipe ≠ .pipePointer)
    (pointer : heap.inputPointer task = some (.pipe pipe) ∨
      condition ∧ heap.inputPointer task = none) :
    context.previousResult heap task = .absent := by
  rcases pointer with pointer | ⟨_, pointer⟩ <;>
    simp [EventExecutionContext.previousResult, pointer, other]

theorem passesOn_iff_of_pointer {final : RunState} {context : EventExecutionContext}
    {parent task : TaskId} {position : Position} {pipe : PipeType} {missed good : Prop}
    (pointer : heap.inputPointer task = some (.pipe pipe) ∨
      missed ∧ heap.inputPointer task = none)
    (delivered : pipe = .pipePointer → position ≠ .sink →
      (Delivered env heap final parent (context.previousResult heap task) ↔ good)) :
    PassesOn env heap final parent position pipe (context.previousResult heap task) ↔
      (pipe = .pipePointer → position ≠ .sink → good) := by
  constructor
  · intro passes piped inner
    exact (delivered piped inner).mp (passes.1 piped inner)
  · intro condition
    refine ⟨fun piped inner => (delivered piped inner).mpr (condition piped inner), ?_⟩
    rintro rfl
    exact previousResult_absent (by simp) pointer

/-- The tasks of a finished context are the group of each of them, unless that group
starts at the root. -/
theorem Origin.perm_iff (origin : Origin env root sites tree previous)
    (planted : Planted heap none root) {tasks : List TaskId}
    (perm : tasks.Perm (tree.members previous)) {task : TaskId}
    (member : task ∈ tree.members previous) :
    (∃ chain, MaximalChain (ParallelTo heap) chain ∧ task ∈ chain ∧ tasks.Perm chain) ↔
      ¬InRootGroup heap root.id task := by
  have unique := fun {left right : List TaskId} =>
    @MaximalChain.eq_of_mem _ (ParallelTo heap) (parallelTo_rightUnique heap)
      (parallelTo_leftUnique heap) left right
  constructor
  · rintro ⟨chain, maximal, among, whole⟩ ⟨other, parallel, first, inside⟩
    obtain rfl := unique maximal parallel.maximal among inside
    rcases origin.whole_or_part planted with ⟨full, alone⟩ | ⟨part, partial_, _, covers, short⟩
    · obtain rfl := unique maximal full among member
      have several := parallel.several
      rw [alone first] at several
      simp at several
    · obtain rfl := unique maximal partial_.maximal among (covers member)
      exact short (perm.symm.trans whole)
  · intro outside
    rcases origin.whole_or_part planted with ⟨full, _⟩ | ⟨part, partial_, first, covers, _⟩
    · exact ⟨_, full, member, perm⟩
    · exact absurd ⟨part, partial_, first, covers member⟩ outside

end Handing

/-- A task that is dispatched in two contexts is dispatched twice. -/
theorem eq_of_nodup_flatten {groups : List (List TaskId)} (nodup : groups.flatten.Nodup)
    {left right : Nat} {first second : List TaskId} {task : TaskId}
    (leftFound : groups[left]? = some first) (rightFound : groups[right]? = some second)
    (leftMember : task ∈ first) (rightMember : task ∈ second) : left = right := by
  induction groups generalizing left right with
  | nil => cases leftFound
  | cons group rest induction =>
      rw [List.flatten_cons, List.nodup_append] at nodup
      rcases nodup with ⟨_, later, apart⟩
      have inRest : ∀ {id : Nat} {other : List TaskId}, rest[id]? = some other → task ∈ other →
          task ∈ rest.flatten := fun found member =>
        List.mem_flatten_of_mem (List.mem_of_getElem? found) member
      cases left with
      | zero =>
          cases right with
          | zero => rfl
          | succ right =>
              cases leftFound
              exact absurd rfl (apart task leftMember task (inRest rightFound rightMember))
      | succ left =>
          cases right with
          | zero =>
              cases rightFound
              exact absurd rfl (apart task rightMember task (inRest leftFound leftMember))
          | succ right => rw [induction later leftFound rightFound]

section Theorem

variable {env : Environment} {heap : Heap} {root : TaskTree} {final : RunState}

theorem RunState.exists_of_site {id : Nat} {site : EventExecutionContext}
    (found : final.sites[id]? = some site) :
    ∃ context, final.contexts.get? id = some context ∧
      context.taskProfiles = site.taskProfiles ∧
      context.executionResult = site.executionResult := by
  rw [RunState.sites_getElem?] at found
  rcases Option.map_eq_some_iff.mp found with ⟨context, stored, rfl⟩
  exact ⟨context, stored, rfl, rfl⟩

theorem RunState.groups_getElem?_of_site {id : Nat} {site : EventExecutionContext}
    (found : final.sites[id]? = some site) : final.groups[id]? = some site.taskProfiles := by
  have same : final.sites.map EventExecutionContext.taskProfiles = final.groups := by
    simp [RunState.sites, RunState.groups]
  rw [← same, List.getElem?_map, found]
  rfl

/-- The result of a finished context is delivered unless the group that its tasks belong
to starts at the root. -/
theorem Origin.delivered_iff {tree : TaskTree} {previous : Option ContextId}
    (origin : Origin env root final.sites tree previous) (planted : Planted heap none root)
    {behind : Nat} {site context : EventExecutionContext} {parent task : TaskId}
    (found : final.sites[behind]? = some site)
    (perm : site.taskProfiles.Perm (tree.members previous))
    (collected : site.executionResult = env.collected behind site.taskProfiles)
    (member : parent ∈ tree.members previous)
    (linked : context.previousContext = some behind)
    (pointer : ¬InRootGroup heap root.id parent →
      heap.inputPointer task = some (.pipe .pipePointer)) :
    Delivered env heap final parent (context.previousResult heap task) ↔
      ¬InRootGroup heap root.id parent := by
  rcases RunState.exists_of_site found with ⟨before, stored, tasks, results⟩
  rw [← origin.perm_iff planted perm member]
  constructor
  · rintro ⟨chain, maximal, among, id, other, handed, otherStored, whole, _⟩
    have same := (previousContext_of_results handed).symm.trans linked
    rw [Option.some_inj] at same
    subst same
    rw [stored, Option.some_inj] at otherStored
    subst otherStored
    exact ⟨chain, maximal, among, tasks ▸ whole⟩
  · rintro ⟨chain, maximal, among, whole⟩
    have outside := (origin.perm_iff planted perm member).mp ⟨chain, maximal, among, whole⟩
    refine ⟨chain, maximal, among, behind, before,
      previousResult_results (pointer outside) linked, stored, tasks ▸ whole, ?_⟩
    rw [results, tasks, collected]

theorem Origin.turn_eq_root {tree : TaskTree} {previous : Option ContextId}
    {sites : List EventExecutionContext} (origin : Origin env root sites tree previous)
    (planted : Planted heap none root)
    (parallel : (tree.turn previous).success.pipe? = some .parallelism) :
    tree.turn previous = root := by
  cases previous with
  | none => exact origin.eq_root planted parallel
  | some behind => exact absurd parallel tree.last_success

theorem Planted.inRootGroup (planted : Planted heap none root)
    (parallel : root.success.pipe? = some .parallelism) : InRootGroup heap root.id root.id :=
  ⟨root.group, ⟨planted.stored.group_maximal planted.stored.not_parallelTo_root,
      TaskTree.two_le_length_group parallel⟩, root.head?_group,
    List.mem_of_mem_head? (Option.mem_def.mpr root.head?_group)⟩

theorem TaskTree.Proper.success_of_sink {tree sink : TaskTree} (proper : tree.Proper)
    (member : sink ∈ tree.sink.tree?) : tree.success.pipe? ≠ some .parallelism := by
  rcases tree with ⟨id, label, failure, slot, success, customs⟩
  apply proper.1
  cases slot with
  | vacant => cases member
  | child => rfl

theorem Planted.mem_edges {above : Option TaskId} {tree kid : TaskTree}
    (planted : Planted heap above tree) (child : kid ∈ tree.children) {parent : TaskId}
    {position : Position} {pipe : PipeType} (edge : Edge heap parent position pipe kid.id) :
    parent = tree.id ∧ (position, pipe, kid) ∈ tree.edges := by
  have below := planted.stored.child child
  obtain rfl := edge.parent_eq below.record_eq (kid.record_parentNode _)
  rcases planted.stored.exists_of_edge edge with ⟨other, same, member⟩
  rw [← tree.edges_children] at child
  rcases List.mem_map.mp child with ⟨⟨otherPosition, otherPipe, _⟩, otherMember, rfl⟩
  rcases TaskTree.edge_unique planted.nodup member otherMember same.symm with ⟨rfl, rfl, rfl⟩
  exact ⟨rfl, otherMember⟩

theorem Planted.pointer_cases {above : Option TaskId} {tree kid : TaskTree}
    (rootPlanted : Planted heap none root) (planted : Planted heap above tree)
    (onlyRoot : tree.success.pipe? = some .parallelism → tree = root) {position : Position}
    {pipe : PipeType} (edge : (position, pipe, kid) ∈ tree.edges) {task : TaskId}
    (member : task ∈ kid.group) :
    heap.inputPointer task = some (.pipe pipe) ∨
      InRootGroup heap root.id tree.id ∧ heap.inputPointer task = none := by
  by_cases parallel : tree.success.pipe? = some .parallelism
  · obtain rfl := onlyRoot parallel
    rcases rootPlanted.inputPointer_cases edge member (fun _ => rfl) with found | ⟨_, nothing⟩
    · exact .inl found
    · exact .inr ⟨rootPlanted.inRootGroup parallel, nothing⟩
  · rcases planted.inputPointer_cases edge member (fun same => absurd same parallel) with
      found | ⟨same, _⟩
    · exact .inl found
    · exact absurd same parallel

/-- A context that an event switched away from is not the one whose results are handed
to the target of the switch. -/
theorem not_delivered_of_switch {tree : TaskTree} {previous : Option ContextId}
    (nodup : final.dispatched.Nodup) {here : Nat} {site context : EventExecutionContext}
    {task : TaskId} (found : final.sites[here]? = some site)
    (perm : site.taskProfiles.Perm (tree.members previous))
    (earlier : ∀ behind ∈ previous, behind < here) (linked : context.previousContext = previous) :
    ¬Delivered env heap final (tree.turn previous).id (context.previousResult heap task) := by
  rintro ⟨chain, _, among, id, other, handed, stored, whole, _⟩
  have before := earlier id (linked ▸ previousContext_of_results handed)
  have otherGroup : final.groups[id]? = some other.taskProfiles := by
    simp only [RunState.groups, List.getElem?_map]
    rw [show final.contexts.cells[id]? = some other from stored]
    rfl
  have inSite : (tree.turn previous).id ∈ site.taskProfiles :=
    perm.mem_iff.mpr (tree.turn_id_mem_members previous)
  have same := eq_of_nodup_flatten nodup otherGroup (RunState.groups_getElem?_of_site found)
    (whole.mem_iff.mpr among) inSite
  rw [same] at before
  exact Nat.lt_irrefl _ before

end Theorem

theorem Runs.visits {pipeline : AcceptedPipeline} {env : Environment} {final : RunState}
    {signals : List Signal} (runs : Runs pipeline env final signals) :
    Visits env pipeline.heap pipeline.root ⟨none, [], final⟩ := by
  rcases pipeline.runs env with ⟨root, other, same, _, _, _, others, ended⟩
  have agree := (runs false none rfl).symm.trans (others false none rfl)
  simp only [Prod.mk.injEq, Except.ok.injEq] at agree
  rw [agree.1, ← same]
  exact ended

/-- Results are handed over `|->` to the right task, and to no task over `->`, except that
the target of a switch and the tasks behind a parallel group at the root get others. -/
theorem passesOn_iff {pipeline : AcceptedPipeline} {env : Environment} {final : RunState}
    {signals : List Signal} (runs : Runs pipeline env final signals) {id : ContextId}
    {context : EventExecutionContext} {parent head task : TaskId} {position : Position}
    {pipe : PipeType} (found : final.contexts.get? id = some context)
    (member : task ∈ context.taskProfiles)
    (edge : Edge pipeline.heap parent position pipe head)
    (group : Relation.ReflTransGen (ParallelTo pipeline.heap) head task) :
    PassesOn env pipeline.heap final parent position pipe
        (context.previousResult pipeline.heap task) ↔
      (pipe = .pipePointer → position ≠ .sink →
        position ≠ .custom ∧ ¬InRootGroup pipeline.heap pipeline.root parent) := by
  have visits := runs.visits
  rcases pipeline.planted with ⟨root, same, planted⟩
  rw [← same] at visits ⊢
  have rooted : Rooted pipeline.heap root := ⟨⟨none, planted.stored⟩, planted.proper⟩
  rcases traced_of_visits rooted planted.nodup visits with ⟨_, _, forest, traced⟩
  have account : final.dispatched.Subperm root.ids :=
    (List.sublist_append_left _ _).subperm.trans forest.account
  have nodup := nodup_of_subperm account planted.nodup
  have site : final.sites[id]? = some { context with nextContext := none } := by
    rw [RunState.sites_getElem?, found]
    rfl
  have inside : task ∈ root.ids := by
    have group := List.mem_of_getElem? (RunState.groups_getElem?_of_site site)
    exact account.subset (List.mem_flatten_of_mem group member)
  rcases traced.contexts _ (List.mem_of_getElem? site) with ⟨tree, origin, perm⟩
  have among : task ∈ tree.members context.previousContext := perm.mem_iff.mp member
  have within := tree.members_subset_group _ among
  by_cases arrow : pipe = .parallelism
  · subst arrow
    simp [PassesOn]
  obtain rfl := origin.head_eq planted inside among edge arrow group
  -- which results are handed over depends on how the run comes to the tree
  generalize linked : context.previousContext = previous at origin among
  cases origin with
  | start =>
      rcases edge with ⟨_, record, _, found, below, _⟩
      rw [planted.stored.record_eq, Option.some_inj] at found
      rw [← found, TaskTree.record_parentNode] at below
      cases below
  | @branch above before failed _ behind site origin stored perm passed branch =>
      rcases origin.exists_planted planted with ⟨_, known⟩
      rcases known.turn before with ⟨_, turned⟩
      rcases TaskTree.branch_edge branch with ⟨_, _, kept, notSink, notCustom⟩
      rcases turned.mem_edges (TaskTree.mem_children_of_edge kept) edge with ⟨rfl, here⟩
      obtain ⟨rfl, rfl, _⟩ := TaskTree.edge_unique turned.nodup kept here rfl
      have pointer := planted.pointer_cases turned (origin.turn_eq_root planted) here within
      refine passesOn_iff_of_pointer pointer fun piped _ => ?_
      subst piped
      rw [and_iff_right notCustom]
      refine origin.delivered_iff planted stored perm
        (executionResult_of_visits rooted planted.nodup visits stored passed)
        (above.turn_id_mem_members before) linked fun outside => ?_
      rcases pointer with pointer | ⟨startsThere, _⟩
      · exact pointer
      · exact absurd startsThere outside
  | @switch above _ _ here site origin stored perm earlier custom =>
      rcases origin.exists_planted planted with ⟨_, known⟩
      rcases known.turn previous with ⟨_, turned⟩
      rcases TaskTree.customs_edge custom with ⟨_, kept⟩
      rcases turned.mem_edges (TaskTree.mem_children_of_edge kept) edge with ⟨rfl, here⟩
      obtain ⟨rfl, rfl, _⟩ := TaskTree.edge_unique turned.nodup kept here rfl
      have pointer := planted.pointer_cases turned (origin.turn_eq_root planted) here within
      refine passesOn_iff_of_pointer pointer fun _ _ => iff_of_false ?_ (fun good => good.1 rfl)
      exact not_delivered_of_switch nodup stored perm earlier linked
  | @sink above before _ _ origin sink =>
      rcases origin.exists_planted planted with ⟨_, known⟩
      rcases TaskTree.sink_edge sink with ⟨_, kept⟩
      rcases known.mem_edges (TaskTree.mem_children_of_edge kept) edge with ⟨rfl, here⟩
      obtain ⟨rfl, rfl, _⟩ := TaskTree.edge_unique known.nodup kept here rfl
      have pointer := planted.pointer_cases known (fun parallel => ?_) here within
      · exact passesOn_iff_of_pointer pointer fun _ inner => absurd rfl inner
      · exact absurd parallel (known.proper.success_of_sink sink)

def pipedHeap : Heap := ⟨[
  { event := "S", onSuccessEvent := some 1, onSuccessPipe := some .pointer },
  { event := "A", parentNode := some 0, onSuccessEvent := some 2,
    onSuccessPipe := some .parallelism },
  { event := "B", parentNode := some 1, onSuccessEvent := some 3,
    onSuccessPipe := some .pipePointer },
  { event := "C", parentNode := some 2 }]⟩

def pipedPipeline : AcceptedPipeline :=
  ⟨.initial, "S->A||B|->C", 0, pipedHeap, rfl⟩

theorem passesOn_pipedPipeline :
    ∃ signals context,
      Runs pipedPipeline allSucceed (pipedPipeline.final allSucceed) signals ∧
      (pipedPipeline.final allSucceed).contexts.get? 2 = some context ∧
      3 ∈ context.taskProfiles ∧ Edge pipedHeap 2 .success .pipePointer 3 ∧
      PassesOn allSucceed pipedHeap (pipedPipeline.final allSucceed) 2 .success .pipePointer
        (context.previousResult pipedHeap 3) := by
  rcases @AcceptedPipeline.runs_of_start pipedPipeline allSucceed _ rfl with ⟨signals, runs⟩
  have edge : Edge pipedHeap 2 .success .pipePointer 3 := ⟨_, _, rfl, rfl, rfl, by decide⟩
  refine ⟨signals, _, runs, rfl, by decide, edge, ?_⟩
  refine (@passesOn_iff pipedPipeline allSucceed _ _ runs 2 _ 2 3 3 .success .pipePointer rfl
    (by decide) edge .refl).mpr fun _ _ => ⟨by decide, ?_⟩
  rintro ⟨chain, parallel, first, _⟩
  cases chain with
  | nil => cases first
  | cons head rest =>
      cases first
      cases rest with
      | nil => exact absurd parallel.several (by decide)
      | cons second rest =>
          rcases List.isChain_cons_cons.mp parallel.maximal.linked with
            ⟨⟨task, _, found, _, _, pipe, _⟩, _⟩
          cases found
          cases pipe

def rootPipedHeap : Heap := ⟨[
  { event := "A", onSuccessEvent := some 1, onSuccessPipe := some .parallelism },
  { event := "B", parentNode := some 0, onSuccessEvent := some 2,
    onSuccessPipe := some .pipePointer },
  { event := "C", parentNode := some 1 }]⟩

def rootPipedPipeline : AcceptedPipeline :=
  ⟨.initial, "A||B|->C", 0, rootPipedHeap, rfl⟩

/-- `C` gets the results of `B` without those of `A`. -/
theorem not_passesOn_root :
    ∃ signals context,
      Runs rootPipedPipeline allSucceed (rootPipedPipeline.final allSucceed) signals ∧
      (rootPipedPipeline.final allSucceed).contexts.get? 2 = some context ∧
      2 ∈ context.taskProfiles ∧ Edge rootPipedHeap 1 .success .pipePointer 2 ∧
      ¬PassesOn allSucceed rootPipedHeap (rootPipedPipeline.final allSucceed) 1 .success
        .pipePointer (context.previousResult rootPipedHeap 2) := by
  rcases @AcceptedPipeline.runs_of_start rootPipedPipeline allSucceed _ rfl with
    ⟨signals, runs⟩
  refine ⟨signals, _, runs, rfl, by decide, ⟨_, _, rfl, rfl, rfl, by decide⟩, fun passes => ?_⟩
  rcases passes.1 rfl (by decide) with
    ⟨chain, maximal, _, id, context, handed, stored, whole, _⟩
  cases handed
  cases stored
  obtain rfl : chain = [1] := List.perm_singleton.mp whole.symm
  exact maximal.first 1 rfl 0 ⟨_, _, rfl, rfl, rfl, rfl, rfl⟩

end EventPipeline
