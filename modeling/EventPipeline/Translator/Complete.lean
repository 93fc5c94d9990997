import EventPipeline.Translator.Graph

/-! # When the graph is complete

When the translator comes to a group it drops the rest of its traversal and goes on
below the last task of the group. The graph is complete exactly when nothing is lost
with the rest.
-/

namespace EventPipeline

/-- All that there is to draw for the task is drawn before the walk starts again: the task
leads on over `||` only, and it is in the group `nodes` or in a group that is drawn with
a task of `before`. -/
def Heap.SetAside (heap : Heap) (before nodes : List TaskId) (task : TaskId) : Prop :=
  (∀ child ∈ heap.childrenOf task, ParallelTo heap task child) ∧
    (task ∈ nodes ∨ ∃ parent ∈ before, heap.isSkipped parent = false ∧
      ∃ child ∈ heap.childrenOf parent, ∃ group,
        heap.getParallelNodes child = .ok (some group) ∧ task ∈ group)

/-- Nothing is lost from the given task on. At the first task of the traversal that opens a
group, everything that comes later is below the last task of the group or set aside, and
the group does not start with a sink or a conditional task, which has a statement of its
own besides. -/
inductive Drawn (heap : Heap) : TaskId → Prop
  | plain {start tasks} : heap.bfTraversal start = some tasks →
      (∀ task ∈ tasks, heap.opensGroup task = false) → Drawn heap start
  | group {start before task after nodes last below} :
      heap.bfTraversal start = some (before ++ task :: after) →
      (∀ other ∈ before, heap.opensGroup other = false) → heap.opensGroup task = true →
      heap.getParallelNodes task = .ok (some nodes) → nodes.getLast? = some last →
      heap.bfTraversal last = some below →
      heap.isSink task = false → (heap.get? task).any PipelineTask.isConditional = false →
      (∀ other ∈ task :: after, other ∉ below → heap.SetAside before nodes other) →
      Drawn heap last → Drawn heap start

/-- The tasks that the walk from a task has to draw. A task that is passed over has been
drawn with its group. -/
def Heap.Required (heap : Heap) (tree sub : TaskTree) : Prop :=
  sub ∈ tree.subtrees ∧ (heap.isSkipped tree.id = true → sub ≠ tree)

section Below

variable {heap : Heap} {above : Option TaskId} {tree stop : TaskTree}
  (planted : Planted heap above tree) (stopIn : stop ∈ tree.subtrees)
include planted stopIn

theorem Planted.parent_below {parent child : TaskTree} (parentIn : parent ∈ tree.subtrees)
    (among : child ∈ parent.children) (inside : child.id ∈ stop.ids)
    (other : child.id ≠ stop.id) : parent.id ∈ stop.ids := by
  rcases TaskTree.exists_subtree inside with ⟨sub, below, same⟩
  rcases TaskTree.subtrees_cases below with rfl | ⟨hanger, further, hangs⟩
  · exact absurd same.symm other
  · rcases planted.subtree (TaskTree.subtrees_trans stopIn further) with ⟨_, hangerKnown⟩
    rcases planted.subtree parentIn with ⟨_, parentKnown⟩
    have record := (hangerKnown.child hangs).stored.record_eq
    rw [same, (parentKnown.child among).stored.record_eq, Option.some_inj] at record
    have parents := congrArg PipelineTask.parentNode record
    rw [TaskTree.record_parentNode, TaskTree.record_parentNode, Option.some_inj] at parents
    rw [parents, ← stop.map_id_subtrees]
    exact List.mem_map_of_mem further

theorem Planted.group_below (alone : stop.success.pipe? ≠ some .parallelism) {task : TaskId}
    (inside : task ∈ stop.ids) (other : task ≠ stop.id) {sub : TaskTree}
    (member : sub ∈ tree.subtrees) (among : task ∈ sub.group) :
    sub.id ∈ stop.ids ∧ sub.id ≠ stop.id := by
  induction sub using TaskTree.group_induction with
  | single sub _ group _ =>
      rw [group, List.mem_singleton] at among
      rw [← among]
      exact ⟨inside, other⟩
  | parallel id label failure sink next customs induction =>
      rcases List.mem_cons.mp among with rfl | later
      · exact ⟨inside, other⟩
      · have child : next ∈ (TaskTree.node id label failure sink (.child .parallelism next)
            customs).children := TaskTree.mem_children.mpr (.inr (.inr (.inl rfl)))
        have nextIn := TaskTree.subtrees_trans member
          (TaskTree.mem_subtrees_of_child child next.self_mem_subtrees)
        rcases induction nextIn later with ⟨nextInside, nextOther⟩
        refine ⟨planted.parent_below stopIn member child nextInside nextOther, fun same => ?_⟩
        rw [← TaskTree.eq_of_id planted.nodup member stopIn same] at alone
        exact alone rfl

end Below

section Groups

variable {heap : Heap} {above : Option TaskId} {tree group : TaskTree}
  {before after later : List TaskTree}

theorem Planted.setAside_iff {other : TaskTree} (planted : Planted heap above other)
    (known : ∀ sub ∈ before, ∃ above, Planted heap above sub) (nodes : List TaskId) :
    heap.SetAside (before.map TaskTree.id) nodes other.id ↔
      (∀ child ∈ other.children, ParallelTo heap other.id child.id) ∧
        (other.id ∈ nodes ∨ ∃ parent ∈ before, heap.isSkipped parent.id = false ∧
          ∃ child ∈ parent.children, heap.isParallelExecutionNode child.id = true ∧
            other.id ∈ child.group) := by
  unfold Heap.SetAside
  rw [planted.childrenOf_eq, List.forall_mem_map]
  refine and_congr_right fun _ => or_congr_right ?_
  constructor
  · rintro ⟨_, member, met, child, below, found, nodes, inside⟩
    rcases List.mem_map.mp member with ⟨parent, earlier, rfl⟩
    rcases known parent earlier with ⟨_, parentKnown⟩
    rw [parentKnown.childrenOf_eq] at below
    rcases List.mem_map.mp below with ⟨kid, hangs, rfl⟩
    rw [(parentKnown.child hangs).getParallelNodes_eq, Except.ok.injEq] at nodes
    split at nodes
    · rename_i parallel
      rw [← Option.some_inj.mp nodes] at inside
      exact ⟨parent, earlier, met, kid, hangs, parallel, inside⟩
    · cases nodes
  · rintro ⟨parent, earlier, met, child, hangs, parallel, inside⟩
    rcases known parent earlier with ⟨_, parentKnown⟩
    refine ⟨parent.id, List.mem_map_of_mem earlier, met, child.id, ?_, child.group, ?_, inside⟩
    · rw [parentKnown.childrenOf_eq]
      exact List.mem_map_of_mem hangs
    · rw [(parentKnown.child hangs).getParallelNodes_eq, if_pos parallel]

variable (planted : Planted heap above tree) (split : tree.subtrees = before ++ group :: after)
  (closed : ∀ sub ∈ before, heap.opensGroup sub.id = false)
  (opens : heap.opensGroup group.id = true)
  (parallel : group.success.pipe? = some .parallelism)

include split

theorem TaskTree.group_mem : group ∈ tree.subtrees := by
  rw [split]
  simp

theorem TaskTree.last_mem : group.last ∈ tree.subtrees :=
  TaskTree.subtrees_trans (TaskTree.group_mem split) group.last_mem_subtrees

include planted

theorem Planted.group_not_below (parallel : group.success.pipe? = some .parallelism) :
    group.id ∉ group.last.ids :=
  TaskTree.id_not_mem_last (TaskTree.nodup_subtree planted.nodup (TaskTree.group_mem split))
    parallel

theorem Planted.before_not_below {sub : TaskTree} (earlier : sub ∈ before) :
    sub.id ∉ group.last.ids := by
  intro inside
  refine TaskTree.not_mem_of_split planted.nodup split (List.mem_map_of_mem earlier) ?_
  exact (TaskTree.ids_sublist_of_subtree group.last_mem_subtrees).subset inside

theorem Planted.start_not_below (parallel : group.success.pipe? = some .parallelism) :
    tree.id ∉ group.last.ids := by
  cases before with
  | nil =>
      rw [tree.subtrees_eq, List.nil_append, List.cons.injEq] at split
      rw [split.1] at planted ⊢
      exact TaskTree.id_not_mem_last planted.nodup parallel
  | cons first before =>
      have same := split
      rw [tree.subtrees_eq, List.cons_append, List.cons.injEq] at same
      rw [same.1]
      rw [same.1] at planted split
      exact planted.before_not_below split List.mem_cons_self

theorem Planted.start_not_after {sub : TaskTree} (member : sub ∈ after) : sub ≠ tree := by
  rintro rfl
  have nodup := planted.nodup
  rw [← sub.map_id_subtrees, split, List.map_append, List.map_cons] at nodup
  have first := split
  rw [sub.subtrees_eq] at first
  cases before with
  | nil =>
      rw [List.nil_append, List.cons.injEq] at first
      rw [← first.1, List.map_nil, List.nil_append, List.nodup_cons] at nodup
      exact nodup.1 (List.mem_map_of_mem member)
  | cons other before =>
      rw [List.cons_append, List.cons.injEq] at first
      rw [← first.1, List.map_cons, List.cons_append, List.nodup_cons] at nodup
      refine nodup.1 (List.mem_append_right _ (List.mem_cons_of_mem _ ?_))
      exact List.mem_map_of_mem member

theorem Planted.before_ne {sub other : TaskTree} (earlier : sub ∈ before)
    (further : other ∈ group :: after) : other.id ≠ sub.id := by
  have nodup := planted.nodup
  rw [← tree.map_id_subtrees, split, List.map_append, List.nodup_append] at nodup
  intro same
  exact nodup.2.2 _ (List.mem_map_of_mem earlier) _ (List.mem_map_of_mem further) same.symm

include closed

theorem Planted.before_alone {sub : TaskTree}
    (visited : sub ∈ before.filter fun sub => !heap.isSkipped sub.id) :
    sub ∈ before ∧ heap.isSkipped sub.id = false ∧
      heap.isParallelExecutionNode sub.id = false ∧ sub.group = [sub.id] ∧ sub.last = sub := by
  rcases List.mem_filter.mp visited with ⟨earlier, met⟩
  have met : heap.isSkipped sub.id = false := by simpa using met
  have alone : heap.isParallelExecutionNode sub.id = false := by
    simpa [Heap.opensGroup, met] using closed sub earlier
  have member : sub ∈ tree.subtrees := by
    rw [split]
    exact List.mem_append_left _ earlier
  rcases planted.subtree member with ⟨_, known⟩
  have apart := known.alone_success alone
  exact ⟨earlier, met, alone, TaskTree.group_eq_singleton apart, TaskTree.last_of_alone apart⟩

include opens

/-- What is drawn: the tasks before the group and the groups among their children, the
group, and what is drawn later. -/
theorem Planted.met_iff (task : TaskId) :
    heap.Met ((before.filter fun sub => !heap.isSkipped sub.id) ++ group :: later) task ↔
      (∃ sub ∈ before, heap.isSkipped sub.id = false ∧ task = sub.id) ∨
        (∃ parent ∈ before, heap.isSkipped parent.id = false ∧ ∃ child ∈ parent.children,
          heap.isParallelExecutionNode child.id = true ∧ task ∈ child.group) ∨
        task ∈ group.group ∨ heap.Met later task := by
  have opened := (Bool.and_eq_true_iff.mp opens).2
  constructor
  · rintro ⟨sub, visited, met⟩
    rcases List.mem_append.mp visited with earlier | visited
    · rcases planted.before_alone split closed earlier with ⟨earlier, passed, _, single, _⟩
      rcases met with here | ⟨_, child, hangs, among, here⟩
      · rw [single, List.mem_singleton] at here
        exact .inl ⟨sub, earlier, passed, here⟩
      · exact .inr (.inl ⟨sub, earlier, passed, child, hangs, among, here⟩)
    · rcases List.mem_cons.mp visited with rfl | visited
      · rcases met with here | ⟨alone, _⟩
        · exact .inr (.inr (.inl here))
        · rw [opened] at alone
          cases alone
      · exact .inr (.inr (.inr ⟨sub, visited, met⟩))
  · rintro (⟨sub, earlier, passed, rfl⟩ | ⟨sub, earlier, passed, rest⟩ | here |
      ⟨sub, visited, met⟩)
    · exact ⟨sub, List.mem_append_left _ (by simp [earlier, passed]), .inl sub.id_mem_group⟩
    · have visited : sub ∈ before.filter fun sub => !heap.isSkipped sub.id := by
        simp [earlier, passed]
      have alone := (planted.before_alone split closed visited).2.2.1
      exact ⟨sub, List.mem_append_left _ visited, .inr ⟨alone, rest⟩⟩
    · exact ⟨group, by simp, .inl here⟩
    · exact ⟨sub, by simp [visited], met⟩

omit opens in
theorem Planted.source_iff (task : TaskId) :
    Source ((before.filter fun sub => !heap.isSkipped sub.id) ++ group :: later) task ↔
      (∃ sub ∈ before, heap.isSkipped sub.id = false ∧ task = sub.id) ∨
        task = group.last.id ∨ Source later task := by
  constructor
  · rintro ⟨sub, visited, same⟩
    rcases List.mem_append.mp visited with earlier | visited
    · rcases planted.before_alone split closed earlier with ⟨earlier, passed, _, _, last⟩
      rw [last] at same
      exact .inl ⟨sub, earlier, passed, same⟩
    · rcases List.mem_cons.mp visited with rfl | visited
      · exact .inr (.inl same)
      · exact .inr (.inr ⟨sub, visited, same⟩)
  · rintro (⟨sub, earlier, passed, rfl⟩ | rfl | ⟨sub, visited, rfl⟩)
    · have visited : sub ∈ before.filter fun sub => !heap.isSkipped sub.id := by
        simp [earlier, passed]
      have last := (planted.before_alone split closed visited).2.2.2.2
      refine ⟨sub, List.mem_append_left _ visited, ?_⟩
      rw [last]
    · exact ⟨group, by simp, rfl⟩
    · exact ⟨sub, by simp [visited], rfl⟩

end Groups

theorem TaskTree.group_subset_ids (tree : TaskTree) : tree.group ⊆ tree.ids := by
  induction tree using TaskTree.group_induction with
  | single tree _ group _ =>
      rw [group, tree.ids_eq]
      simp
  | parallel id label failure sink next customs induction =>
      have child : next ∈ (TaskTree.node id label failure sink (.child .parallelism next)
          customs).children := TaskTree.mem_children.mpr (.inr (.inr (.inl rfl)))
      have below := (TaskTree.ids_sublist_of_child child).subset
      intro task member
      rcases List.mem_cons.mp member with rfl | later
      · exact below List.mem_cons_self
      · exact below (List.mem_cons_of_mem _ (induction later))

theorem Planted.isSkipped_last {heap : Heap} {above : Option TaskId} {tree : TaskTree}
    (planted : Planted heap above tree) (parallel : tree.success.pipe? = some .parallelism) :
    heap.isSkipped tree.last.id = true := by
  induction tree using TaskTree.group_induction generalizing above with
  | single tree other _ _ => exact absurd parallel other
  | parallel id label failure sink next customs induction =>
      have child : next ∈ (TaskTree.node id label failure sink (.child .parallelism next)
          customs).children := TaskTree.mem_children.mpr (.inr (.inr (.inl rfl)))
      have known := planted.child child
      by_cases further : next.success.pipe? = some .parallelism
      · exact induction known further
      · have ends : (TaskTree.node id label failure sink (.child .parallelism next)
            customs).last = next := TaskTree.last_of_alone further
        rw [ends, planted.isSkipped_child child]
        exact ⟨rfl, further⟩

theorem Heap.Met.below {heap : Heap} {tree : TaskTree} {trees : List TaskTree} {task : TaskId}
    (met : heap.Met trees task) (inside : trees ⊆ tree.subtrees) : task ∈ tree.ids := by
  rcases met with ⟨sub, visited, here | ⟨_, child, hangs, _, here⟩⟩
  · exact (TaskTree.ids_sublist_of_subtree (inside visited)).subset (sub.group_subset_ids here)
  · have childIn := TaskTree.subtrees_trans (inside visited)
      (TaskTree.mem_subtrees_of_child hangs child.self_mem_subtrees)
    exact (TaskTree.ids_sublist_of_subtree childIn).subset (child.group_subset_ids here)

theorem Source.below {tree : TaskTree} {trees : List TaskTree} {task : TaskId}
    (source : Source trees task) (inside : trees ⊆ tree.subtrees) : task ∈ tree.ids := by
  rcases source with ⟨sub, visited, rfl⟩
  have lastIn := TaskTree.subtrees_trans (inside visited) sub.last_mem_subtrees
  exact (TaskTree.ids_sublist_of_subtree lastIn).subset sub.last.id_mem_ids

/-! ## One group -/

section Covers

variable {heap : Heap} {above : Option TaskId} {tree group : TaskTree}
  {before after later : List TaskTree} (planted : Planted heap above tree)
  (split : tree.subtrees = before ++ group :: after)
  (closed : ∀ sub ∈ before, heap.opensGroup sub.id = false)
  (opens : heap.opensGroup group.id = true)
  (parallel : group.success.pipe? = some .parallelism)
include planted split parallel

theorem Heap.Required.of_last {sub : TaskTree} (required : heap.Required group.last sub) :
    heap.Required tree sub ∧ sub.id ∈ group.last.ids ∧ sub.id ≠ group.last.id := by
  rcases required with ⟨below, passed⟩
  rcases planted.subtree (TaskTree.group_mem split) with ⟨_, known⟩
  have other := passed (known.isSkipped_last parallel)
  have member := TaskTree.subtrees_trans (TaskTree.last_mem split) below
  have inLast : sub.id ∈ group.last.ids := by
    rw [← group.last.map_id_subtrees]
    exact List.mem_map_of_mem below
  refine ⟨⟨member, fun _ same => ?_⟩, inLast, fun same => other ?_⟩
  · rw [same] at inLast
    exact planted.start_not_below split parallel inLast
  · exact TaskTree.eq_of_id planted.nodup member (TaskTree.last_mem split) same

include closed opens

theorem Heap.Covered.below_last
    (covered : heap.Covered (heap.Required tree)
      ((before.filter fun sub => !heap.isSkipped sub.id) ++ group :: later)) :
    heap.Covered (heap.Required group.last) later := by
  have notBelow := planted.group_not_below split parallel
  refine ⟨fun sub member => covered.heads sub (by simp [member]), fun sub required => ?_,
    fun sub required child hangs apart => ?_⟩
  · rcases Heap.Required.of_last planted split parallel required with ⟨here, below, other⟩
    rcases (planted.met_iff split closed opens _).mp (covered.met sub here) with
      ⟨met, earlier, _, same⟩ | ⟨parent, earlier, _, child, hangs, _, among⟩ | among | met
    · rw [same] at below
      exact absurd below (planted.before_not_below split earlier)
    · -- the group would be below the last task, and so would its parent be
      have parentIn : parent ∈ tree.subtrees := by
        rw [split]
        exact List.mem_append_left _ earlier
      have childIn := TaskTree.subtrees_trans parentIn
        (TaskTree.mem_subtrees_of_child hangs child.self_mem_subtrees)
      rcases planted.group_below (TaskTree.last_mem split) group.last_success below other childIn
        among with ⟨childBelow, childOther⟩
      have parentBelow := planted.parent_below (TaskTree.last_mem split) parentIn hangs childBelow
        childOther
      exact absurd parentBelow (planted.before_not_below split earlier)
    · have groupBelow := planted.group_below (TaskTree.last_mem split) group.last_success below
        other (TaskTree.group_mem split) among
      exact absurd groupBelow.1 notBelow
    · exact met
  · rcases Heap.Required.of_last planted split parallel required with ⟨here, below, other⟩
    rcases (planted.source_iff split closed _).mp (covered.sources sub here child hangs apart) with
      ⟨met, earlier, _, same⟩ | same | source
    · rw [same] at below
      exact absurd below (planted.before_not_below split earlier)
    · exact absurd same other
    · exact source

omit parallel in
/-- What is required outside of the last task of a group is drawn before the walk starts
again. -/
theorem Heap.Covered.setAside (inside : later ⊆ group.last.subtrees)
    (covered : heap.Covered (heap.Required tree)
      ((before.filter fun sub => !heap.isSkipped sub.id) ++ group :: later))
    {other : TaskTree} (member : other ∈ group :: after) (outside : other.id ∉ group.last.ids) :
    heap.SetAside (before.map TaskTree.id) group.group other.id := by
  have inTree : ∀ sub ∈ before ++ group :: after, sub ∈ tree.subtrees := by
    rw [split]
    exact fun _ member => member
  have required : heap.Required tree other := by
    refine ⟨inTree other (List.mem_append_right _ member), fun passed same => ?_⟩
    rcases List.mem_cons.mp member with rfl | further
    · rw [same] at opens
      simp [Heap.opensGroup, passed] at opens
    · exact planted.start_not_after split further same
  rcases planted.subtree required.1 with ⟨_, known⟩
  refine (known.setAside_iff (fun sub earlier =>
    planted.subtree (inTree sub (List.mem_append_left _ earlier))) _).mpr ⟨?_, ?_⟩
  · intro child hangs
    by_contra apart
    rcases (planted.source_iff split closed _).mp
      (covered.sources other required child hangs apart) with
      ⟨sub, earlier, _, same⟩ | same | source
    · exact planted.before_ne split earlier member same
    · rw [same] at outside
      exact outside group.last.id_mem_ids
    · exact outside (source.below inside)
  · rcases (planted.met_iff split closed opens _).mp (covered.met other required) with
      ⟨sub, earlier, _, same⟩ | drawn | among | met
    · exact absurd same (planted.before_ne split earlier member)
    · exact .inr drawn
    · exact .inl among
    · exact absurd (met.below inside) outside

/-- A walk covers a tree when nothing is lost with the rest of the traversal. -/
theorem Heap.Covered.of_later
    (heads : heap.isSink group.id = false ∧ group.isConditional = false)
    (aside : ∀ other ∈ group :: after, other.id ∉ group.last.ids →
      heap.SetAside (before.map TaskTree.id) group.group other.id)
    (covered : heap.Covered (heap.Required group.last) later) :
    heap.Covered (heap.Required tree)
      ((before.filter fun sub => !heap.isSkipped sub.id) ++ group :: later) := by
  have inTree : ∀ sub ∈ before ++ group :: after, sub ∈ tree.subtrees := by
    rw [split]
    exact fun _ member => member
  have known : ∀ sub ∈ before, ∃ above, Planted heap above sub :=
    fun sub earlier => planted.subtree (inTree sub (List.mem_append_left _ earlier))
  -- where a required task stands
  have cases : ∀ sub, heap.Required tree sub →
      (sub ∈ before ∧ heap.isSkipped sub.id = false) ∨ sub = group.last ∨
        heap.Required group.last sub ∨
          heap.SetAside (before.map TaskTree.id) group.group sub.id := by
    intro sub required
    have member := required.1
    rw [split] at member
    rcases List.mem_append.mp member with earlier | further
    · refine .inl ⟨earlier, ?_⟩
      by_cases start : sub = tree
      · rw [Bool.eq_false_iff]
        intro passed
        rw [start] at passed
        exact required.2 passed start
      · rcases List.append_of_mem earlier with ⟨left, right, rfl⟩
        rw [List.append_assoc, List.cons_append] at split
        exact planted.not_skipped split
          (fun other among => closed other (List.mem_append_left _ among)) start
    · by_cases below : sub.id ∈ group.last.ids
      · refine .inr ?_
        by_cases last : sub = group.last
        · exact .inl last
        · refine .inr (.inl ⟨?_, fun _ => last⟩)
          rcases TaskTree.exists_subtree below with ⟨same, among, ids⟩
          have sameIn := TaskTree.subtrees_trans (TaskTree.last_mem split) among
          rw [← TaskTree.eq_of_id planted.nodup sameIn required.1 ids]
          exact among
      · exact .inr (.inr (.inr (aside sub further below)))
  refine ⟨?_, ?_, ?_⟩
  · intro sub visited among
    rcases List.mem_append.mp visited with earlier | visited
    · rw [(planted.before_alone split closed earlier).2.2.1] at among
      cases among
    · rcases List.mem_cons.mp visited with rfl | visited
      · exact heads
      · exact covered.heads sub visited among
  · intro sub required
    rw [planted.met_iff split closed opens]
    rcases cases sub required with ⟨earlier, passed⟩ | rfl | below | aside
    · exact .inl ⟨sub, earlier, passed, rfl⟩
    · exact .inr (.inr (.inl group.last_id_mem_group))
    · exact .inr (.inr (.inr (covered.met sub below)))
    · rcases planted.subtree required.1 with ⟨_, here⟩
      rcases ((here.setAside_iff known _).mp aside).2 with among | drawn
      · exact .inr (.inr (.inl among))
      · exact .inr (.inl drawn)
  · intro sub required child hangs apart
    rw [planted.source_iff split closed]
    rcases cases sub required with ⟨earlier, passed⟩ | rfl | below | aside
    · exact .inl ⟨sub, earlier, passed, rfl⟩
    · exact .inr (.inl rfl)
    · exact .inr (.inr (covered.sources sub below child hangs apart))
    · rcases planted.subtree required.1 with ⟨_, here⟩
      exact absurd (((here.setAside_iff known _).mp aside).1 child hangs) apart

end Covers

/-! ## Whole walks -/

theorem first_unique {Value : Type} {holds : Value → Bool}
    {left otherLeft right otherRight : List Value} {value other : Value}
    (same : left ++ value :: right = otherLeft ++ other :: otherRight)
    (none : ∀ value ∈ left, holds value = false) (here : holds value = true)
    (otherNone : ∀ value ∈ otherLeft, holds value = false) (otherHere : holds other = true) :
    left = otherLeft ∧ value = other ∧ right = otherRight := by
  induction left generalizing otherLeft with
  | nil =>
      cases otherLeft with
      | nil =>
          rw [List.nil_append, List.nil_append, List.cons.injEq] at same
          exact ⟨rfl, same⟩
      | cons first otherLeft =>
          rw [List.nil_append, List.cons_append, List.cons.injEq] at same
          rw [same.1, otherNone first List.mem_cons_self] at here
          cases here
  | cons first left induction =>
      cases otherLeft with
      | nil =>
          rw [List.nil_append, List.cons_append, List.cons.injEq] at same
          rw [← same.1, none first List.mem_cons_self] at otherHere
          cases otherHere
      | cons second otherLeft =>
          rw [List.cons_append, List.cons_append, List.cons.injEq] at same
          rcases induction same.2 (fun value member => none value (List.mem_cons_of_mem _ member))
            (fun value member => otherNone value (List.mem_cons_of_mem _ member)) with
            ⟨lefts, rest⟩
          rw [same.1, lefts]
          exact ⟨rfl, rest⟩

section Walks

variable {heap : Heap} {above : Option TaskId} {tree : TaskTree}

theorem Planted.covered_plain (planted : Planted heap above tree)
    (closed : ∀ sub ∈ tree.subtrees, heap.opensGroup sub.id = false) :
    heap.Covered (heap.Required tree)
      (tree.subtrees.filter fun sub => !heap.isSkipped sub.id) := by
  have alone : ∀ sub ∈ tree.subtrees.filter fun sub => !heap.isSkipped sub.id,
      heap.isParallelExecutionNode sub.id = false := by
    intro sub visited
    rcases List.mem_filter.mp visited with ⟨member, met⟩
    have met : heap.isSkipped sub.id = false := by simpa using met
    simpa [Heap.opensGroup, met] using closed sub member
  have visited : ∀ sub, heap.Required tree sub →
      sub ∈ tree.subtrees.filter fun sub => !heap.isSkipped sub.id := by
    rintro sub ⟨member, passed⟩
    refine List.mem_filter.mpr ⟨member, ?_⟩
    by_cases start : sub = tree
    · rw [Bool.not_eq_true']
      rw [Bool.eq_false_iff]
      intro skipped
      rw [start] at skipped
      exact passed skipped start
    · rcases List.append_of_mem member with ⟨left, right, split⟩
      have earlier : ∀ other ∈ left, heap.opensGroup other.id = false := by
        intro other among
        refine closed other ?_
        rw [split]
        exact List.mem_append_left _ among
      rw [planted.not_skipped split earlier start]
      rfl
  refine ⟨fun sub member among => ?_, fun sub required => ?_, fun sub required _ _ _ => ?_⟩
  · rw [alone sub member] at among
    cases among
  · exact ⟨sub, visited sub required, .inl sub.id_mem_group⟩
  · rcases planted.subtree required.1 with ⟨_, known⟩
    refine ⟨sub, visited sub required, ?_⟩
    rw [TaskTree.last_of_alone (known.alone_success (alone sub (visited sub required)))]

theorem TreeWalk.covered_iff {trees : List TaskTree} (walk : TreeWalk heap tree trees)
    (planted : Planted heap above tree) :
    heap.Covered (heap.Required tree) trees ↔ Drawn heap tree.id := by
  induction walk generalizing above with
  | @plain tree closed =>
      refine iff_of_true (planted.covered_plain closed) ?_
      refine .plain (planted.stored.bfTraversal_eq planted.nodup) fun task member => ?_
      rcases TaskTree.exists_subtree member with ⟨sub, inside, rfl⟩
      exact closed sub inside
  | @group tree before group after later split closed opens parallel walk induction =>
      rcases planted.subtree (TaskTree.group_mem split) with ⟨_, known⟩
      rcases known.last with ⟨_, last⟩
      have traversal := planted.stored.bfTraversal_eq planted.nodup
      rw [← tree.map_id_subtrees, split, List.map_append, List.map_cons] at traversal
      have nodes : heap.getParallelNodes group.id = .ok (some group.group) := by
        rw [known.getParallelNodes_eq, if_pos (Bool.and_eq_true_iff.mp opens).2]
      have ends : group.group.getLast? = some group.last.id := by
        rw [group.group_eq, List.getLast?_concat]
      have conditional :
          (heap.get? group.id).any PipelineTask.isConditional = group.isConditional := by
        rw [known.stored.record_eq, Option.any_some, TaskTree.record_isConditional]
      have closedIds : ∀ task ∈ before.map TaskTree.id, heap.opensGroup task = false :=
        List.forall_mem_map.mpr closed
      constructor
      · intro covered
        have heads := covered.heads group (by simp) (Bool.and_eq_true_iff.mp opens).2
        refine .group traversal closedIds opens nodes ends
          (last.stored.bfTraversal_eq last.nodup) heads.1 (conditional.trans heads.2) ?_ ?_
        · intro task member outside
          rw [← List.map_cons] at member
          rcases List.mem_map.mp member with ⟨other, further, rfl⟩
          exact covered.setAside planted split closed opens walk.subset further outside
        · exact (induction last).mp (covered.below_last planted split closed opens parallel)
      · intro drawn
        cases drawn with
        | plain otherTraversal none =>
            rw [traversal, Option.some_inj] at otherTraversal
            have never := none group.id (by rw [← otherTraversal]; simp)
            rw [opens] at never
            cases never
        | group otherTraversal otherClosed otherOpens otherNodes otherEnds below sink single aside
            rest =>
            rw [traversal, Option.some_inj] at otherTraversal
            rcases first_unique otherTraversal closedIds opens otherClosed otherOpens with
              ⟨rfl, rfl, rfl⟩
            rw [nodes, Except.ok.injEq, Option.some_inj] at otherNodes
            subst otherNodes
            rw [ends, Option.some_inj] at otherEnds
            subst otherEnds
            rw [last.stored.bfTraversal_eq last.nodup, Option.some_inj] at below
            subst below
            refine Heap.Covered.of_later planted split closed opens parallel
              ⟨sink, conditional.symm.trans single⟩ (fun other further outside => ?_)
              ((induction last).mpr rest)
            refine aside other.id ?_ outside
            rw [← List.map_cons]
            exact List.mem_map_of_mem further

end Walks

/-- The graph has a node for every task, an edge for every child outside of the group of
its parent, and nothing else. -/
def DotComplete (heap : Heap) (root : TaskId) (graph : DotState) : Prop :=
  ∃ tasks, heap.bfTraversal root = some tasks ∧ CompleteGraph heap tasks graph

/-- The graph is complete exactly when the walk loses nothing behind a group. -/
theorem dotComplete_iff (pipeline : AcceptedPipeline) {fuel : Nat} {graph : DotState}
    (returned : generateDot pipeline.heap fuel pipeline.root = some (.ok graph)) :
    DotComplete pipeline.heap pipeline.root graph ↔ Drawn pipeline.heap pipeline.root := by
  rcases pipeline.planted with ⟨tree, same, planted⟩
  rw [← same] at returned ⊢
  rw [planted.generateDot_eq] at returned
  rcases treeWalk_of_loop planted returned with ⟨trees, walk⟩
  have meets := walk.meets planted planted.startsAt
  rcases walk.ends planted [] [] with ⟨steps, ended⟩
  have whole : graph = pipeline.heap.graphOf trees := by
    have longer := loop_mono returned (0 + 1 + steps)
    have shorter := loop_mono (ended 0).1 fuel
    rw [Nat.add_comm, shorter, Option.some_inj, Except.ok.injEq] at longer
    exact longer.symm
  have required : pipeline.heap.Required tree = (· ∈ tree.subtrees) := by
    funext sub
    have notSkipped : pipeline.heap.isSkipped tree.id = false := by
      simp [Heap.isSkipped, planted.stored.record_eq]
    simp [Heap.Required, notSkipped]
  rw [← walk.covered_iff planted, required, whole]
  constructor
  · rintro ⟨tasks, traversal, complete⟩
    rw [planted.stored.bfTraversal_eq planted.nodup, Option.some_inj] at traversal
    subst traversal
    exact complete.covered planted meets
  · intro covered
    exact ⟨_, planted.stored.bfTraversal_eq planted.nodup,
      covered.complete planted walk.subset meets⟩

/-- The graph of `S->A||B`. -/
def groupGraph : DotState where
  iterator := []
  nodes := [⟨0, "S", .circle⟩, ⟨1, "\x7bA|B\x7d", .record⟩]
  edges := [⟨0, 1, none⟩]

theorem dotComplete_groupPipeline :
    DotComplete groupPipeline.heap groupPipeline.root groupGraph := by
  refine (dotComplete_iff groupPipeline (show generateDot groupHeap 4 0 = _ from rfl)).mpr ?_
  have reached : ParallelTo groupHeap 1 2 := ⟨_, _, rfl, rfl, rfl, rfl, rfl⟩
  refine @Drawn.group groupHeap 0 [0] 1 [2] [1, 2] 2 [2] (by decide) (by decide) (by decide) rfl
    rfl (by decide) (by decide) (by decide) ?_
    (@Drawn.plain groupHeap 2 [2] (by decide) (by decide))
  intro other member outside
  rcases List.mem_cons.mp member with rfl | member
  · refine ⟨fun child below => ?_, .inl (by decide)⟩
    rw [List.mem_singleton.mp below]
    exact reached
  · rw [List.mem_singleton.mp member] at outside
    exact absurd (by decide) outside

/-- The tasks of `A(0->X||Y,1->Z)`. -/
def lostHeap : Heap := ⟨[
  { event := "X", descriptor := some 0, descriptorPipe := some .pointer, parentNode := some 3,
    onSuccessEvent := some 1, onSuccessPipe := some .parallelism },
  { event := "Y", parentNode := some 0 },
  { event := "Z", descriptor := some 1, descriptorPipe := some .pointer, parentNode := some 3 },
  { event := "A", onSuccessEvent := some 2, onFailureEvent := some 0,
    onSuccessPipe := some .pointer, onFailurePipe := some .pointer }]⟩

def lostPipeline : AcceptedPipeline :=
  ⟨.initial, "A(0->X||Y,1->Z)", 3, lostHeap, rfl⟩

def lostGraph : DotState where
  iterator := []
  nodes := [⟨3, "A", .diamond⟩, ⟨0, "\x7bX|Y\x7d", .record⟩]
  edges := [⟨3, 0, some 0⟩, ⟨3, 2, some 1⟩]

/-- `Z` is lost behind the group of `X` and `Y`. -/
theorem not_dotComplete_lostPipeline :
    generateDot lostPipeline.heap 4 lostPipeline.root = some (.ok lostGraph) ∧
      ¬DotComplete lostPipeline.heap lostPipeline.root lostGraph := by
  refine ⟨rfl, ?_⟩
  rintro ⟨tasks, traversal, complete⟩
  obtain rfl : [3, 0, 1, 2] = tasks := Option.some_inj.mp traversal
  rcases complete.nodes 2 (by decide) with ⟨node, ⟨drawn, chain, maximal, member, head, _⟩, _⟩
  have alone : lostPipeline.heap.isParallelExecutionNode 2 = false := by decide
  have first := head?_of_isChain maximal.linked member
    fun before => (not_parallelTo_of_alone alone before).1
  rw [first, Option.some_inj] at head
  have never : ∀ node ∈ lostGraph.nodes, 2 ≠ node.id := by decide
  exact never node drawn head

end EventPipeline
