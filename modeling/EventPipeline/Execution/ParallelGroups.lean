import EventPipeline.Execution.Sinks

/-! # Parallel groups

In a quiet run the tasks of a maximal `||` chain are dispatched in one context,
unless the chain starts at the root: the root is dispatched alone.
-/

namespace EventPipeline

/-- Tasks that lead on over `||` from one to the next, as far as possible. -/
structure ParallelChain (heap : Heap) (chain : List TaskId) : Prop where
  maximal : MaximalChain (ParallelTo heap) chain
  several : 2 ≤ chain.length

theorem parallelTo_rightUnique (heap : Heap) : Relator.RightUnique (ParallelTo heap) := by
  rintro first second other ⟨task, _, found, _, next, _⟩ ⟨same, _, otherFound, _, otherNext, _⟩
  rw [found, Option.some_inj] at otherFound
  rw [← otherFound, next, Option.some_inj] at otherNext
  exact otherNext

theorem parallelTo_leftUnique (heap : Heap) : Relator.LeftUnique (ParallelTo heap) := by
  rintro first other second ⟨_, next, _, found, _, _, link⟩
    ⟨_, same, _, otherFound, _, _, otherLink⟩
  rw [found, Option.some_inj] at otherFound
  rw [← otherFound, link, Option.some_inj] at otherLink
  exact otherLink

section Groups

variable {heap : Heap} {tree : TaskTree} {parent : Option TaskId}

theorem TaskTree.Stored.group_ends (stored : tree.Stored heap parent) :
    Ends (ParallelTo heap) tree.group := by
  rintro last member next ⟨task, _, found, _, _, pipe, _⟩
  rw [tree.group_eq, List.getLast?_concat] at member
  cases member
  rcases stored.last with ⟨above, lastStored⟩
  rw [lastStored.record_eq, Option.some_inj] at found
  rw [← found, TaskTree.record_onSuccessPipe] at pipe
  exact tree.last_success pipe

theorem TaskTree.head?_group (tree : TaskTree) : tree.group.head? = some tree.id := by
  cases tree
  rfl

theorem TaskTree.Stored.not_parallelTo_root (stored : tree.Stored heap none) (before : TaskId) :
    ¬ParallelTo heap before tree.id := by
  rintro ⟨_, next, _, found, _, _, link⟩
  rw [stored.record_eq, Option.some_inj] at found
  rw [← found, TaskTree.record_parentNode] at link
  cases link

theorem TaskTree.Stored.group_maximal (stored : tree.Stored heap parent)
    (first : ∀ before, ¬ParallelTo heap before tree.id) :
    MaximalChain (ParallelTo heap) tree.group := by
  refine ⟨stored.group_isChain, fun head member => ?_, stored.group_ends⟩
  rw [tree.head?_group] at member
  cases member
  exact first

theorem TaskTree.Stored.root_group_maximal {root : TaskTree} (rootStored : root.Stored heap none)
    (stored : tree.Stored heap parent) (reached : ParallelTo heap root.id tree.id) :
    MaximalChain (ParallelTo heap) (root.id :: tree.group) := by
  refine ⟨List.isChain_cons.mpr ⟨?_, stored.group_isChain⟩, ?_, ?_⟩
  · intro second member
    rw [tree.head?_group] at member
    cases member
    exact reached
  · rintro head ⟨⟩
    exact rootStored.not_parallelTo_root
  · intro last member
    apply stored.group_ends last
    rcases tree
    simpa [TaskTree.group] using member

end Groups

theorem perm_of_forall₂ {groups expected : List (List TaskId)}
    (same : List.Forall₂ List.Perm groups expected) {id : Nat} {group other : List TaskId}
    (found : groups[id]? = some group) (otherFound : expected[id]? = some other) :
    group.Perm other := by
  induction same generalizing id with
  | nil => cases found
  | cons perm _ induction =>
      cases id with
      | zero =>
          cases found
          cases otherFound
          exact perm
      | succ id => exact induction found otherFound

/-- The tasks of the context of a dispatched task are the members of the tree that the
run enters there. -/
theorem FollowsTrace.perm_members {pipeline : AcceptedPipeline} {env : Environment}
    {final : RunState} {root tree : TaskTree} {previous : Option ContextId}
    {before after : List (List TaskId)} {context : EventExecutionContext}
    (follows : FollowsTrace pipeline env final root)
    (entry : Entry (final.failed env pipeline.heap) root tree previous before after)
    (found : final.contexts.get? before.length = some context) :
    context.taskProfiles.Perm (tree.members previous) := by
  refine @perm_of_forall₂ _ _ follows.groups before.length _ _ ?_ ?_
  · simp only [RunState.groups, List.getElem?_map]
    rw [show final.contexts.cells[before.length]? = some context from found]
    rfl
  · rw [entry.split]
    simp [TaskTree.entered_eq]

/-- In a quiet run the context of a task of a maximal `||` chain has exactly the tasks of
that chain, unless the chain starts at the root of the script. -/
theorem perm_chain_iff {pipeline : AcceptedPipeline} {env : Environment} {final : RunState}
    {signals : List Signal} (runs : Runs pipeline env final signals) (quiet : Quiet env final)
    {chain : List TaskId} (parallel : ParallelChain pipeline.heap chain) {id : ContextId}
    {context : EventExecutionContext} {task : TaskId}
    (found : final.contexts.get? id = some context) (among : task ∈ context.taskProfiles)
    (member : task ∈ chain) :
    context.taskProfiles.Perm chain ↔ chain.head? ≠ some pipeline.root := by
  rcases runs.followsTrace quiet with ⟨root, follows⟩
  rcases follows.exists_entry ⟨context, found, among⟩ with
    ⟨tree, previous, before, after, entry, inside, rfl⟩
  have perm := follows.perm_members entry found
  have rightUnique := parallelTo_rightUnique pipeline.heap
  have leftUnique := parallelTo_leftUnique pipeline.heap
  rw [← follows.id]
  rcases entry.way follows.rooted with ⟨rfl, rfl, _⟩ | ⟨behind, _, parent, stored, _, onlyRoot⟩
  · -- the root is dispatched alone
    obtain rfl : task = tree.id := List.mem_singleton.mp inside
    have first := head?_of_isChain parallel.maximal.linked member
      follows.stored.not_parallelTo_root
    refine iff_of_false (fun whole => ?_) (not_not_intro first)
    have length := (whole.symm.trans perm).length_eq
    have several := parallel.several
    simp only [TaskTree.members, List.length_singleton] at length
    omega
  · have outside := entry.root_id_not_mem follows.rooted follows.nodup behind
    rcases Option.ne_none_iff_exists'.mp behind with ⟨last, rfl⟩
    by_cases reached : ParallelTo pipeline.heap parent tree.id
    · -- the chain starts at the root, and its other tasks follow in the next context
      obtain rfl := onlyRoot reached
      have same := parallel.maximal.eq_of_mem rightUnique leftUnique
        (follows.stored.root_group_maximal stored reached) member
        (List.mem_cons_of_mem _ inside)
      subst same
      refine iff_of_false (fun whole => ?_) (not_not_intro rfl)
      have length := (whole.symm.trans perm).length_eq
      simp only [TaskTree.members, List.length_cons] at length
      omega
    · have maximal := stored.group_maximal fun first parallel => by
        obtain rfl := parallel.eq_parent stored
        exact reached parallel
      have same := parallel.maximal.eq_of_mem rightUnique leftUnique maximal member inside
      subst same
      apply iff_of_true perm
      rw [tree.head?_group, ne_eq, Option.some_inj]
      exact fun first => outside (first ▸ tree.id_mem_ids)

def groupHeap : Heap := ⟨[
  { event := "S", onSuccessEvent := some 1, onSuccessPipe := some .pointer },
  { event := "A", parentNode := some 0, onSuccessEvent := some 2,
    onSuccessPipe := some .parallelism },
  { event := "B", parentNode := some 1 }]⟩

def groupPipeline : AcceptedPipeline :=
  ⟨.initial, "S->A||B", 0, groupHeap, rfl⟩

theorem groupHeap_parallelChain : ParallelChain groupHeap [1, 2] := by
  refine ⟨⟨?_, ?_, ?_⟩, by decide⟩
  · refine List.isChain_cons_cons.mpr ⟨⟨_, _, rfl, rfl, rfl, rfl, rfl⟩, List.isChain_singleton _⟩
  · rintro _ ⟨⟩ before ⟨task, next, found, nextFound, _, pipe, link⟩
    cases nextFound
    cases link
    cases found
    cases pipe
  · rintro _ ⟨⟩ next ⟨task, _, found, _, onward, _⟩
    cases found
    cases onward

theorem perm_chain_groupPipeline :
    ∃ signals context,
      Runs groupPipeline allSucceed (groupPipeline.final allSucceed) signals ∧
      Quiet allSucceed (groupPipeline.final allSucceed) ∧
      ParallelChain groupHeap [1, 2] ∧
      (groupPipeline.final allSucceed).contexts.get? 1 = some context ∧
      2 ∈ context.taskProfiles ∧ context.taskProfiles.Perm [1, 2] := by
  rcases @AcceptedPipeline.runs_of_start groupPipeline allSucceed _ rfl with ⟨signals, runs⟩
  have quiet : Quiet allSucceed (groupPipeline.final allSucceed) :=
    quiet_of_all (fun _ => Outcome.asksToSwitch_ofTask _ _) rfl
  refine ⟨signals, _, runs, quiet, groupHeap_parallelChain, rfl, by decide, ?_⟩
  exact (@perm_chain_iff groupPipeline _ _ _ runs quiet _ groupHeap_parallelChain 1 _ 2 rfl
    (by decide) (by decide)).mpr (by decide)

def rootGroupHeap : Heap := ⟨[
  { event := "A", onSuccessEvent := some 1, onSuccessPipe := some .parallelism },
  { event := "B", parentNode := some 0 }]⟩

def rootGroupPipeline : AcceptedPipeline :=
  ⟨.initial, "A||B", 0, rootGroupHeap, rfl⟩

/-- `A` and `B` are dispatched one after the other. -/
theorem not_perm_chain_root :
    ∃ signals context,
      Runs rootGroupPipeline allSucceed (rootGroupPipeline.final allSucceed) signals ∧
      Quiet allSucceed (rootGroupPipeline.final allSucceed) ∧
      ParallelChain rootGroupHeap [0, 1] ∧
      (rootGroupPipeline.final allSucceed).contexts.get? 0 = some context ∧
      0 ∈ context.taskProfiles ∧ ¬context.taskProfiles.Perm [0, 1] := by
  rcases @AcceptedPipeline.runs_of_start rootGroupPipeline allSucceed _ rfl with
    ⟨signals, runs⟩
  refine ⟨signals, _, runs, quiet_of_all (fun _ => Outcome.asksToSwitch_ofTask _ _) rfl,
    ⟨⟨?_, ?_, ?_⟩, by decide⟩, rfl,
    by decide, by decide⟩
  · refine List.isChain_cons_cons.mpr ⟨⟨_, _, rfl, rfl, rfl, rfl, rfl⟩, List.isChain_singleton _⟩
  · rintro _ ⟨⟩ before ⟨_, next, _, found, _, _, link⟩
    cases found
    cases link
  · rintro _ ⟨⟩ next ⟨task, _, found, _, onward, _⟩
    cases found
    cases onward

end EventPipeline
