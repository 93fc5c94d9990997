import EventPipeline.Execution.Origin
import EventPipeline.Execution.ParallelNodes

/-! # What `|->` hands over

The argument `previous_result` that the event of a task is constructed with. It is
the result of the context that the context of the task is linked behind, when the
task, or the parallel group that it belongs to, is reached over `|->`.
-/

namespace EventPipeline

open Procedure

/-- The argument `previous_result`: it is not passed, it is `EMPTY`, or it is the object
`execution_result` of a context. -/
inductive PreviousResult
  | absent
  | empty
  | results (context : ContextId)
deriving DecidableEq, Repr

/-- The pointer that decides whether results are handed to a task: the one to the first
task of its parallel group, or the one to the task itself. -/
def Heap.inputPointer (heap : Heap) (task : TaskId) : Option PointerType :=
  if heap.isParallelExecutionNode task then
    (heap.getParallelExecutionParentNode task).bind heap.getPointerTypeToThisEvent
  else
    heap.getPointerTypeToThisEvent task

/-- The part of `_get_executor_context_and_event` that sets `previous_result`. -/
def EventExecutionContext.previousResult (heap : Heap) (context : EventExecutionContext)
    (task : TaskId) : PreviousResult :=
  if heap.inputPointer task = some (.pipe .pipePointer) then
    match context.previousContext with
    | some previous => .results previous
    | none => .empty
  else
    .absent

/-! ## Pointers to groups -/

section Pointers

variable {heap : Heap}

theorem TaskTree.Stored.inputPointer_eq {tree : TaskTree} {above : Option TaskId}
    (stored : tree.Stored heap above) (enough : tree.group.length ≤ heap.size + 1)
    {task : TaskId} (member : task ∈ tree.group)
    (top : ∀ parent ∈ above,
      (heap.get? parent).bind PipelineTask.onSuccessPipe ≠ some .parallelism) :
    heap.inputPointer task = heap.getPointerTypeToThisEvent tree.id := by
  unfold Heap.inputPointer
  by_cases same : task = tree.id
  · subst same
    split
    · rw [stored.getParallelExecutionParentNode_eq enough member ‹_› top, Option.bind_some]
    · rfl
  · rcases stored.isParallel_of_mem member same with ⟨parallel, first⟩
    rw [if_pos parallel, stored.getParallelExecutionParentNode_eq enough member first top,
      Option.bind_some]

/-- The climb from a group below a root that leads on over `||` ends at the root, to
which no pointer leads. -/
theorem TaskTree.Stored.inputPointer_below {root tree : TaskTree}
    (rootStored : root.Stored heap none) (stored : tree.Stored heap (some root.id))
    (enough : tree.group.length ≤ heap.size + 1)
    (parallel : root.success.pipe? = some .parallelism) {task : TaskId}
    (member : task ∈ tree.group) :
    heap.inputPointer task = heap.getPointerTypeToThisEvent tree.id ∨
      heap.inputPointer task = none := by
  unfold Heap.inputPointer
  by_cases among : heap.isParallelExecutionNode task = true
  · right
    rw [if_pos among]
    have first : heap.isParallelExecutionNode tree.id = true := by
      by_cases same : task = tree.id
      · exact same ▸ among
      · exact (stored.isParallel_of_mem member same).2
    have piped : (heap.get? root.id).bind PipelineTask.onSuccessPipe = some .parallelism := by
      rw [rootStored.record_eq, Option.bind_some, TaskTree.record_onSuccessPipe, parallel]
    have top : heap.isParallelExecutionNode root.id = true := by
      simp [Heap.isParallelExecutionNode, piped]
    have unpointed : heap.getPointerTypeToThisEvent root.id = none := by
      simp [Heap.getPointerTypeToThisEvent, rootStored.record_eq]
    rcases stored.climbs_group member with ⟨steps, bound, climbs⟩
    rcases Nat.exists_eq_add_of_lt (Nat.lt_of_lt_of_le bound enough) with ⟨spare, total⟩
    rw [Heap.getParallelExecutionParentNode, total,
      show steps + spare + 1 = spare + 1 + steps by omega, climbs,
      Heap.getParallelExecutionParentNodeFrom, if_pos first]
    simp only [stored.record_eq, Option.bind_some, TaskTree.record_parentNode]
    rw [if_pos piped]
    cases spare with
    | zero => rfl
    | succ spare =>
        rw [Heap.climb_stop top, Option.bind_some, unpointed]
        intro parent linked
        simp [rootStored.record_eq] at linked
  · left
    rw [if_neg among]
    by_cases same : task = tree.id
    · rw [same]
    · exact absurd (stored.isParallel_of_mem member same).1 among

/-- The pointer to a group is the pipe of the edge that leads to its first task, or it is
missed because the root leads on over `||`. -/
theorem Planted.inputPointer_cases {above : Option TaskId} {tree kid : TaskTree}
    (planted : Planted heap above tree) {position : Position} {pipe : PipeType}
    (edge : (position, pipe, kid) ∈ tree.edges) {task : TaskId} (member : task ∈ kid.group)
    (onlyRoot : tree.success.pipe? = some .parallelism → above = none) :
    heap.inputPointer task = some (.pipe pipe) ∨
      tree.success.pipe? = some .parallelism ∧ heap.inputPointer task = none := by
  have below := planted.child (TaskTree.mem_children_of_edge edge)
  have pointer := planted.stored.pointer_of_edge planted.nodup planted.scripted edge
  by_cases parallel : tree.success.pipe? = some .parallelism
  · obtain rfl := onlyRoot parallel
    rcases TaskTree.Stored.inputPointer_below planted.stored below.stored below.group_length_le
      parallel member with found | nothing
    · exact .inl (found.trans pointer)
    · exact .inr ⟨parallel, nothing⟩
  · refine .inl ((below.stored.inputPointer_eq below.group_length_le member ?_).trans pointer)
    rintro parent ⟨⟩
    rw [planted.stored.record_eq, Option.bind_some, TaskTree.record_onSuccessPipe]
    exact parallel

end Pointers

end EventPipeline
