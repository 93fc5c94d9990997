import EventPipeline.Execution.ParallelNodes
import EventPipeline.Execution.Unordered
import EventPipeline.Task.PairedGroups
import EventPipeline.Task.ProperTree

/-! # The helpers for parallel chains

A chain of tasks over `||` is walked forwards from its first task, backwards by recursion from any
of its tasks, and in any order to find its last task. The three walks agree on every maximal chain,
if the groups of the script have both branches.
-/

namespace EventPipeline

namespace Heap

/-- `get_parallel_nodes`: the deque ends with what is behind the tasks that lead on over `||`, even
if that is `None`. The result is `none` if the loop does not end. -/
def parallelDeque (heap : Heap) (id : TaskId) : Option (Option (List (Option TaskId))) :=
  if heap.isParallelExecutionNode id then
    (collectParallel heap (heap.size + 1) (some id)).map fun (tasks, last) =>
      some (tasks.map some ++ [last])
  else
    some none

theorem parallelDeque_of_getParallelNodes {heap : Heap} {id : TaskId} {tasks : List TaskId}
    (nodes : heap.getParallelNodes id = .ok (some tasks)) :
    heap.parallelDeque id = some (some (tasks.map some)) := by
  rw [getParallelNodes] at nodes
  rw [parallelDeque]
  split at nodes
  · rename_i parallel
    rw [if_pos parallel]
    rcases collected : collectParallel heap (heap.size + 1) (some id) with _ | ⟨before, last⟩
    · rw [collected] at nodes
      cases nodes
    · rw [collected] at nodes
      cases last with
      | none => cases nodes
      | some last =>
          obtain rfl : before ++ [last] = tasks := Option.some.inj (Except.ok.inj nodes)
          simp
  · cases nodes

def LeadsOn (heap : Heap) (root first second : TaskId) : Prop :=
  Reaches heap root first ∧ ∃ task, heap.get? first = some task ∧
    task.onSuccessEvent = some second ∧ task.onSuccessPipe = some .parallelism

end Heap

/-- Two or more tasks below a root that lead on over `||` from one to the next, as far as
possible. -/
structure TreeChain (heap : Heap) (root : TaskId) where
  first : TaskId
  middle : List TaskId
  last : TaskId
  maximal : MaximalChain (heap.LeadsOn root) (first :: (middle ++ [last]))

def TreeChain.tasks {heap : Heap} {root : TaskId} (chain : TreeChain heap root) : List TaskId :=
  chain.first :: (chain.middle ++ [chain.last])

/-- The helpers agree on a chain: the nodes of the first task are the chain, every task finds the
first one, and in every order of a part at the end the last task is found. -/
structure HelpersAgree {heap : Heap} {root : TaskId} (chain : TreeChain heap root) : Prop where
  nodes : heap.parallelDeque chain.first = some (some (chain.tasks.map some))
  parents : ∀ task ∈ chain.tasks,
    heap.getParallelExecutionParentNode task = some chain.first
  last : ∀ rear, rear <:+ chain.tasks → 2 ≤ rear.length →
    ∀ context : EventExecutionContext, context.taskProfiles.Perm rear →
      context.getLastTaskProfileInChain heap = some chain.last

/-! ## Chains of a tree -/

section Trees

variable {heap : Heap} {root : TaskTree} (planted : Planted heap none root)
include planted

theorem Planted.leadsOn_iff {first second : TaskId} :
    heap.LeadsOn root.id first second ↔ ParallelTo heap first second ∧ first ∈ root.ids := by
  rw [Heap.LeadsOn, planted.stored.reaches_iff]
  constructor
  · rintro ⟨inside, task, found, onward, piped⟩
    refine ⟨?_, inside⟩
    rcases TaskTree.exists_subtree inside with ⟨sub, member, rfl⟩
    rcases planted.subtree member with ⟨above, known⟩
    have record := known.stored.record_eq
    rw [found, Option.some_inj] at record
    rw [record, TaskTree.record_onSuccessEvent] at onward
    cases success : sub.success with
    | vacant =>
        rw [success] at onward
        cases onward
    | child pipe next =>
        have hangs : next ∈ sub.children := by
          rw [TaskTree.mem_children, success]
          exact .inr (.inr (.inl rfl))
        rw [success] at onward
        obtain rfl : next.id = second := Option.some.inj onward
        refine ⟨task, _, found, (known.stored.child hangs).record_eq, ?_, piped,
          next.record_parentNode _⟩
        rw [record, TaskTree.record_onSuccessEvent, success]
        rfl
  · rintro ⟨⟨task, next, found, _, onward, piped, _⟩, inside⟩
    exact ⟨inside, task, found, onward, piped⟩

theorem Planted.mem_of_leadsOn {first second : TaskId}
    (leads : heap.LeadsOn root.id first second) : second ∈ root.ids := by
  rcases leads with ⟨reached, task, found, onward, _⟩
  apply planted.stored.reaches_iff.mp
  exact reached.tail ⟨task, found, by simp [PipelineTask.getChildren, onward]⟩

theorem Planted.mem_of_chain {first : TaskId} {rest : List TaskId}
    (linked : (first :: rest).IsChain (heap.LeadsOn root.id)) (starts : first ∈ root.ids) :
    ∀ task ∈ first :: rest, task ∈ root.ids := by
  induction rest generalizing first with
  | nil =>
      intro task member
      rw [List.mem_singleton.mp member]
      exact starts
  | cons second rest induction =>
      rcases List.isChain_cons_cons.mp linked with ⟨leads, linked⟩
      intro task member
      rcases List.mem_cons.mp member with rfl | member
      · exact starts
      · exact induction linked (planted.mem_of_leadsOn leads) task member

theorem Planted.first_mem (chain : TreeChain heap root.id) : chain.first ∈ root.ids := by
  have several : chain.middle ++ [chain.last] ≠ [] := by simp
  rcases List.exists_cons_of_ne_nil several with ⟨second, rest, split⟩
  have linked := chain.maximal.linked
  rw [split] at linked
  exact (planted.leadsOn_iff.mp (List.isChain_cons_cons.mp linked).1).2

theorem Planted.parallelTo_maximal (chain : TreeChain heap root.id) :
    MaximalChain (ParallelTo heap) chain.tasks := by
  have starts := planted.first_mem chain
  have inside := planted.mem_of_chain chain.maximal.linked starts
  refine ⟨chain.maximal.linked.imp fun _ _ leads => (planted.leadsOn_iff.mp leads).1, ?_, ?_⟩
  · rintro _ ⟨⟩ before reached
    refine chain.maximal.first _ rfl before (planted.leadsOn_iff.mpr ⟨reached, ?_⟩)
    exact planted.mem_ids_of_reflTransGen (.single reached) starts
  · intro last ends next reached
    refine chain.maximal.last last ends next (planted.leadsOn_iff.mpr ⟨reached, ?_⟩)
    exact inside last (List.mem_of_mem_getLast? ends)

/-- A chain of the tree is the group of the subtree of its first task, which is not reached over
`||`. -/
theorem Planted.exists_group (chain : TreeChain heap root.id) :
    ∃ sub ∈ root.subtrees, chain.tasks = sub.group ∧
      ∀ before, ¬ParallelTo heap before sub.id := by
  have maximal := planted.parallelTo_maximal chain
  rcases TaskTree.exists_subtree (planted.first_mem chain) with ⟨sub, member, same⟩
  rcases planted.subtree member with ⟨above, known⟩
  have alone : ∀ before, ¬ParallelTo heap before sub.id := by
    rw [same]
    exact maximal.first chain.first rfl
  have inGroup : chain.first ∈ sub.group := by
    rw [← same]
    exact List.mem_of_mem_head? (Option.mem_def.mpr sub.head?_group)
  refine ⟨sub, member, ?_, alone⟩
  exact maximal.eq_of_mem (parallelTo_rightUnique heap) (parallelTo_leftUnique heap)
    (known.stored.group_maximal alone) List.mem_cons_self inGroup

/-- Above a task that is not reached over `||` nothing leads on over `||`. -/
theorem Planted.above_not_parallel (paired : root.Paired) {sub : TaskTree}
    (member : sub ∈ root.subtrees) (alone : ∀ before, ¬ParallelTo heap before sub.id) :
    ∃ above, Planted heap above sub ∧ ∀ parent ∈ above,
      (heap.get? parent).bind PipelineTask.onSuccessPipe ≠ some .parallelism := by
  rcases TaskTree.subtrees_cases member with rfl | ⟨tree, further, hangs⟩
  · exact ⟨none, planted, fun parent known => absurd known (by simp)⟩
  · rcases planted.subtree further with ⟨_, known⟩
    refine ⟨some tree.id, known.child hangs, ?_⟩
    rintro _ ⟨⟩ parallel
    rw [known.stored.record_eq, Option.bind_some, TaskTree.record_onSuccessPipe] at parallel
    have next := known.eq_success_of_parallel (paired.subtree further) parallel hangs
    refine alone tree.id ⟨_, _, known.stored.record_eq, (known.stored.child hangs).record_eq, ?_,
      ?_, sub.record_parentNode _⟩
    · rw [TaskTree.record_onSuccessEvent, Slot.id?_eq, next]
      rfl
    · rw [TaskTree.record_onSuccessPipe, parallel]

end Trees

/-! ## The last task in any order -/

theorem find?_eq_some_of_only {Item : Type} {test : Item → Bool} {items : List Item} {item : Item}
    (member : item ∈ items) (passes : test item = true)
    (only : ∀ other ∈ items, test other = true → other = item) : items.find? test = some item := by
  cases found : items.find? test with
  | none =>
      rw [List.find?_eq_none] at found
      exact absurd passes (found item member)
  | some other =>
      rw [only other (List.mem_of_find?_eq_some found) (List.find?_some found)]

theorem exists_related_of_isChain {Item : Type} {related : Item → Item → Prop} {front : List Item}
    {last : Item} (linked : (front ++ [last]).IsChain related) {item : Item}
    (member : item ∈ front) : ∃ next, related item next := by
  rcases List.append_of_mem member with ⟨before, after, rfl⟩
  rw [List.append_assoc, List.cons_append] at linked
  have onward := (List.isChain_split.mp linked).2
  have nonempty : after ++ [last] ≠ [] := by simp
  rcases List.exists_cons_of_ne_nil nonempty with ⟨next, rest, split⟩
  rw [split] at onward
  exact ⟨next, (List.isChain_cons_cons.mp onward).1⟩

section Last

variable {heap : Heap} {root : TaskTree} (planted : Planted heap none root)
include planted

omit planted in
theorem TreeChain.leads (chain : TreeChain heap root.id) {task : TaskId}
    (member : task ∈ chain.first :: chain.middle) :
    (heap.get? task).bind PipelineTask.onSuccessPipe = some .parallelism := by
  have linked : ((chain.first :: chain.middle) ++ [chain.last]).IsChain (heap.LeadsOn root.id) :=
    chain.maximal.linked
  rcases exists_related_of_isChain linked member with ⟨next, _, record, found, _, piped⟩
  rw [found]
  exact piped

theorem Planted.last_of_chain (chain : TreeChain heap root.id) :
    heap.getPointerTypeToThisEvent chain.last = some (.pipe .parallelism) ∧
      (heap.get? chain.last).bind PipelineTask.onSuccessPipe ≠ some .parallelism := by
  rcases planted.exists_group chain with ⟨sub, member, whole, _⟩
  rcases planted.subtree member with ⟨above, known⟩
  have split : (chain.first :: chain.middle) ++ [chain.last] =
      sub.group.dropLast ++ [sub.last.id] := whole.trans sub.group_eq
  rcases List.append_inj' split rfl with ⟨front, back⟩
  have same : chain.last = sub.last.id := List.singleton_inj.mp back
  have several : sub.group.dropLast ≠ [] := by
    rw [← front]
    exact List.cons_ne_nil _ _
  rw [same]
  refine ⟨known.stored.pointer_last several, ?_⟩
  rcases known.stored.last with ⟨_, lastStored⟩
  rw [lastStored.record_eq, Option.bind_some, TaskTree.record_onSuccessPipe]
  exact sub.last_success

theorem Planted.getLastTaskProfileInChain_of_chain (chain : TreeChain heap root.id)
    {rear : List TaskId} (ends : rear <:+ chain.tasks) (several : 2 ≤ rear.length)
    {context : EventExecutionContext} (permuted : context.taskProfiles.Perm rear) :
    context.getLastTaskProfileInChain heap = some chain.last := by
  have more : context.taskProfiles.length ≠ 1 := by
    rw [permuted.length_eq]
    omega
  have passes := planted.last_of_chain chain
  have member : chain.last ∈ rear := by
    have nonempty : rear ≠ [] := List.ne_nil_of_length_pos (by omega)
    have same := ends.getLast nonempty
    have whole : chain.tasks.getLast (by simp [TreeChain.tasks]) = chain.last := by
      simp [TreeChain.tasks]
    rw [whole] at same
    exact same ▸ List.getLast_mem nonempty
  rw [getLastTaskProfileInChain_several more]
  apply find?_eq_some_of_only (permuted.mem_iff.mpr member)
  · exact decide_eq_true passes
  · intro other listed test
    have inside := ends.subset (permuted.mem_iff.mp listed)
    rw [TreeChain.tasks, ← List.cons_append] at inside
    rcases List.mem_append.mp inside with front | last
    · exact absurd (chain.leads front) (of_decide_eq_true test).2
    · exact List.mem_singleton.mp last

end Last

/-! ## The three walks -/

/-- Every maximal chain over `||` is found forwards, backwards and in any order. -/
theorem helpersAgree (pipeline : PairedPipeline)
    (chain : TreeChain pipeline.heap pipeline.root) : HelpersAgree chain := by
  rcases pipeline.planted with ⟨root, same, planted, paired⟩
  revert chain
  rw [← same]
  intro chain
  rcases planted.exists_group chain with ⟨sub, member, whole, alone⟩
  rcases planted.above_not_parallel paired member alone with ⟨above, known, top⟩
  have enough := known.group_length_le
  have starts : chain.first = sub.id := by
    have heads := congrArg List.head? whole
    rw [sub.head?_group] at heads
    exact Option.some.inj heads
  have parallel : pipeline.heap.isParallelExecutionNode sub.id = true := by
    rw [← starts, Heap.isParallelExecutionNode, chain.leads List.mem_cons_self]
    simp
  refine ⟨?_, ?_, ?_⟩
  · apply Heap.parallelDeque_of_getParallelNodes
    rw [starts, known.stored.getParallelNodes_eq enough, if_pos parallel, whole]
  · intro task listed
    rw [whole] at listed
    rw [starts]
    exact known.stored.getParallelExecutionParentNode_eq enough listed parallel top
  · intro rear ends several context permuted
    exact planted.getLastTaskProfileInChain_of_chain chain ends several permuted

def branchedHeap : Heap := ⟨[
  { event := "A", descriptor := some 0, descriptorPipe := some .pointer, parentNode := some 3,
    onSuccessEvent := some 1, onSuccessPipe := some .parallelism },
  { event := "B", parentNode := some 0 },
  { event := "C", descriptor := some 1, descriptorPipe := some .pointer, parentNode := some 3 },
  { event := "S", onSuccessEvent := some 2, onFailureEvent := some 0,
    onSuccessPipe := some .pointer, onFailurePipe := some .pointer }]⟩

def branchedPipeline : PairedPipeline where
  lexer := .initial
  code := "S(0->A||B,1->C)"
  root := 3
  heap := branchedHeap
  accepted := rfl
  ast := .conditionalBinOP (.taskName "S") [
    (0, .binOp .parallel (.binOp .pointer (.descriptor 0) (.taskName "A")) (.taskName "B")),
    (1, .binOp .pointer (.descriptor 1) (.taskName "C"))]
  parsed := rfl
  paired := ⟨trivial, rfl, rfl, ⟨⟨trivial, trivial⟩, trivial⟩, ⟨trivial, trivial⟩, trivial⟩

def branchedChain : TreeChain branchedPipeline.heap branchedPipeline.root where
  first := 0
  middle := []
  last := 1
  maximal := by
    have starts : Reaches branchedHeap 3 0 :=
      .single ⟨_, rfl, List.mem_cons_self⟩
    refine ⟨List.isChain_cons_cons.mpr ⟨⟨starts, _, rfl, rfl, rfl⟩, List.isChain_singleton _⟩,
      ?_, ?_⟩
    · rintro _ ⟨⟩ before ⟨_, record, found, onward, _⟩
      have none : ∀ cell ∈ branchedHeap.cells, cell.onSuccessEvent ≠ some 0 := by decide
      exact none record (List.mem_of_getElem? found) onward
    · rintro _ ⟨⟩ next ⟨_, record, found, onward, _⟩
      cases found
      cases onward

/-- The deque of `A` has both tasks, and `B` finds `A`. -/
theorem helpersAgree_branched :
    branchedHeap.parallelDeque 0 = some (some [some 0, some 1]) ∧
      branchedHeap.getParallelExecutionParentNode 1 = some 0 :=
  ⟨(helpersAgree branchedPipeline branchedChain).nodes,
    (helpersAgree branchedPipeline branchedChain).parents 1 (by decide)⟩

end EventPipeline
