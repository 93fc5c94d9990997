import EventPipeline.Task.Builder
import EventPipeline.Task.TaskTree

/-! # Chains of task trees

An operator chain is built from left to right: each item is hung below the task
built last. The result is the first item with the others nested below it, and
hanging one more item at the end changes two records only.
-/

namespace EventPipeline

open EventPipeline.Parser

def Slot.isVacant : Slot → Bool
  | .vacant => true
  | .child _ _ => false

def TaskTree.isConditional : TaskTree → Bool
  | .node _ _ failure _ success customs =>
      !customs.heads.isEmpty || (!success.isVacant && !failure.isVacant)

theorem TaskTree.record_isConditional (parent : Option TaskId) : ∀ tree : TaskTree,
    (tree.record parent).isConditional = tree.isConditional
  | .node id label failure sink success customs => by
      cases customs <;> cases failure <;> cases success <;> rfl

/-- Hang a tree below the root of another: as its sink when it is conditional,
else as what follows on success. -/
def TaskTree.attach (tree : TaskTree) (pipe : PipeType) (next : TaskTree) : TaskTree :=
  match tree with
  | .node id label failure sink success customs =>
      if tree.isConditional then
        .node id label failure (.child pipe next) success customs
      else
        .node id label failure sink (.child pipe next) customs

/-- The items of a chain nested below each other. -/
def close : TaskTree → List (PipeType × TaskTree) → TaskTree
  | tree, [] => tree
  | tree, (pipe, next) :: rest => tree.attach pipe (close next rest)

/-- The last item of a chain. -/
def lastOf : TaskTree → List (PipeType × TaskTree) → TaskTree
  | tree, [] => tree
  | _, (_, next) :: rest => lastOf next rest

def spineIds (first : TaskTree) (rest : List (PipeType × TaskTree)) : List TaskId :=
  first.ids ++ rest.flatMap fun entry => entry.2.ids

@[simp] theorem TaskTree.attach_id (tree : TaskTree) (pipe : PipeType) (next : TaskTree) :
    (tree.attach pipe next).id = tree.id := by
  cases tree
  simp only [TaskTree.attach]
  split <;> rfl

@[simp] theorem TaskTree.attach_label (tree : TaskTree) (pipe : PipeType)
    (next : TaskTree) : (tree.attach pipe next).label = tree.label := by
  cases tree
  simp only [TaskTree.attach]
  split <;> rfl

@[simp] theorem close_id (first : TaskTree) (rest : List (PipeType × TaskTree)) :
    (close first rest).id = first.id := by
  cases rest <;> simp [close]

@[simp] theorem close_label (first : TaskTree) (rest : List (PipeType × TaskTree)) :
    (close first rest).label = first.label := by
  cases rest <;> simp [close]

/-- What hanging a tree below a task keeps holds of the items of a chain nested below each other. -/
theorem close_induction {Ready Holds : TaskTree → Prop}
    (alone : ∀ {tree}, Ready tree → Holds tree)
    (attach : ∀ {tree next} (pipe : PipeType), Ready tree → Holds next →
      Holds (tree.attach pipe next))
    {first : TaskTree} {rest : List (PipeType × TaskTree)} (firstReady : Ready first)
    (restReady : ∀ entry ∈ rest, Ready entry.2) : Holds (close first rest) := by
  induction rest generalizing first with
  | nil => exact alone firstReady
  | cons entry rest induction =>
      rcases entry with ⟨pipe, next⟩
      refine attach pipe firstReady (induction ?_ ?_)
      · exact restReady _ List.mem_cons_self
      · exact fun entry member => restReady entry (List.mem_cons_of_mem _ member)

theorem TaskTree.record_attach_congr {parent : Option TaskId} {tree next other : TaskTree}
    {pipe : PipeType} (same : next.id = other.id) :
    (tree.attach pipe next).record parent = (tree.attach pipe other).record parent := by
  cases tree
  simp only [TaskTree.attach]
  split <;> simp [TaskTree.record, Slot.id?, Slot.pipe?, same]

theorem TaskTree.count_attach_le (id : TaskId) (tree : TaskTree) (pipe : PipeType)
    (next : TaskTree) :
    (tree.attach pipe next).ids.count id ≤ (tree.ids ++ next.ids).count id := by
  rcases tree with ⟨root, label, failure, sink, success, customs⟩
  simp only [TaskTree.attach]
  split <;>
    simp only [TaskTree.ids, Slot.ids, List.count_append, List.count_cons] <;> omega

theorem count_close_le (id : TaskId) (first : TaskTree) (rest : List (PipeType × TaskTree)) :
    (close first rest).ids.count id ≤ (spineIds first rest).count id := by
  induction rest generalizing first with
  | nil => simp [close, spineIds]
  | cons entry rest induction =>
      have attached := first.count_attach_le id entry.1 (close entry.2 rest)
      have closed := induction entry.2
      simp only [close, spineIds, List.flatMap_cons, List.count_append] at attached closed ⊢
      omega

theorem close_nodup {first : TaskTree} {rest : List (PipeType × TaskTree)}
    (nodup : (spineIds first rest).Nodup) : (close first rest).ids.Nodup := by
  rw [List.nodup_iff_count_le_one] at nodup ⊢
  exact fun id => (count_close_le id first rest).trans (nodup id)

theorem mem_spineIds_of_mem_close {first : TaskTree} {rest : List (PipeType × TaskTree)}
    {id : TaskId} (member : id ∈ (close first rest).ids) : id ∈ spineIds first rest := by
  have counted := count_close_le id first rest
  rw [← List.count_pos_iff] at member ⊢
  omega

theorem lastOf_id_mem_close (first : TaskTree) (rest : List (PipeType × TaskTree)) :
    (lastOf first rest).id ∈ (close first rest).ids := by
  induction rest generalizing first with
  | nil => exact first.id_mem_ids
  | cons entry rest induction =>
      have below := induction entry.2
      rcases first with ⟨root, label, failure, sink, success, customs⟩
      simp only [lastOf, close, TaskTree.attach]
      split <;> simp [TaskTree.ids, Slot.ids, below]

/-! ## Children under descriptors of their own -/

def Customs.append : Customs → Customs → Customs
  | .nil, right => right
  | .cons descriptor pipe tree rest, right =>
      .cons descriptor pipe tree (rest.append right)

@[simp] theorem Customs.append_nil : ∀ customs : Customs, customs.append .nil = customs
  | .nil => rfl
  | .cons _ _ _ rest => by rw [Customs.append, rest.append_nil]

theorem Customs.append_assoc : ∀ left middle right : Customs,
    (left.append middle).append right = left.append (middle.append right)
  | .nil, _, _ => rfl
  | .cons _ _ _ rest, middle, right => by
      simp only [Customs.append, rest.append_assoc middle right]

theorem Customs.configs_append : ∀ left right : Customs,
    (left.append right).configs = left.configs ++ right.configs
  | .nil, _ => rfl
  | .cons _ _ _ rest, right => by
      simp only [Customs.append, Customs.configs, rest.configs_append right, List.cons_append]

theorem Customs.ids_append : ∀ left right : Customs,
    (left.append right).ids = left.ids ++ right.ids
  | .nil, _ => rfl
  | .cons _ _ tree rest, right => by
      simp only [Customs.append, Customs.ids, rest.ids_append right, List.append_assoc]

theorem Customs.stored_append {heap : Heap} {parent : TaskId} : ∀ left right : Customs,
    (left.append right).Stored heap parent ↔
      left.Stored heap parent ∧ right.Stored heap parent
  | .nil, _ => by simp [Customs.append, Customs.Stored]
  | .cons _ _ tree rest, right => by
      simp only [Customs.append, Customs.Stored, rest.stored_append right]
      tauto

/-! ## Assignments to one record -/

theorem TaskTree.Stored.children_frame {heap later : Heap} {parent : Option TaskId}
    {id : TaskId} {label : Label} {failure sink success : Slot} {customs : Customs}
    (stored : (TaskTree.node id label failure sink success customs).Stored heap parent)
    (nodup : (TaskTree.node id label failure sink success customs).ids.Nodup)
    (same : ∀ task ∈ (TaskTree.node id label failure sink success customs).ids,
      task ≠ id → later.get? task = heap.get? task) :
    failure.Stored later id ∧ sink.Stored later id ∧ success.Stored later id ∧
      customs.Stored later id := by
  rcases stored with ⟨_, failureStored, sinkStored, successStored, customsStored⟩
  simp only [TaskTree.ids, List.nodup_cons, List.mem_append, not_or] at nodup
  rcases nodup.1 with ⟨notFailure, notSink, notSuccess, notCustom⟩
  have outside {ids : List TaskId} (absent : id ∉ ids)
      (inside : ∀ task ∈ ids, task ∈
        (TaskTree.node id label failure sink success customs).ids) :
      ∀ task ∈ ids, later.get? task = heap.get? task := fun task member =>
    same task (inside task member) fun equal => absent (equal ▸ member)
  refine ⟨failureStored.frame (outside notFailure ?_), sinkStored.frame (outside notSink ?_),
    successStored.frame (outside notSuccess ?_),
    customsStored.frame (outside notCustom ?_)⟩ <;>
  · intro task member
    simp [TaskTree.ids, member]

/-- Assigning to the root of a tree changes what the root records of itself and
of its parent. -/
theorem TaskTree.Stored.modify_root {heap : Heap} {parent other : Option TaskId}
    {id : TaskId} {label changed : Label} {failure sink success : Slot} {customs : Customs}
    {update : PipelineTask → PipelineTask}
    (stored : (TaskTree.node id label failure sink success customs).Stored heap parent)
    (nodup : (TaskTree.node id label failure sink success customs).ids.Nodup)
    (updated : update ((TaskTree.node id label failure sink success customs).record parent) =
      (TaskTree.node id changed failure sink success customs).record other) :
    (TaskTree.node id changed failure sink success customs).Stored
      (heap.modify id update) other := by
  refine ⟨?_, stored.children_frame nodup fun task _ different =>
    heap.get?_modify_of_ne update different⟩
  rw [Arena.get?_modify_self, stored.1, Option.map_some, updated]

/-- The children that stay when something is attached. -/
def TaskTree.KeptStored (heap : Heap) : TaskTree → Prop
  | .node id label failure sink success customs =>
      failure.Stored heap id ∧ customs.Stored heap id ∧
        if (TaskTree.node id label failure sink success customs).isConditional then
          success.Stored heap id
        else
          sink.Stored heap id

theorem TaskTree.stored_attach_iff {heap : Heap} {parent : Option TaskId}
    (tree : TaskTree) (pipe : PipeType) (next : TaskTree) :
    (tree.attach pipe next).Stored heap parent ↔
      heap.get? tree.id = some ((tree.attach pipe next).record parent) ∧
        tree.KeptStored heap ∧ next.Stored heap (some tree.id) := by
  rcases tree with ⟨id, label, failure, sink, success, customs⟩
  simp only [TaskTree.attach, TaskTree.KeptStored, TaskTree.id]
  split <;> simp only [TaskTree.Stored, Slot.Stored] <;> tauto

theorem TaskTree.Stored.kept {heap : Heap} {parent : Option TaskId} {tree : TaskTree}
    (stored : tree.Stored heap parent) : tree.KeptStored heap := by
  rcases tree with ⟨id, label, failure, sink, success, customs⟩
  refine ⟨stored.2.1, stored.2.2.2.2, ?_⟩
  split
  · exact stored.2.2.2.1
  · exact stored.2.2.1

theorem TaskTree.KeptStored.frame {heap later : Heap} {tree : TaskTree}
    (kept : tree.KeptStored heap) (nodup : tree.ids.Nodup)
    (same : ∀ id ∈ tree.ids, id ≠ tree.id → later.get? id = heap.get? id) :
    tree.KeptStored later := by
  rcases tree with ⟨root, label, failure, sink, success, customs⟩
  simp only [TaskTree.ids, List.nodup_cons, List.mem_append, not_or, TaskTree.id,
    List.mem_cons] at nodup same
  rcases nodup.1 with ⟨notFailure, notSink, notSuccess, notCustom⟩
  have slots {ids : List TaskId} (absent : root ∉ ids)
      (inside : ∀ id ∈ ids, id = root ∨ id ∈ failure.ids ∨ id ∈ sink.ids ∨
        id ∈ success.ids ∨ id ∈ customs.ids) :
      ∀ id ∈ ids, later.get? id = heap.get? id := fun id member =>
    same id (inside id member) fun equal => absent (equal ▸ member)
  refine ⟨kept.1.frame (slots notFailure (by tauto)),
    kept.2.1.frame (slots notCustom (by tauto)), ?_⟩
  have third := kept.2.2
  split
  · rename_i conditional
    rw [if_pos conditional] at third
    exact third.frame (slots notSuccess (by tauto))
  · rename_i conditional
    rw [if_neg conditional] at third
    exact third.frame (slots notSink (by tauto))

/-! ## One more item -/

theorem get?_link_of_ne {heap : Heap} {pipe : PipeType} {left right id : TaskId}
    (notLeft : id ≠ left) (notRight : id ≠ right) :
    (link heap pipe left right).get? id = heap.get? id := by
  rw [link, Arena.get?_modify_of_ne _ _ notRight, Arena.get?_modify_of_ne _ _ notLeft]

theorem stored_link_right {heap : Heap} {next : TaskTree} {left : TaskId} {pipe : PipeType}
    (stored : next.Stored heap none) (nodup : next.ids.Nodup) (outside : left ∉ next.ids) :
    next.Stored (link heap pipe left next.id) (some left) := by
  rcases next with ⟨id, label, failure, sink, success, customs⟩
  refine TaskTree.Stored.modify_root (stored.frame fun task member => ?_) nodup rfl
  exact heap.get?_modify_of_ne _ fun equal => outside (equal ▸ member)

theorem stored_link {heap : Heap} {parent : Option TaskId} {tree next : TaskTree}
    {pipe : PipeType} (stored : tree.Stored heap parent) (nextStored : next.Stored heap none)
    (nodup : (tree.ids ++ next.ids).Nodup) :
    (tree.attach pipe next).Stored (link heap pipe tree.id next.id) parent := by
  rw [List.nodup_append] at nodup
  rcases nodup with ⟨treeNodup, nextNodup, disjoint⟩
  have different : tree.id ≠ next.id :=
    disjoint _ tree.id_mem_ids _ next.id_mem_ids
  rw [TaskTree.stored_attach_iff]
  refine ⟨?_, stored.kept.frame treeNodup ?_, stored_link_right nextStored nextNodup ?_⟩
  · rw [link, Arena.get?_modify_of_ne _ _ different, Arena.get?_modify_self,
      stored.record_eq, Option.map_some, tree.record_isConditional]
    rcases tree with ⟨id, label, failure, sink, success, customs⟩
    simp only [TaskTree.attach]
    split <;> rfl
  · intro id member notRoot
    exact get?_link_of_ne notRoot (disjoint id member _ next.id_mem_ids)
  · exact fun member => disjoint _ tree.id_mem_ids _ member rfl

/-- `link` at the last item of a chain adds one item to the chain. -/
theorem stored_link_close {heap : Heap} {parent : Option TaskId} {first next : TaskTree}
    {rest : List (PipeType × TaskTree)} {pipe : PipeType}
    (stored : (close first rest).Stored heap parent) (nextStored : next.Stored heap none)
    (nodup : (spineIds first rest ++ next.ids).Nodup) :
    (close first (rest ++ [(pipe, next)])).Stored
      (link heap pipe (lastOf first rest).id next.id) parent := by
  induction rest generalizing first parent with
  | nil =>
      simp only [spineIds, List.flatMap_nil, List.append_nil] at nodup
      exact stored_link stored nextStored nodup
  | cons entry rest induction =>
      rcases entry with ⟨joint, second⟩
      simp only [spineIds, List.flatMap_cons, List.append_assoc] at nodup
      rw [List.nodup_append] at nodup
      rcases nodup with ⟨firstNodup, belowNodup, disjoint⟩
      have belowNodup : (spineIds second rest ++ next.ids).Nodup := by
        simpa [spineIds] using belowNodup
      have last : (lastOf second rest).id ∈ spineIds second rest :=
        mem_spineIds_of_mem_close (lastOf_id_mem_close second rest)
      have notLast : ∀ id ∈ first.ids, id ≠ (lastOf second rest).id := by
        intro id member
        refine disjoint id member _ ?_
        simp only [spineIds, List.mem_append] at last ⊢
        tauto
      have notNext : ∀ id ∈ first.ids, id ≠ next.id := by
        intro id member
        refine disjoint id member _ ?_
        simp only [List.mem_append]
        exact .inr (.inr next.id_mem_ids)
      rw [close, TaskTree.stored_attach_iff] at stored
      rcases stored with ⟨record, kept, below⟩
      rw [List.cons_append, close, TaskTree.stored_attach_iff]
      have root := first.id_mem_ids
      refine ⟨?_, kept.frame firstNodup ?_, induction below belowNodup⟩
      · rw [lastOf, get?_link_of_ne (notLast _ root) (notNext _ root), record]
        exact congrArg some (TaskTree.record_attach_congr (by simp))
      · intro id member _
        exact get?_link_of_ne (notLast id member) (notNext id member)

end EventPipeline
