import EventPipeline.Task.Script

/-! # Trees that mirror scripts

What it means that the tree in the heap has the shape of a script, and that the
builder leaves such a tree for every script it accepts.
-/

namespace EventPipeline

open EventPipeline.Parser

def Parser.Arrow.pipe : Arrow → PipeType
  | .pointer => .pointer
  | .ppointer => .pipePointer

/-- The task `id` leads over `op` to the task `next` of the item behind its own. -/
structure Follows (heap : Heap) (conditional : Bool) (id : TaskId) (op : Link)
    (next : TaskId) : Prop where
  parent : ∃ child, heap.get? next = some child ∧ child.parentNode = some id
  pointer : heap.getPointerTypeToThisEvent next = some (.pipe op.pipe)
  place : ∃ task, heap.get? id = some task ∧
    if conditional then task.sinkNode = some next ∧ task.sinkPipe = some op.pipe
    else task.onSuccessEvent = some next ∧ task.onSuccessPipe = some op.pipe

/-- Nothing stands behind the item of the task `id`. -/
def Final (heap : Heap) (conditional : Bool) (id : TaskId) : Prop :=
  ∃ task, heap.get? id = some task ∧
    if conditional then task.sinkNode = none else task.onSuccessEvent = none

/-- The task `head` starts a branch of the task `id`. -/
structure Heads (heap : Heap) (id : TaskId) (descriptor : Nat) (op : Arrow)
    (head : TaskId) : Prop where
  record : ∃ child, heap.get? head = some child ∧ child.parentNode = some id ∧
    child.descriptor = some descriptor ∧ child.descriptorPipe = some op.operator
  pointer : heap.getPointerTypeToThisEvent head = some (.pipe op.pipe)

def ScriptItem.isConditional : ScriptItem → Bool
  | .task _ _ => false
  | .conditional _ _ _ => true

mutual
/-- The task `id` stands for the item. The last argument lists the tasks of
the names in the item in the order they are written. -/
def ScriptItem.Mirrored (heap : Heap) : ScriptItem → TaskId → List TaskId → Prop
  | .task name retry, id, nodes => nodes = [id] ∧ ∃ task, heap.get? id = some task ∧
      task.event = name ∧ task.extraConfig.numberOfRetries = retry.factor ∧
      task.onFailureEvent = none ∧ task.sinkNode = none ∧
      task.extraConfig.descriptors = []
  | .conditional name retry group, id, nodes => ∃ task, heap.get? id = some task ∧
      task.event = name ∧ task.extraConfig.numberOfRetries = retry.factor ∧
      task.extraConfig.descriptors = [] ∧
      ∃ branches, nodes = id :: branches ∧ group.Mirrored heap id task branches

/-- The tasks from `id` on stand for the items of the script. -/
def Script.Mirrored (heap : Heap) : Script → TaskId → List TaskId → Prop
  | .last item, id, nodes => item.Mirrored heap id nodes ∧ Final heap item.isConditional id
  | .cons item op rest, id, nodes => ∃ next itemNodes restNodes,
      item.Mirrored heap id itemNodes ∧ Follows heap item.isConditional id op next ∧
      rest.Mirrored heap next restNodes ∧ nodes = itemNodes ++ restNodes

/-- The branches of the task `id` are those of the group. -/
def ScriptGroup.Mirrored (heap : Heap) : ScriptGroup → TaskId → PipelineTask →
    List TaskId → Prop
  | .mk failureFirst failureOp failure successOp success, id, task, nodes =>
      ∃ failureHead successHead failureNodes successNodes,
        task.onFailureEvent = some failureHead ∧
        task.onFailurePipe = some failureOp.pipe ∧
        task.onSuccessEvent = some successHead ∧
        task.onSuccessPipe = some successOp.pipe ∧
        Heads heap id 0 failureOp failureHead ∧ Heads heap id 1 successOp successHead ∧
        failure.Mirrored heap failureHead failureNodes ∧
        success.Mirrored heap successHead successNodes ∧
        nodes = if failureFirst then failureNodes ++ successNodes
          else successNodes ++ failureNodes
end

/-- The tree below the root mirrors the script: its tasks are the tasks that
stand for the names of the script, one for each name. -/
def MirrorsScript (heap : Heap) (root : TaskId) (script : Script) : Prop :=
  (∃ task, heap.get? root = some task ∧ task.parentNode = none) ∧
    ∃ nodes order, script.Mirrored heap root nodes ∧ nodes.Nodup ∧
      heap.bfTraversal root = some order ∧ order.Perm nodes

/-! ## The trees of scripts -/

mutual
inductive ScriptItem.Shapes : ScriptItem → TaskTree → Prop
  | task {name retry id label} : label.event = name →
      label.numberOfRetries = retry.factor →
      (ScriptItem.task name retry).Shapes (.node id label .vacant .vacant .vacant .nil)
  | conditional {name retry failureFirst failureOp failure successOp success id label
      failureTree failureRest successTree successRest} :
      label.event = name → label.numberOfRetries = retry.factor →
      failure.Shapes failureTree failureRest → success.Shapes successTree successRest →
      failureTree.label.descriptor = some 0 →
      failureTree.label.descriptorPipe = some (Arrow.operator failureOp) →
      successTree.label.descriptor = some 1 →
      successTree.label.descriptorPipe = some (Arrow.operator successOp) →
      (ScriptItem.conditional name retry
        (.mk failureFirst failureOp failure successOp success)).Shapes
        (.node id label (.child failureOp.pipe (close failureTree failureRest)) .vacant
          (.child successOp.pipe (close successTree successRest)) .nil)

inductive Script.Shapes : Script → TaskTree → List (PipeType × TaskTree) → Prop
  | last {item tree} : item.Shapes tree → (Script.last item).Shapes tree []
  | cons {item op rest tree next below} : item.Shapes tree → rest.Shapes next below →
      (Script.cons item op rest).Shapes tree ((op.pipe, next) :: below)
end

theorem ScriptItem.Shapes.setDescriptor {item : ScriptItem} {tree : TaskTree}
    (shapes : item.Shapes tree) (descriptor : Nat) (op : Operator) :
    item.Shapes (tree.setDescriptor descriptor op) := by
  cases shapes with
  | task event retries => exact .task event retries
  | conditional event retries failure success zero zeroPipe one onePipe =>
      exact .conditional event retries failure success zero zeroPipe one onePipe

theorem Retry.shapes_task {retry : Retry} {name : String} {tree : TaskTree}
    (denotes : (retry.apply (.name name)).Denotes tree) :
    (ScriptItem.task name retry).Shapes tree := by
  cases retry with
  | absent =>
      rcases denotes with ⟨⟨⟩⟩
      exact .task rfl rfl
  | leading factor =>
      rcases denotes with _ | ⟨⟨⟩⟩
      exact .task rfl rfl
  | trailing factor =>
      rcases denotes with _ | _ | ⟨⟨⟩⟩
      exact .task rfl rfl
  | inside factor =>
      rcases denotes with _ | _ | ⟨⟨⟩⟩
      exact .task rfl rfl

theorem Script.key_behind : ∀ (script : Script) (chain : Chain) (op : Link),
    (script.behind chain op).key = chain.key
  | .last _, _, _ => rfl
  | .cons item next rest, chain, op => rest.key_behind (.link chain op item.item) next

theorem Script.key_chain (script : Script) (descriptor : Fin 10) (arrow : Arrow) :
    (script.chain (.described descriptor arrow)).key = some descriptor.val := by
  match script with
  | .last _ => rfl
  | .cons item op rest => exact rest.key_behind _ op

theorem ScriptGroup.get_dict (failureFirst : Bool) (failureOp successOp : Arrow)
    (failure success : Script) :
    let dict := (ScriptGroup.mk failureFirst failureOp failure successOp success).group.dict
    OrderedDict.get 0 dict = some (failure.chain (.described 0 failureOp)) ∧
      OrderedDict.get 1 dict = some (success.chain (.described 1 successOp)) ∧
      ∀ entry ∈ dict, entry.1 ≤ 1 := by
  have zero := failure.key_chain 0 failureOp
  have one := success.key_chain 1 successOp
  cases failureFirst <;>
    simp [ScriptGroup.group, Group.dict, Group.chains, storeBranch, zero, one,
      OrderedDict.insert, OrderedDict.get]

theorem CustomsDenote.eq_nil {dict : List (Nat × Chain)} {customs : Customs}
    (denotes : CustomsDenote dict customs) (small : ∀ entry ∈ dict, entry.1 ≤ 1) :
    customs = .nil := by
  match denotes with
  | .nil => rfl
  | .skip _ denotes =>
      exact CustomsDenote.eq_nil denotes fun entry member =>
        small entry (List.mem_cons_of_mem _ member)
  | .cons custom _ _ _ => exact absurd (small _ List.mem_cons_self) (Nat.not_le.mpr custom)

theorem described_label {descriptor : Fin 10} {arrow : Arrow} {item : Item}
    {tree : TaskTree} (denotes : (Item.described descriptor arrow item).Denotes tree) :
    tree.label.descriptor = some descriptor.val ∧
      tree.label.descriptorPipe = some arrow.operator := by
  cases denotes with
  | @described _ _ _ inner _ =>
      cases inner
      exact ⟨rfl, rfl⟩

theorem Parser.Arrow.getPipeTypeEnum_operator (arrow : Arrow) :
    PipeType.getPipeTypeEnum arrow.operator = arrow.pipe := by
  cases arrow <;> rfl

/-- What is known of the chain of a branch. -/
def BranchShapes (descriptor : Fin 10) (arrow : Arrow) (script : Script) : Prop :=
  ∀ first rest, (script.chain (.described descriptor arrow)).Denotes first rest →
    script.Shapes first rest ∧ first.label.descriptor = some descriptor.val ∧
      first.label.descriptorPipe = some arrow.operator

theorem SlotDenotes.shapes {descriptor : Fin 10} {arrow : Arrow} {script : Script}
    {slot : Slot} (branch : BranchShapes descriptor arrow script)
    (denotes : SlotDenotes (some (script.chain (.described descriptor arrow))) slot) :
    ∃ first rest, slot = .child arrow.pipe (close first rest) ∧ script.Shapes first rest ∧
      first.label.descriptor = some descriptor.val ∧
      first.label.descriptorPipe = some arrow.operator := by
  cases denotes with
  | @child _ first rest op denotes piped =>
      have shapes := branch first rest denotes
      have same : op = arrow.operator := Option.some_inj.mp (piped.symm.trans shapes.2.2)
      subst same
      exact ⟨first, rest, by rw [arrow.getPipeTypeEnum_operator], shapes⟩

theorem shapes_group {name : String} {failureFirst : Bool} {failureOp successOp : Arrow}
    {failure success : Script} {tree : TaskTree}
    (failureShapes : BranchShapes 0 failureOp failure)
    (successShapes : BranchShapes 1 successOp success)
    (denotes : (TaskExpr.conditional (.name name)
      (ScriptGroup.mk failureFirst failureOp failure successOp success).group).Denotes tree) :
    (ScriptItem.conditional name .absent
      (.mk failureFirst failureOp failure successOp success)).Shapes tree := by
  have dict := ScriptGroup.get_dict failureFirst failureOp successOp failure success
  cases denotes with
  | conditional failureDenotes successDenotes customsDenote =>
      rw [dict.1] at failureDenotes
      rw [dict.2.1] at successDenotes
      obtain rfl := customsDenote.eq_nil dict.2.2
      rcases failureDenotes.shapes failureShapes with ⟨_, _, rfl, left, zero, zeroPipe⟩
      rcases successDenotes.shapes successShapes with ⟨_, _, rfl, right, one, onePipe⟩
      exact .conditional rfl rfl left right zero zeroPipe one onePipe

theorem ScriptItem.Shapes.setRetries {name : String} {retry : Retry} {group : ScriptGroup}
    {tree : TaskTree} {factor : Nat}
    (shapes : (ScriptItem.conditional name .absent group).Shapes tree)
    (written : retry.factor = some factor) :
    (ScriptItem.conditional name retry group).Shapes (tree.setRetries factor) := by
  cases shapes with
  | conditional event _ failure success zero zeroPipe one onePipe =>
      exact .conditional event written.symm failure success zero zeroPipe one onePipe

theorem Retry.shapes_conditional {retry : Retry} {name : String} {group : ScriptGroup}
    {task : TaskExpr} {tree : TaskTree}
    (plain : ∀ tree, task.Denotes tree →
      (ScriptItem.conditional name .absent group).Shapes tree)
    (denotes : (retry.apply task).Denotes tree) :
    (ScriptItem.conditional name retry group).Shapes tree := by
  cases retry with
  | absent =>
      cases denotes with
      | task denotes => exact plain _ denotes
  | leading factor =>
      cases denotes with
      | prefixed denotes => exact (plain _ denotes).setRetries rfl
  | trailing factor =>
      cases denotes with
      | postfixed denotes => exact (plain _ denotes).setRetries rfl
  | inside factor =>
      cases denotes with
      | postfixed denotes => exact (plain _ denotes).setRetries rfl

mutual
theorem ScriptItem.shapes : ∀ (item : ScriptItem) {tree : TaskTree},
    item.item.Denotes tree → item.Shapes tree
  | .task _ _, _, denotes => Retry.shapes_task denotes
  | .conditional _ _ (.mk _ failureOp failure successOp success), _, denotes =>
      Retry.shapes_conditional (fun _ => shapes_group
        (Script.branchShapes failure 0 failureOp)
        (Script.branchShapes success 1 successOp)) denotes

theorem Script.shapes_behind : ∀ (script : Script) {chain : Chain} {op : Link}
    {first : TaskTree} {rest : List (PipeType × TaskTree)},
    (script.behind chain op).Denotes first rest →
    ∃ before next below, rest = before ++ (op.pipe, next) :: below ∧
      chain.Denotes first before ∧ script.Shapes next below
  | .last item, _, _, _, _, .link chainDenotes itemDenotes =>
      ⟨_, _, [], rfl, chainDenotes, .last (ScriptItem.shapes item itemDenotes)⟩
  | .cons item next rest, _, _, _, _, denotes => by
      rcases Script.shapes_behind rest denotes with
        ⟨before, second, below, rfl, chainDenotes, shapes⟩
      cases chainDenotes with
      | link chainDenotes itemDenotes =>
          exact ⟨_, _, (next.pipe, second) :: below, by simp, chainDenotes,
            .cons (ScriptItem.shapes item itemDenotes) shapes⟩

theorem Script.shapes : ∀ (script : Script) {first : TaskTree}
    {rest : List (PipeType × TaskTree)}, (script.chain id).Denotes first rest →
    script.Shapes first rest
  | .last item, _, _, .item denotes => .last (ScriptItem.shapes item denotes)
  | .cons item op rest, _, _, denotes => by
      rcases Script.shapes_behind rest denotes with
        ⟨before, second, below, rfl, chainDenotes, shapes⟩
      cases chainDenotes with
      | item itemDenotes => exact .cons (ScriptItem.shapes item itemDenotes) shapes

theorem Script.branchShapes : ∀ (script : Script) (descriptor : Fin 10) (arrow : Arrow),
    BranchShapes descriptor arrow script
  | .last item, descriptor, arrow, _, _, .item denotes => by
      refine ⟨.last ?_, described_label denotes⟩
      cases denotes with
      | described denotes => exact (ScriptItem.shapes item denotes).setDescriptor _ _
  | .cons item op rest, descriptor, arrow, _, _, denotes => by
      rcases Script.shapes_behind rest denotes with
        ⟨before, second, below, rfl, chainDenotes, shapes⟩
      cases chainDenotes with
      | item itemDenotes =>
          refine ⟨.cons ?_ shapes, described_label itemDenotes⟩
          cases itemDenotes with
          | described inner => exact (ScriptItem.shapes item inner).setDescriptor _ _
end

/-! ## Stored trees of scripts -/

theorem Heads.of_stored {heap : Heap} {id : TaskId} {first : TaskTree}
    {rest : List (PipeType × TaskTree)} {descriptor : Nat} {op : Arrow}
    (stored : (close first rest).Stored heap (some id))
    (described : first.label.descriptor = some descriptor)
    (piped : first.label.descriptorPipe = some op.operator)
    (pointer : heap.getPointerTypeToThisEvent first.id = some (.pipe op.pipe)) :
    Heads heap id descriptor op first.id := by
  have record := stored.record_eq
  have label := close_label first rest
  rw [close_id] at record
  refine ⟨⟨_, record, TaskTree.record_parentNode _ _, ?_, ?_⟩, pointer⟩
  · generalize close first rest = tree at label
    cases tree
    exact (congrArg Label.descriptor label).trans described
  · generalize close first rest = tree at label
    cases tree
    exact (congrArg Label.descriptorPipe label).trans piped

/-- The branches of a stored task mirror its group when both branches mirror
their scripts. `next` is the place for what stands behind the item. -/
theorem ScriptGroup.mirrored {heap : Heap} {parent : Option TaskId} {id : TaskId}
    {label : Label} {next : Slot} (failureFirst : Bool) {failureOp successOp : Arrow}
    {failure success : Script} {failureTree successTree : TaskTree}
    {failureRest successRest : List (PipeType × TaskTree)}
    {failureNodes successNodes : List TaskId}
    (stored : (TaskTree.node id label (.child failureOp.pipe (close failureTree failureRest))
      next (.child successOp.pipe (close successTree successRest)) .nil).Stored heap parent)
    (nodup : (TaskTree.node id label (.child failureOp.pipe (close failureTree failureRest))
      next (.child successOp.pipe (close successTree successRest)) .nil).ids.Nodup)
    (zero : failureTree.label.descriptor = some 0)
    (zeroPipe : failureTree.label.descriptorPipe = some failureOp.operator)
    (one : successTree.label.descriptor = some 1)
    (onePipe : successTree.label.descriptorPipe = some successOp.operator)
    (failureMirrored : failure.Mirrored heap failureTree.id failureNodes)
    (successMirrored : success.Mirrored heap successTree.id successNodes) :
    (ScriptGroup.mk failureFirst failureOp failure successOp success).Mirrored heap id
      ((TaskTree.node id label (.child failureOp.pipe (close failureTree failureRest)) next
        (.child successOp.pipe (close successTree successRest)) .nil).record parent)
      (if failureFirst then failureNodes ++ successNodes
        else successNodes ++ failureNodes) := by
  rcases stored with ⟨record, failureStored, _, successStored, _⟩
  have failureStored : (close failureTree failureRest).Stored heap (some id) := failureStored
  have successStored : (close successTree successRest).Stored heap (some id) := successStored
  have failureRecord := failureStored.record_eq
  have successRecord := successStored.record_eq
  have different : successTree.id ≠ failureTree.id := by
    have failureMember := (close failureTree failureRest).id_mem_ids
    have successMember := (close successTree successRest).id_mem_ids
    simp only [TaskTree.ids, Slot.ids, List.nodup_cons, List.nodup_append,
      List.mem_append] at nodup
    rw [close_id] at failureMember successMember
    intro equal
    exact nodup.2.2.2 _ failureMember _ (.inr (.inl successMember)) equal.symm
  rw [close_id] at failureRecord successRecord
  refine ⟨failureTree.id, successTree.id, failureNodes, successNodes, ?_, rfl, ?_, rfl,
    Heads.of_stored failureStored zero zeroPipe ?_,
    Heads.of_stored successStored one onePipe ?_, failureMirrored, successMirrored, rfl⟩
  · simp [TaskTree.record, Slot.id?]
  · simp [TaskTree.record, Slot.id?]
  · refine pointer_failure record failureRecord (TaskTree.record_parentNode _ _) ?_ ?_ rfl
    · simpa [TaskTree.record, Slot.id?] using different
    · simp [TaskTree.record, Slot.id?]
  · refine pointer_success record successRecord (TaskTree.record_parentNode _ _) ?_ rfl
    simp [TaskTree.record, Slot.id?]

theorem TaskTree.nodup_children {id : TaskId} {label : Label} {failure sink success : Slot}
    {customs : Customs}
    (nodup : (TaskTree.node id label failure sink success customs).ids.Nodup) :
    failure.ids.Nodup ∧ sink.ids.Nodup ∧ success.ids.Nodup := by
  simp only [TaskTree.ids, List.nodup_cons, List.nodup_append] at nodup
  exact ⟨nodup.2.1, nodup.2.2.1.1, nodup.2.2.1.2.1.1⟩

theorem branches_perm (failureFirst : Bool) {failureNodes successNodes failureIds successIds :
    List TaskId} (left : failureNodes.Perm failureIds) (right : successNodes.Perm successIds) :
    (if failureFirst then failureNodes ++ successNodes
      else successNodes ++ failureNodes).Perm (failureIds ++ successIds) := by
  cases failureFirst
  · exact List.perm_append_comm.trans (left.append right)
  · exact left.append right

theorem follows_task {heap : Heap} {parent : Option TaskId} {id : TaskId} {label : Label}
    {op : Link} {next : TaskTree} {below : List (PipeType × TaskTree)}
    (stored : (TaskTree.node id label .vacant .vacant
      (.child op.pipe (close next below)) .nil).Stored heap parent) :
    Follows heap false id op next.id := by
  rcases stored with ⟨record, _, _, nextStored, _⟩
  have nextStored : (close next below).Stored heap (some id) := nextStored
  have nextRecord := nextStored.record_eq
  rw [close_id] at nextRecord
  have place : ((TaskTree.node id label .vacant .vacant (.child op.pipe (close next below))
      .nil).record parent).onSuccessEvent = some next.id := by simp [TaskTree.record, Slot.id?]
  exact ⟨⟨_, nextRecord, TaskTree.record_parentNode _ _⟩,
    pointer_success record nextRecord (TaskTree.record_parentNode _ _) place rfl,
    _, record, place, rfl⟩

theorem follows_conditional {heap : Heap} {parent : Option TaskId} {id : TaskId}
    {label : Label} {op : Link} {next failureTree successTree : TaskTree}
    {below failureRest successRest : List (PipeType × TaskTree)}
    {failurePipe successPipe : PipeType}
    (stored : (TaskTree.node id label (.child failurePipe (close failureTree failureRest))
      (.child op.pipe (close next below))
      (.child successPipe (close successTree successRest)) .nil).Stored heap parent)
    (nodup : (TaskTree.node id label (.child failurePipe (close failureTree failureRest))
      (.child op.pipe (close next below))
      (.child successPipe (close successTree successRest)) .nil).ids.Nodup) :
    Follows heap true id op next.id := by
  rcases stored with ⟨record, _, nextStored, _, _⟩
  have nextStored : (close next below).Stored heap (some id) := nextStored
  have nextRecord := nextStored.record_eq
  rw [close_id] at nextRecord
  have failureMember := (close failureTree failureRest).id_mem_ids
  have successMember := (close successTree successRest).id_mem_ids
  have nextMember := (close next below).id_mem_ids
  rw [close_id] at failureMember successMember nextMember
  simp only [TaskTree.ids, Slot.ids, List.nodup_cons, List.nodup_append,
    List.mem_append] at nodup
  have notFailure : failureTree.id ≠ next.id :=
    nodup.2.2.2 _ failureMember _ (.inl nextMember)
  have notSuccess : successTree.id ≠ next.id := fun equal =>
    nodup.2.2.1.2.2 _ nextMember _ (.inl successMember) equal.symm
  refine ⟨⟨_, nextRecord, TaskTree.record_parentNode _ _⟩,
    pointer_sink record nextRecord (TaskTree.record_parentNode _ _) ?_ ?_ ?_ rfl,
    _, record, ?_, rfl⟩
  · simpa [TaskTree.record, Slot.id?] using notSuccess
  · simpa [TaskTree.record, Slot.id?] using notFailure
  · simp [TaskTree.record, Slot.id?]
  · simp [TaskTree.record, Slot.id?]

theorem Script.mirrored (script : Script) {first : TaskTree}
    {rest : List (PipeType × TaskTree)} {heap : Heap} {parent : Option TaskId}
    (shapes : script.Shapes first rest) (stored : (close first rest).Stored heap parent)
    (nodup : (close first rest).ids.Nodup) :
    ∃ nodes, script.Mirrored heap first.id nodes ∧ nodes.Perm (close first rest).ids := by
  cases script with
  | last item =>
      rcases shapes with ⟨itemShapes⟩
      cases item with
      | task name retry =>
          rcases itemShapes with ⟨event, retries⟩
          have stored := stored.1
          exact ⟨_, ⟨⟨rfl, _, stored, event, retries, rfl, rfl, rfl⟩, _, stored, rfl⟩,
            by simp [close, TaskTree.ids, Slot.ids, Customs.ids, TaskTree.id]⟩
      | conditional name retry group =>
          cases group with
          | mk failureFirst failureOp failure successOp success =>
              cases itemShapes with
              | conditional event retries left right zero zeroPipe one onePipe =>
                  have children := TaskTree.nodup_children nodup
                  rcases Script.mirrored failure left stored.2.1 children.1 with
                    ⟨failureNodes, failureMirrored, failurePerm⟩
                  rcases Script.mirrored success right stored.2.2.2.1 children.2.2 with
                    ⟨successNodes, successMirrored, successPerm⟩
                  have branches := ScriptGroup.mirrored failureFirst stored nodup zero zeroPipe
                    one onePipe failureMirrored successMirrored
                  refine ⟨_, ⟨⟨_, stored.1, event, retries, rfl, _, rfl, branches⟩, _, stored.1,
                    rfl⟩, ?_⟩
                  simpa [close, TaskTree.ids, Slot.ids, Customs.ids, TaskTree.id] using
                    branches_perm failureFirst failurePerm successPerm
  | cons item op script =>
      cases shapes with
      | @cons _ _ _ _ next below itemShapes shapes =>
          cases item with
          | task name retry =>
              rcases itemShapes with ⟨event, retries⟩
              have children := TaskTree.nodup_children nodup
              have follows := follows_task stored
              rcases Script.mirrored script shapes stored.2.2.2.1 children.2.2 with
                ⟨restNodes, restMirrored, restPerm⟩
              refine ⟨_, ⟨next.id, _, restNodes, ⟨rfl, _, stored.1, event, retries, rfl, rfl,
                rfl⟩, follows, restMirrored, rfl⟩, ?_⟩
              simpa [close, TaskTree.ids, Slot.ids, Customs.ids, TaskTree.id, TaskTree.attach,
                TaskTree.isConditional, Customs.heads, Slot.isVacant] using restPerm
          | conditional name retry group =>
              cases group with
              | mk failureFirst failureOp failure successOp success =>
                  cases itemShapes with
                  | conditional event retries left right zero zeroPipe one onePipe =>
                      have children := TaskTree.nodup_children nodup
                      have follows := follows_conditional stored nodup
                      rcases Script.mirrored failure left stored.2.1 children.1 with
                        ⟨failureNodes, failureMirrored, failurePerm⟩
                      rcases Script.mirrored success right stored.2.2.2.1 children.2.2 with
                        ⟨successNodes, successMirrored, successPerm⟩
                      rcases Script.mirrored script shapes stored.2.2.1 children.2.1 with
                        ⟨restNodes, restMirrored, restPerm⟩
                      have branches := ScriptGroup.mirrored failureFirst stored nodup zero
                        zeroPipe one onePipe failureMirrored successMirrored
                      refine ⟨_, ⟨next.id, _, restNodes, ⟨_, stored.1, event, retries, rfl, _,
                        rfl, branches⟩, follows, restMirrored, rfl⟩, ?_⟩
                      have together :=
                        (branches_perm failureFirst failurePerm successPerm).append restPerm
                      refine List.Perm.cons _ (together.trans ?_)
                      simp only [Slot.ids, Customs.ids, List.append_nil, List.append_assoc]
                      exact List.Perm.append_left _ List.perm_append_comm

/-! ## Scripts the builder accepts -/

theorem ScriptGroup.mem_dict {failureFirst : Bool} {failureOp successOp : Arrow}
    {failure success : Script} {entry : Nat × Chain}
    (member : entry ∈
      (ScriptGroup.mk failureFirst failureOp failure successOp success).group.dict) :
    entry.2 = failure.chain (.described 0 failureOp) ∨
      entry.2 = success.chain (.described 1 successOp) := by
  have zero := failure.key_chain 0 failureOp
  have one := success.key_chain 1 successOp
  cases failureFirst <;>
    simp only [ScriptGroup.group, Group.dict, Group.chains, storeBranch, zero, one,
      Bool.false_eq_true, if_true, if_false, List.foldl, OrderedDict.insert] at member <;>
    simp at member <;>
    rcases member with rfl | rfl <;> simp

theorem Retry.buildable {retry : Retry} {task : TaskExpr} (buildable : task.Buildable) :
    (retry.apply task).Buildable := by
  cases retry with
  | absent => exact .task buildable
  | leading factor => exact .prefixed buildable
  | trailing factor => exact .postfixed buildable
  | inside factor => exact .postfixed buildable

mutual
theorem ScriptItem.buildable : ∀ item : ScriptItem, item.item.Buildable
  | .task _ _ => Retry.buildable .name
  | .conditional _ _ (.mk failureFirst failureOp failure successOp success) => by
      refine Retry.buildable (.conditional (fun entry member => ?_) fun entry member custom => ?_)
      · rcases ScriptGroup.mem_dict member with same | same
        · rw [same]
          exact Script.buildable failure _ fun _ => .described
        · rw [same]
          exact Script.buildable success _ fun _ => .described
      · have small := (ScriptGroup.get_dict failureFirst failureOp successOp failure
          success).2.2 entry member
        exact absurd small (Nat.not_le.mpr custom)

theorem Script.buildable_behind : ∀ (script : Script) {chain : Chain} {op : Link},
    chain.Buildable → (script.behind chain op).Buildable
  | .last item, _, _, buildable => .link buildable (ScriptItem.buildable item)
  | .cons item _ rest, _, _, buildable =>
      Script.buildable_behind rest (.link buildable (ScriptItem.buildable item))

theorem Script.buildable : ∀ (script : Script) (wrap : Item → Item),
    (∀ item, Item.Buildable item → (wrap item).Buildable) → (script.chain wrap).Buildable
  | .last item, _, wraps => .item (wraps _ (ScriptItem.buildable item))
  | .cons item _ rest, _, wraps =>
      Script.buildable_behind rest (.item (wraps _ (ScriptItem.buildable item)))
end

theorem ScriptItem.tokens_ne_nil (item : ScriptItem) : item.tokens ≠ [] := by
  cases item <;> simp [ScriptItem.tokens]

theorem Script.tokens_ne_nil (script : Script) : script.tokens ≠ [] := by
  cases script with
  | last item => exact item.tokens_ne_nil
  | cons item op rest => simp [Script.tokens]

/-- The lexer reads the script from the text, to the end of the text. -/
structure Spells (code : String) (script : Script) : Prop where
  tokens : tokensOf code = script.tokens
  ending : (Lexer.initial.input code.toList).tokens.2 = none

theorem Spells.nonempty {code : String} {script : Script} (spells : Spells code script) :
    code ≠ "" := by
  rintro rfl
  exact script.tokens_ne_nil spells.tokens.symm

/-- The builder accepts the text and its tree mirrors the script. -/
def BuildsMirror (lexer : Lexer) (code : String) (script : Script) : Prop :=
  ∃ root heap, (buildPipelineFromExecutionCode lexer code).1 = .ok (root, heap) ∧
    MirrorsScript heap root script

theorem Spells.mirrorsScript {lexer : Lexer} {code : String} {script : Script}
    (spells : Spells code script) (spelled : script.wellSpelled = true) :
    BuildsMirror lexer code script := by
  have yields : (script.chain id).tokens = script.tokens :=
    script.tokens_chain id [] (fun _ => rfl) spelled
  have parsed : parseOutcome lexer code = .accepted (.ast (script.chain id).ast) :=
    (parseOutcome_accepted_iff lexer code _).mpr
      ⟨spells.ending, _, rfl, spells.tokens.trans yields.symm⟩
  rcases build_of_accepted spells.nonempty parsed with
    ⟨_, heap, first, rest, built, denotes, owned⟩ | ⟨failing, _⟩
  · rcases script.mirrored (script.shapes denotes) owned.stored owned.nodup with
      ⟨nodes, mirrored, perm⟩
    have root := owned.stored.record_eq
    have order := owned.stored.bfTraversal_eq owned.nodup
    rw [close_id] at root order
    refine ⟨first.id, heap, built, ⟨_, root, TaskTree.record_parentNode _ _⟩, nodes, _,
      mirrored, perm.nodup_iff.mpr owned.nodup, order, perm.symm⟩
  · exact absurd (script.buildable id fun _ => id) failing

/-- The builder preserves the meaning of exactly those scripts that spell no
retry factor between a name and its group. -/
theorem buildsMirror_iff (lexer : Lexer) (code : String) (script : Script)
    (spells : Spells code script) :
    BuildsMirror lexer code script ↔ script.wellSpelled = true := by
  refine ⟨fun builds => ?_, spells.mirrorsScript⟩
  rcases builds with ⟨root, heap, built, _⟩
  rcases ((accepted_iff lexer spells.nonempty).mp ⟨_, built⟩).2 with ⟨chain, yields, _⟩
  by_contra misspelled
  have misplaced := script.misplaced (Bool.eq_false_iff.mpr misspelled)
  rw [← spells.tokens, yields] at misplaced
  exact chain.not_misplaced misplaced

/-- The text `2*A(1|->C||D,0->B)->E`. -/
def retriedScript : Script :=
  .cons
    (.conditional "A" (.leading ⟨2, by decide⟩)
      (.mk false .pointer (.last (.task "B" .absent)) .ppointer
        (.cons (.task "C" .absent) .parallel (.last (.task "D" .absent)))))
    .pointer (.last (.task "E" .absent))

theorem buildsMirror_retriedScript :
    Spells "2*A(1|->C||D,0->B)->E" retriedScript ∧
      BuildsMirror .initial "2*A(1|->C||D,0->B)->E" retriedScript :=
  ⟨⟨rfl, rfl⟩, (buildsMirror_iff .initial _ retriedScript ⟨rfl, rfl⟩).mpr rfl⟩

/-- The text `A*2(0->B,1->C)`. -/
def misspelledScript : Script :=
  .last (.conditional "A" (.inside ⟨2, by decide⟩)
    (.mk true .pointer (.last (.task "B" .absent)) .pointer (.last (.task "C" .absent))))

/-- The parser expects no group behind a retry factor. -/
theorem not_buildsMirror_misspelledScript :
    Spells "A*2(0->B,1->C)" misspelledScript ∧
      ¬BuildsMirror .initial "A*2(0->B,1->C)" misspelledScript := by
  refine ⟨⟨rfl, rfl⟩, ?_⟩
  rintro ⟨root, heap, built, _⟩
  have raised : ∃ error, (buildPipelineFromExecutionCode .initial "A*2(0->B,1->C)").1 =
      .error error := ⟨_, rfl⟩
  rcases raised with ⟨error, raised⟩
  rw [raised] at built
  cases built

end EventPipeline
