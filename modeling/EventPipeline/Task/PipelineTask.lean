import EventPipeline.Foundation.Arena
import EventPipeline.Parser.Ast

/-! # Pipeline tasks

The objects of the class `PipelineTask` and the methods that read them. Tasks
refer to each other by identity, so that a pipeline is a heap of task records.
-/

namespace EventPipeline

open EventPipeline.Parser

/-- The identity of a task object. -/
abbrev TaskId := Nat

inductive PipeType
  | pointer
  | pipePointer
  | parallelism
  | retry
deriving DecidableEq, Repr

namespace PipeType

def token : PipeType → Operator
  | .pointer => .pointer
  | .pipePointer => .ppointer
  | .parallelism => .parallel
  | .retry => .retry

def getPipeTypeEnum : Operator → PipeType
  | .pointer => .pointer
  | .ppointer => .pipePointer
  | .parallel => .parallelism
  | .retry => .retry

end PipeType

structure DescriptorConfig where
  descriptor : Nat
  pipe : PipeType
  task : TaskId
deriving DecidableEq, Repr

structure ExtraPipelineTaskConfig where
  numberOfRetries : Option Nat := none
  descriptors : List (Nat × DescriptorConfig) := []
deriving DecidableEq, Repr

namespace ExtraPipelineTaskConfig

def addDescriptor (config : ExtraPipelineTaskConfig) (descriptor : Nat) (pipe : PipeType)
    (task : TaskId) : ExtraPipelineTaskConfig × Bool :=
  if 1 < descriptor ∧ descriptor < 10 then
    let entry : DescriptorConfig := ⟨descriptor, pipe, task⟩
    ({ config with
        descriptors := OrderedDict.insert descriptor entry config.descriptors }, true)
  else
    (config, false)

def getDescriptorConfig (config : ExtraPipelineTaskConfig) (descriptor : Nat) :
    Option DescriptorConfig :=
  OrderedDict.get descriptor config.descriptors

def getDescriptors (config : ExtraPipelineTaskConfig) : List DescriptorConfig :=
  config.descriptors.map Prod.snd

end ExtraPipelineTaskConfig

/-- The record of a task. `descriptorPipe` is the text of the operator behind
the descriptor, the other pipes are members of `PipeType`. -/
structure PipelineTask where
  event : String
  extraConfig : ExtraPipelineTaskConfig := {}
  descriptor : Option Nat := none
  descriptorPipe : Option Operator := none
  parentNode : Option TaskId := none
  sinkNode : Option TaskId := none
  sinkPipe : Option PipeType := none
  onSuccessEvent : Option TaskId := none
  onFailureEvent : Option TaskId := none
  onSuccessPipe : Option PipeType := none
  onFailurePipe : Option PipeType := none
deriving DecidableEq, Repr

/-- The task objects in order of their construction. -/
abbrev Heap := Arena PipelineTask

/-- What `get_pointer_type_to_this_event` can return besides `None`: a member of
`PipeType`, or the text kept in `_descriptor_pipe`. -/
inductive PointerType
  | pipe (pipe : PipeType)
  | text (operator : Operator)
deriving DecidableEq, Repr

namespace PipelineTask

def isConditional (task : PipelineTask) : Bool :=
  !task.extraConfig.getDescriptors.isEmpty ||
    (task.onSuccessEvent.isSome && task.onFailureEvent.isSome)

def isDescriptorTask (task : PipelineTask) : Bool :=
  task.descriptor.isSome || task.descriptorPipe.isSome

def getChildren (task : PipelineTask) : List TaskId :=
  task.onFailureEvent.toList ++ task.sinkNode.toList ++ task.onSuccessEvent.toList ++
    task.extraConfig.getDescriptors.map DescriptorConfig.task

def getDescriptor (task : PipelineTask) (descriptor : Nat) : Option TaskId :=
  if descriptor = 0 then task.onFailureEvent
  else if descriptor = 1 then task.onSuccessEvent
  else (task.extraConfig.getDescriptorConfig descriptor).map DescriptorConfig.task

end PipelineTask

namespace Heap

/-- `get_root`: follow `parent_node` up. `none` stands for a recursion that
does not end. -/
def getRootFrom (heap : Heap) : Nat → TaskId → Option TaskId
  | 0, _ => none
  | fuel + 1, id =>
      match (heap.get? id).bind PipelineTask.parentNode with
      | none => some id
      | some parent => getRootFrom heap fuel parent

def getRoot (heap : Heap) (id : TaskId) : Option TaskId :=
  getRootFrom heap (heap.size + 1) id

/-- `bf_traversal`: a task and, behind it, the traversals of its children. -/
def bfTraversalFrom (heap : Heap) : Nat → TaskId → Option (List TaskId)
  | 0, _ => none
  | fuel + 1, id =>
      let children := ((heap.get? id).map PipelineTask.getChildren).getD []
      (children.mapM (bfTraversalFrom heap fuel)).map fun below => id :: below.flatten

def bfTraversal (heap : Heap) (id : TaskId) : Option (List TaskId) :=
  bfTraversalFrom heap (heap.size + 1) id

def getTaskCount (heap : Heap) (id : TaskId) : Option Nat :=
  ((heap.getRoot id).bind heap.bfTraversal).map List.length

def getPointerTypeToThisEvent (heap : Heap) (id : TaskId) : Option PointerType :=
  match heap.get? id with
  | none => none
  | some task =>
      match task.parentNode.bind heap.get? with
      | none => none
      | some parent =>
          if parent.onSuccessEvent = some id then
            parent.onSuccessPipe.map .pipe
          else if parent.onFailureEvent = some id then
            parent.onFailurePipe.map .pipe
          else if parent.sinkNode = some id then
            parent.sinkPipe.map .pipe
          else
            match task.descriptor.bind parent.extraConfig.getDescriptorConfig with
            | some config => some (.pipe config.pipe)
            | none => task.descriptorPipe.map .text

end Heap

/-! ## Pointer types -/

section Pointers

variable {heap : Heap} {id child : TaskId} {task record : PipelineTask} {pipe : PipeType}
  (found : heap.get? id = some task) (below : heap.get? child = some record)
  (parent : record.parentNode = some id)
include found below parent

theorem pointer_success (place : task.onSuccessEvent = some child)
    (piped : task.onSuccessPipe = some pipe) :
    heap.getPointerTypeToThisEvent child = some (.pipe pipe) := by
  simp [Heap.getPointerTypeToThisEvent, below, parent, found, place, piped]

theorem pointer_failure (other : task.onSuccessEvent ≠ some child)
    (place : task.onFailureEvent = some child) (piped : task.onFailurePipe = some pipe) :
    heap.getPointerTypeToThisEvent child = some (.pipe pipe) := by
  simp [Heap.getPointerTypeToThisEvent, below, parent, found, other, place, piped]

theorem pointer_sink (notSuccess : task.onSuccessEvent ≠ some child)
    (notFailure : task.onFailureEvent ≠ some child)
    (place : task.sinkNode = some child) (piped : task.sinkPipe = some pipe) :
    heap.getPointerTypeToThisEvent child = some (.pipe pipe) := by
  simp [Heap.getPointerTypeToThisEvent, below, parent, found, notSuccess, notFailure, place,
    piped]

end Pointers

end EventPipeline
