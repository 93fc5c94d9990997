import EventPipeline.Execution.ParallelNodes
import EventPipeline.Foundation.Loop
import EventPipeline.Translator.Statement

/-! # Translation to DOT

`generate_dot_from_task_state` walks over the tasks of a tree and collects the
statements of a graph. When it meets a parallel group it drops the rest of its walk
and starts again at the last task of the group.
-/

namespace EventPipeline

namespace Heap

def eventOf (heap : Heap) (id : TaskId) : String :=
  ((heap.get? id).map PipelineTask.event).getD ""

def descriptorOf (heap : Heap) (id : TaskId) : Option Nat :=
  (heap.get? id).bind PipelineTask.descriptor

def childrenOf (heap : Heap) (id : TaskId) : List TaskId :=
  ((heap.get? id).map PipelineTask.getChildren).getD []

def isSink (heap : Heap) (id : TaskId) : Bool :=
  match heap.get? id with
  | none => false
  | some task =>
      match task.parentNode.bind heap.get? with
      | none => false
      | some parent => !task.isDescriptorTask && parent.sinkNode = some id

def recordNode (heap : Heap) (first : TaskId) (tasks : List TaskId) : DotNode :=
  ⟨first, "\x7b" ++ "|".intercalate (tasks.map heap.eventOf) ++ "\x7d", .record⟩

def getDotNodeData (heap : Heap) (id : TaskId) : Except PyError (Option DotNode) :=
  if heap.isSink id then .ok (some ⟨id, heap.eventOf id, .box⟩)
  else if (heap.get? id).any PipelineTask.isConditional then
    .ok (some ⟨id, heap.eventOf id, .diamond⟩)
  else if heap.isParallelExecutionNode id then do
    match ← heap.getParallelNodes id with
    | none | some [] => return none
    | some (first :: others) => return some (heap.recordNode first (first :: others))
  else .ok (some ⟨id, heap.eventOf id, .circle⟩)

/-- The statement that `process_parallel_nodes` adds. -/
def processParallelNodes (heap : Heap) : List TaskId → Option DotNode
  | [] => none
  | first :: others => some (heap.recordNode first (first :: others))

def childStatements (heap : Heap) (id child : TaskId) :
    Except PyError (List DotNode × List DotEdge) := do
  match ← heap.getParallelNodes child with
  | none => return ([], [⟨id, child, heap.descriptorOf child⟩])
  | some nodes =>
      match nodes, heap.processParallelNodes nodes with
      | first :: _, some node => return ([node], [⟨id, node.id, heap.descriptorOf first⟩])
      | _, _ => return ([], [])

/-- The last task of a group has been drawn with the group. -/
def isSkipped (heap : Heap) (id : TaskId) : Bool :=
  match heap.get? id with
  | none => false
  | some task =>
      match task.parentNode.bind heap.get? with
      | none => false
      | some parent =>
          parent.onSuccessPipe = some .parallelism ∧ task.onSuccessPipe ≠ some .parallelism

end Heap

/-- The tasks that `iterator` still yields, and the statements so far. A statement is
added when its text is new; the texts of different statements differ. -/
structure DotState where
  iterator : List TaskId
  nodes : List DotNode := []
  edges : List DotEdge := []
deriving DecidableEq, Repr

/-- `bf_traversal` as the list of the tasks it yields. -/
def traverse (heap : Heap) (id : TaskId) : Except PyError (List TaskId) :=
  match heap.bfTraversal id with
  | none => .error .recursionError
  | some tasks => .ok tasks

/-- The statements of a group and the walk that goes on behind it. -/
def drawGroup (heap : Heap) (state : DotState) (group : DotNode) (last : TaskId) :
    Except PyError DotState := do
  let iterator ← traverse heap last
  let edges := (heap.childrenOf last).map fun child =>
    ⟨group.id, child, heap.descriptorOf child⟩
  return ⟨iterator, addNew state.nodes group, addAll state.edges edges⟩

/-- The statements of the edges to the children, and of the groups among them. -/
def drawChildren (heap : Heap) (state : DotState) (id : TaskId) : Except PyError DotState := do
  let statements ← (heap.childrenOf id).mapM (heap.childStatements id)
  return { state with
    nodes := addAll state.nodes (statements.flatMap Prod.fst)
    edges := addAll state.edges (statements.flatMap Prod.snd) }

/-- One iteration of the loop. -/
def dotStep (heap : Heap) (state : DotState) : Except PyError (Option DotState) :=
  match state.iterator with
  | [] => .ok none
  | id :: rest =>
      if heap.isSkipped id then .ok (some { state with iterator := rest })
      else do
        let own ← heap.getDotNodeData id
        let state : DotState :=
          { state with iterator := rest, nodes := addAll state.nodes own.toList }
        match ← heap.getParallelNodes id with
        | some nodes =>
            match heap.processParallelNodes nodes, nodes.getLast? with
            | some group, some last => return some (← drawGroup heap state group last)
            | _, _ => return some state
        | none => return some (← drawChildren heap state id)

/-- `none` stands for a call that has not returned after `fuel` iterations. -/
def generateDot (heap : Heap) (fuel : Nat) (taskState : TaskId) :
    Option (Except PyError DotState) :=
  match heap.getRoot taskState with
  | none => some (.error .recursionError)
  | some root =>
      match traverse heap root with
      | .error error => some (.error error)
      | .ok iterator => loop (dotStep heap) fuel ⟨iterator, [], []⟩

def DotState.text (state : DotState) : String :=
  "digraph G \x7b\n" ++ "\tnode [fontname=\"Helvetica\", fontsize=11]\n" ++
    "\tedge [fontname=\"Helvetica\", fontsize=10]\n" ++
    String.join (state.nodes.map DotNode.text) ++
    String.join (state.edges.map fun edge => edge.text ++ "\n") ++ "\x7d"

def generateDotFromTaskState (heap : Heap) (fuel : Nat) (taskState : TaskId) :
    Option (Except PyError String) :=
  (generateDot heap fuel taskState).map fun result => result.map DotState.text

end EventPipeline
