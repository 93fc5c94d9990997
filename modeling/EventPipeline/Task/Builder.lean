import EventPipeline.Parser.Grammar
import EventPipeline.Task.PipelineTask

/-! # Building task trees

`_parse_ast` and `build_pipeline_from_execution_code`. The builder allocates
task objects and assigns to their fields; it passes the heap along.
-/

namespace EventPipeline

open EventPipeline.Parser

/-- What `_parse_ast` returns: a task, a number or `None`. -/
inductive Parsed
  | task (id : TaskId)
  | number (value : Nat)
  | absent
deriving DecidableEq, Repr

/-- The attribute `value` of the task in front of a group. A descriptor cannot
stand there. -/
def taskValue : Ast → Except PyError String
  | .taskName value => .ok value
  | .descriptor _ => .error (.attributeError "malformed group")
  | .number _ => .error (.attributeError "'int' object has no attribute 'value'")
  | .binOp _ _ _ => .error (.attributeError "'BinOp' object has no attribute 'value'")
  | .conditionalBinOP _ _ =>
      .error (.attributeError "'ConditionalBinOP' object has no attribute 'value'")

/-- The attributes `left.value` and `op` of a branch that is stored under a
descriptor of its own. -/
def customBranch : Ast → Except PyError (Nat × Operator)
  | .binOp op (.descriptor value) _ => .ok (value, op)
  | .binOp _ (.binOp _ _ _) _ =>
      .error (.attributeError "'BinOp' object has no attribute 'value'")
  | .binOp _ (.conditionalBinOP _ _) _ =>
      .error (.attributeError "'ConditionalBinOP' object has no attribute 'value'")
  | .binOp _ (.number _) _ =>
      .error (.attributeError "'int' object has no attribute 'value'")
  | _ => .error (.attributeError "malformed branch")

/-- `get_root` of a task that the builder has in its hands. -/
def rootOf (heap : Heap) (id : TaskId) : Except PyError TaskId :=
  match heap.getRoot id with
  | some root => .ok root
  | none => .error .recursionError

/-- `get_root` of what `_parse_ast` returned, unless that is `None` or zero. -/
def Parsed.getRoot (heap : Heap) : Parsed → Except PyError Parsed
  | .task id => (rootOf heap id).map .task
  | .number (_ + 1) => .error (.attributeError "'int' object has no attribute 'get_root'")
  | .number 0 => .ok (.number 0)
  | .absent => .ok .absent

/-- The pipe between two tasks: whatever is not an arrow is parallelism. -/
def linkPipe : Operator → PipeType
  | .ppointer => .pipePointer
  | .pointer => .pointer
  | _ => .parallelism

/-- Hang `right` below `left`. -/
def link (heap : Heap) (pipe : PipeType) (left right : TaskId) : Heap :=
  let linked := heap.modify left fun task =>
    if task.isConditional then
      { task with sinkNode := some right, sinkPipe := some pipe }
    else
      { task with onSuccessEvent := some right, onSuccessPipe := some pipe }
  linked.modify right fun task => { task with parentNode := some left }

/-- A retry factor goes to the task itself, a descriptor to its root. -/
def annotate (heap : Heap) (op : Operator) (value : Nat) (id : TaskId) :
    Except PyError (Parsed × Heap) :=
  if op = .retry then
    .ok (.task id, heap.modify id fun task =>
      { task with extraConfig := { task.extraConfig with numberOfRetries := some value } })
  else do
    let root ← rootOf heap id
    return (.task root, heap.modify root fun task =>
      { task with descriptor := some value, descriptorPipe := some op })

/-- What a `BinOp` makes of its two sides. -/
def combine (heap : Heap) (op : Operator) : Parsed → Parsed → Except PyError (Parsed × Heap)
  | .task left, .task right => .ok (.task right, link heap (linkPipe op) left right)
  | .number value, .task id => annotate heap op value id
  | .task id, .number value => annotate heap op value id
  | .number _, _ => .error (.syntaxError "AST is malformed")
  | _, .number _ => .error (.syntaxError "AST is malformed")
  | .task id, .absent => .ok (.task id, heap)
  | .absent, right => .ok (right, heap)

/-- The body of the loop over `[right_node, left_node]`. -/
def attachBranch (heap : Heap) (parent : TaskId) : Parsed → Heap
  | .task id =>
      let adopted := heap.modify id fun task => { task with parentNode := some parent }
      match adopted.get? id with
      | none => adopted
      | some node =>
          let pipe := node.descriptorPipe.map PipeType.getPipeTypeEnum
          adopted.modify parent fun task =>
            if node.descriptor = some 0 then
              { task with onFailureEvent := some id, onFailurePipe := pipe }
            else
              { task with onSuccessEvent := some id, onSuccessPipe := pipe }
  | _ => heap

/-- Hang the head of a branch below its parent under a descriptor of its own. -/
def attachCustom (heap : Heap) (parent : TaskId) (branch : Ast) :
    Parsed → Except PyError Heap
  | .absent | .number 0 => .ok heap
  | .number (_ + 1) => .error (.attributeError "'int' object has no attribute 'get_root'")
  | .task id => do
      let head ← rootOf heap id
      let adopted := heap.modify head fun task => { task with parentNode := some parent }
      let key ← customBranch branch
      return adopted.modify parent fun task =>
        { task with
          extraConfig := (task.extraConfig.addDescriptor key.1
            (PipeType.getPipeTypeEnum key.2) head).1 }

mutual
def parseAst : Ast → Heap → Except PyError (Parsed × Heap)
  | .binOp op left right, heap => do
      let (leftNode, heap) ← parseAst left heap
      let (rightNode, heap) ← parseAst right heap
      combine heap op leftNode rightNode
  | .taskName value, heap => .ok (.task heap.size, heap.alloc { event := value })
  | .conditionalBinOP parent exprGroup, heap => do
      let (leftNode, heap) ← parseBranch 0 exprGroup heap
      let (rightNode, heap) ← parseBranch 1 exprGroup heap
      let leftNode ← leftNode.getRoot heap
      let rightNode ← rightNode.getRoot heap
      let event ← taskValue parent
      let id := heap.size
      let heap := heap.alloc { event := event }
      let heap := attachBranch (attachBranch heap id rightNode) id leftNode
      let heap ← parseExtras id exprGroup heap
      return (.task id, heap)
  | .descriptor value, heap => .ok (.number value, heap)
  | .number value, heap => .ok (.number value, heap)

/-- The branch that a group stores under a descriptor. -/
def parseBranch (key : Nat) : List (Nat × Ast) → Heap → Except PyError (Parsed × Heap)
  | [], heap => .ok (.absent, heap)
  | (other, branch) :: rest, heap =>
      if other = key then parseAst branch heap else parseBranch key rest heap

/-- The loop over `extra_descriptors`. -/
def parseExtras (parent : TaskId) : List (Nat × Ast) → Heap → Except PyError Heap
  | [], heap => .ok heap
  | (key, branch) :: rest, heap =>
      if key ≠ 1 ∧ key ≠ 0 then do
        let (node, heap) ← parseAst branch heap
        let heap ← attachCustom heap parent branch node
        parseExtras parent rest heap
      else
        parseExtras parent rest heap
end

/-- `build_pipeline_from_execution_code` where the recursion limit is never reached: the root and
the heap of its objects, with the lexer object that the parser leaves behind. The calls that nest
under a limit are counted by `buildPipelineWithin`. -/
def buildPipelineFromExecutionCode (lexer : Lexer) (code : String) :
    Except PyError (TaskId × Heap) × Lexer :=
  if code = "" then
    (.error (.indexError "No pointy code provided"), lexer)
  else
    let parsed := pointyParser lexer code
    (do
      let ast ← parsed.1
      let (tail, heap) ← parseAst ast .empty
      match tail with
      | .task id => return (← rootOf heap id, heap)
      | .number _ => throw (.attributeError "'int' object has no attribute 'get_root'")
      | .absent => throw (.attributeError "'NoneType' object has no attribute 'get_root'"),
      parsed.2)

end EventPipeline
