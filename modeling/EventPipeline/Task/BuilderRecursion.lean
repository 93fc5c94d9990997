import EventPipeline.Parser.Recursion
import EventPipeline.Task.Builder

/-! # The builder under a recursion limit

`_parse_ast` calls itself on the parts of a tree. The builder of the previous module is the one for
a limit that is never reached. `get_root` is not counted: it climbs no more tasks than `_parse_ast`
has descended to build them.
-/

namespace EventPipeline

open EventPipeline.Parser

/-- A call that needs a frame, and what it may nest in the room that is left. -/
def nested {Result : Type} (room : Nat) (call : Nat → Except PyError Result) :
    Except PyError Result :=
  match room with
  | 0 => .error .recursionError
  | room + 1 => call room

mutual
/-- `_parse_ast` with room for so many nested calls. -/
def parseAstWithin : Ast → Nat → Heap → Except PyError (Parsed × Heap)
  | .binOp op left right, room, heap => nested room fun room => do
      let (leftNode, heap) ← parseAstWithin left room heap
      let (rightNode, heap) ← parseAstWithin right room heap
      combine heap op leftNode rightNode
  | .taskName value, room, heap =>
      nested room fun _ => .ok (.task heap.size, heap.alloc { event := value })
  | .conditionalBinOP parent exprGroup, room, heap => nested room fun room => do
      let (leftNode, heap) ← parseBranchWithin 0 exprGroup room heap
      let (rightNode, heap) ← parseBranchWithin 1 exprGroup room heap
      let leftNode ← leftNode.getRoot heap
      let rightNode ← rightNode.getRoot heap
      let event ← taskValue parent
      let id := heap.size
      let heap := heap.alloc { event := event }
      let heap := attachBranch (attachBranch heap id rightNode) id leftNode
      let heap ← parseExtrasWithin id exprGroup room heap
      return (.task id, heap)
  | .descriptor value, room, heap => nested room fun _ => .ok (.number value, heap)
  | .number value, room, heap => nested room fun _ => .ok (.number value, heap)

/-- The branch that a group stores under a descriptor; `_parse_ast` is called on `None` too. -/
def parseBranchWithin (key : Nat) : List (Nat × Ast) → Nat → Heap →
    Except PyError (Parsed × Heap)
  | [], room, heap => nested room fun _ => .ok (.absent, heap)
  | (other, branch) :: rest, room, heap =>
      if other = key then parseAstWithin branch room heap
      else parseBranchWithin key rest room heap

def parseExtrasWithin (parent : TaskId) : List (Nat × Ast) → Nat → Heap → Except PyError Heap
  | [], _, heap => .ok heap
  | (key, branch) :: rest, room, heap =>
      if key ≠ 1 ∧ key ≠ 0 then do
        let (node, heap) ← parseAstWithin branch room heap
        let heap ← attachCustom heap parent branch node
        parseExtrasWithin parent rest room heap
      else
        parseExtrasWithin parent rest room heap
end

mutual
/-- How deep the calls of `_parse_ast` on a tree nest. -/
def parseCalls : Ast → Nat
  | .binOp _ left right => max (parseCalls left) (parseCalls right) + 1
  | .conditionalBinOP _ exprGroup =>
      max (branchCalls 0 exprGroup) (max (branchCalls 1 exprGroup) (extraCalls exprGroup)) + 1
  | .taskName _ | .descriptor _ | .number _ => 1

def branchCalls (key : Nat) : List (Nat × Ast) → Nat
  | [] => 1
  | (other, branch) :: rest => if other = key then parseCalls branch else branchCalls key rest

def extraCalls : List (Nat × Ast) → Nat
  | [] => 0
  | (key, branch) :: rest =>
      if key ≠ 1 ∧ key ≠ 0 then max (parseCalls branch) (extraCalls rest) else extraCalls rest
end

/-- `build_pipeline_from_execution_code` under the recursion limit. -/
def buildPipelineWithin (interpreter : PyInterpreter) (lexer : Lexer) (code : String) :
    Except PyError (TaskId × Heap) × Lexer :=
  if code = "" then
    (.error (.indexError "No pointy code provided"), lexer)
  else
    let parsed := pointyParserWithin interpreter lexer code
    (do
      let ast ← parsed.1
      let (tail, heap) ← parseAstWithin ast (interpreter.builderRoom parsed.2.requested) .empty
      match tail with
      | .task id => return (← rootOf heap id, heap)
      | .number _ => throw (.attributeError "'int' object has no attribute 'get_root'")
      | .absent => throw (.attributeError "'NoneType' object has no attribute 'get_root'"),
      parsed.2)

/-! ## Room for all calls -/

/-- With room for its calls a computation does what it does without a limit; with less it overflows,
unless it raises before. -/
def AgreesWithin {Result : Type} (calls room : Nat) (within unlimited : Except PyError Result) :
    Prop :=
  (calls ≤ room ∧ within = unlimited) ∨
    (room < calls ∧ (within = .error .recursionError ∨
      ∃ error, unlimited = .error error ∧ within = .error error))

namespace AgreesWithin

variable {Result After : Type} {calls room : Nat} {within unlimited : Except PyError Result}

theorem refl (result : Except PyError Result) : AgreesWithin 0 room result result :=
  .inl ⟨Nat.zero_le room, rfl⟩

theorem nested {call : Nat → Except PyError Result}
    (agrees : ∀ room, AgreesWithin calls room (call room) unlimited) :
    AgreesWithin (calls + 1) room (EventPipeline.nested room call) unlimited := by
  cases room with
  | zero => exact .inr ⟨Nat.succ_pos calls, .inl rfl⟩
  | succ room =>
      rcases agrees room with ⟨fits, same⟩ | ⟨deep, raised⟩
      · exact .inl ⟨Nat.succ_le_succ fits, same⟩
      · exact .inr ⟨Nat.succ_lt_succ deep, raised⟩

theorem bind {first second : Nat} {next nextUnlimited : Result → Except PyError After}
    (agrees : AgreesWithin first room within unlimited)
    (later : ∀ result, unlimited = .ok result →
      AgreesWithin second room (next result) (nextUnlimited result)) :
    AgreesWithin (max first second) room (within >>= next) (unlimited >>= nextUnlimited) := by
  rcases agrees with ⟨fits, same⟩ | ⟨deep, overflows | ⟨error, raised, same⟩⟩
  · subst same
    cases made : within with
    | error error =>
        by_cases whole : max first second ≤ room
        · exact .inl ⟨whole, rfl⟩
        · exact .inr ⟨Nat.not_le.mp whole, .inr ⟨error, rfl, rfl⟩⟩
    | ok result =>
        rcases later result made with ⟨fits', same⟩ | ⟨deep, raised⟩
        · exact .inl ⟨Nat.max_le.mpr ⟨fits, fits'⟩, same⟩
        · exact .inr ⟨Nat.lt_of_lt_of_le deep (Nat.le_max_right _ _), raised⟩
  · subst overflows
    exact .inr ⟨Nat.lt_of_lt_of_le deep (Nat.le_max_left _ _), .inl rfl⟩
  · subst raised same
    exact .inr ⟨Nat.lt_of_lt_of_le deep (Nat.le_max_left _ _), .inr ⟨error, rfl, rfl⟩⟩

theorem bind_same {next nextUnlimited : Result → Except PyError After}
    (result : Except PyError Result)
    (later : ∀ value, result = .ok value →
      AgreesWithin calls room (next value) (nextUnlimited value)) :
    AgreesWithin calls room (result >>= next) (result >>= nextUnlimited) := by
  have whole := (refl result).bind later
  rw [Nat.zero_max] at whole
  exact whole

theorem andThen (agrees : AgreesWithin calls room within unlimited)
    (next : Result → Except PyError After) :
    AgreesWithin calls room (within >>= next) (unlimited >>= next) := by
  have whole := agrees.bind fun result _ => refl (next result)
  rw [Nat.max_zero] at whole
  exact whole

end AgreesWithin

mutual
theorem parseAstWithin_agrees : ∀ (ast : Ast) (room : Nat) (heap : Heap),
    AgreesWithin (parseCalls ast) room (parseAstWithin ast room heap) (parseAst ast heap)
  | .binOp op left right, room, heap => by
      rw [parseAstWithin, parseCalls, parseAst]
      refine .nested fun room => ?_
      refine (parseAstWithin_agrees left room heap).bind ?_
      rintro ⟨leftNode, heap⟩ _
      exact (parseAstWithin_agrees right room heap).andThen _
  | .taskName value, room, heap => by
      rw [parseAstWithin, parseCalls, parseAst]
      exact .nested fun room => .refl _
  | .descriptor value, room, heap => by
      rw [parseAstWithin, parseCalls, parseAst]
      exact .nested fun room => .refl _
  | .number value, room, heap => by
      rw [parseAstWithin, parseCalls, parseAst]
      exact .nested fun room => .refl _
  | .conditionalBinOP parent exprGroup, room, heap => by
      rw [parseAstWithin, parseCalls, parseAst]
      refine .nested fun room => ?_
      refine (parseBranchWithin_agrees 0 exprGroup room heap).bind ?_
      rintro ⟨leftNode, heap⟩ _
      refine (parseBranchWithin_agrees 1 exprGroup room heap).bind ?_
      rintro ⟨rightNode, heap⟩ _
      refine AgreesWithin.bind_same _ fun leftNode _ => ?_
      refine AgreesWithin.bind_same _ fun rightNode _ => ?_
      refine AgreesWithin.bind_same _ fun event _ => ?_
      exact (parseExtrasWithin_agrees heap.size exprGroup room _).andThen _

theorem parseBranchWithin_agrees (key : Nat) : ∀ (group : List (Nat × Ast)) (room : Nat)
    (heap : Heap), AgreesWithin (branchCalls key group) room (parseBranchWithin key group room heap)
      (parseBranch key group heap)
  | [], room, heap => by
      rw [parseBranchWithin, branchCalls, parseBranch]
      exact .nested fun room => .refl _
  | (other, branch) :: rest, room, heap => by
      rw [parseBranchWithin, branchCalls, parseBranch]
      by_cases same : other = key
      · rw [if_pos same, if_pos same, if_pos same]
        exact parseAstWithin_agrees branch room heap
      · rw [if_neg same, if_neg same, if_neg same]
        exact parseBranchWithin_agrees key rest room heap

theorem parseExtrasWithin_agrees (parent : TaskId) : ∀ (group : List (Nat × Ast)) (room : Nat)
    (heap : Heap), AgreesWithin (extraCalls group) room (parseExtrasWithin parent group room heap)
      (parseExtras parent group heap)
  | [], room, heap => by
      rw [parseExtrasWithin, extraCalls, parseExtras]
      exact .refl _
  | (key, branch) :: rest, room, heap => by
      rw [parseExtrasWithin, extraCalls, parseExtras]
      by_cases custom : key ≠ 1 ∧ key ≠ 0
      · rw [if_pos custom, if_pos custom, if_pos custom]
        refine (parseAstWithin_agrees branch room heap).bind ?_
        rintro ⟨node, heap⟩ _
        refine AgreesWithin.bind_same _ fun heap _ => ?_
        exact parseExtrasWithin_agrees parent rest room heap
      · rw [if_neg custom, if_neg custom, if_neg custom]
        exact parseExtrasWithin_agrees parent rest room heap
end

/-! ## Short scripts -/

theorem branchCalls_le {key bound : Nat} (positive : 0 < bound) :
    ∀ {group : List (Nat × Ast)}, (∀ entry ∈ group, parseCalls entry.2 ≤ bound) →
      branchCalls key group ≤ bound
  | [], _ => positive
  | (other, branch) :: rest, each => by
      rw [branchCalls]
      split
      · exact each (other, branch) List.mem_cons_self
      · exact branchCalls_le positive fun entry member => each entry (List.mem_cons_of_mem _ member)

theorem extraCalls_le {bound : Nat} :
    ∀ {group : List (Nat × Ast)}, (∀ entry ∈ group, parseCalls entry.2 ≤ bound) →
      extraCalls group ≤ bound
  | [], _ => Nat.zero_le bound
  | (key, branch) :: rest, each => by
      have later := extraCalls_le fun entry member => each entry (List.mem_cons_of_mem _ member)
      rw [extraCalls]
      split
      · exact Nat.max_le.mpr ⟨each (key, branch) List.mem_cons_self, later⟩
      · exact later

theorem parseCalls_pos (ast : Ast) : 0 < parseCalls ast := by
  cases ast with
  | binOp op left right | conditionalBinOP parent exprGroup =>
      rw [parseCalls]
      exact Nat.succ_pos _
  | taskName value | descriptor value | number value =>
      rw [parseCalls]
      exact Nat.one_pos

mutual
theorem Parser.TaskExpr.parseCalls_le : ∀ task : TaskExpr,
    parseCalls task.ast ≤ task.tokens.length
  | .name name => by
      rw [TaskExpr.ast, parseCalls, TaskExpr.tokens]
      exact Nat.le_refl 1
  | .conditional task group => by
      have each : ∀ entry ∈ group.ast, parseCalls entry.2 ≤ group.tokens.length + 1 := by
        intro entry member
        rw [group.ast_eq] at member
        rcases List.mem_map.mp member with ⟨⟨descriptor, branch⟩, stored, rfl⟩
        have listed := (Group.mem_dict stored).1
        have calls := Parser.Group.parseCalls_le group branch listed
        have shorter := Group.length_le listed
        dsimp only
        omega
      have left := @branchCalls_le 0 _ (Nat.succ_pos _) _ each
      have right := @branchCalls_le 1 _ (Nat.succ_pos _) _ each
      have extra := extraCalls_le each
      have positive := task.length_pos
      rw [TaskExpr.ast, parseCalls, TaskExpr.tokens, List.length_append, List.length_cons,
        List.length_append, List.length_singleton]
      omega

theorem Parser.Item.parseCalls_le : ∀ item : Item, parseCalls item.ast ≤ item.tokens.length
  | .task task => task.parseCalls_le
  | .prefixed factor task => by
      have calls := task.parseCalls_le
      rw [Item.ast, parseCalls, parseCalls, Item.tokens, List.length_cons, List.length_cons]
      omega
  | .postfixed task factor => by
      have calls := task.parseCalls_le
      have positive := task.length_pos
      rw [Item.ast, parseCalls, parseCalls, Item.tokens, List.length_append]
      simp only [List.length_cons, List.length_nil]
      omega
  | .described descriptor arrow item => by
      have calls := Parser.Item.parseCalls_le item
      rw [Item.ast, parseCalls, parseCalls, Item.tokens, List.length_cons, List.length_cons]
      omega

theorem Parser.Chain.parseCalls_le : ∀ chain : Chain, parseCalls chain.ast ≤ chain.tokens.length
  | .item only => only.parseCalls_le
  | .link chain link last => by
      have left := Parser.Chain.parseCalls_le chain
      have right := last.parseCalls_le
      rw [Chain.ast, parseCalls, Chain.tokens, List.length_append, List.length_cons]
      have positive : 0 < chain.tokens.length := Nat.lt_of_lt_of_le (parseCalls_pos chain.ast) left
      omega

theorem Parser.Group.parseCalls_le : ∀ (group : Group) (chain : Chain), chain ∈ group.chains →
    parseCalls chain.ast ≤ chain.tokens.length
  | .pair first second, chain, member => by
      have left := Parser.Chain.parseCalls_le first
      have right := Parser.Chain.parseCalls_le second
      rcases List.mem_pair.mp member with same | same
      · exact same ▸ left
      · exact same ▸ right
  | .more group last, chain, member => by
      have earlier := Parser.Group.parseCalls_le group
      have added := Parser.Chain.parseCalls_le last
      rcases List.mem_append.mp member with listed | same
      · exact earlier chain listed
      · exact List.mem_singleton.mp same ▸ added
end

end EventPipeline
