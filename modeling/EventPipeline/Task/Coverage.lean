import EventPipeline.Task.Acceptance

/-! # No task is dropped

Every task name of an accepted script becomes a task of the tree, unless a group
has a branch without a descriptor or two branches with the same one. Whether it
has can be read off the tokens.
-/

namespace EventPipeline

open EventPipeline.Parser

/-! ## The descriptors of the branches of each group -/

def branchKey : List Token → Option Nat
  | .number descriptor :: .pointer :: _ => some descriptor
  | .number descriptor :: .ppointer :: _ => some descriptor
  | _ => none

/-- Collect the branch descriptors of each group, with the groups that are still
open on a stack. -/
def scanGroups : List Token → List (List (Option Nat)) → List (List (Option Nat)) →
    List (List (Option Nat))
  | [], _, closed => closed
  | .lparen :: rest, opened, closed => scanGroups rest ([branchKey rest] :: opened) closed
  | .seperator :: rest, keys :: opened, closed =>
      scanGroups rest ((branchKey rest :: keys) :: opened) closed
  | .rparen :: rest, keys :: opened, closed => scanGroups rest opened (keys :: closed)
  | _ :: rest, opened, closed => scanGroups rest opened closed

/-- The branch descriptors of each group of a script. -/
def groupKeys (tokens : List Token) : List (List (Option Nat)) :=
  scanGroups tokens [] []

example : groupKeys (tokensOf "A(0->B(2->C,D),0->E)") =
    [[some 0, some 0], [none, some 2]] := by
  decide

/-- Every branch starts with a descriptor and no two of one group with the same. -/
def DistinctBranches (groups : List (List (Option Nat))) : Prop :=
  ∀ keys ∈ groups, none ∉ keys ∧ keys.Nodup

instance (groups : List (List (Option Nat))) : Decidable (DistinctBranches groups) :=
  inferInstanceAs (Decidable (∀ keys ∈ groups, none ∉ keys ∧ keys.Nodup))

mutual
def Parser.TaskExpr.groups : TaskExpr → List (List (Option Nat))
  | .name _ => []
  | .conditional task group =>
      Parser.Group.keys group :: (Parser.Group.inner group ++ Parser.TaskExpr.groups task)

def Parser.Item.groups : Item → List (List (Option Nat))
  | .task task => Parser.TaskExpr.groups task
  | .prefixed _ task => Parser.TaskExpr.groups task
  | .postfixed task _ => Parser.TaskExpr.groups task
  | .described _ _ item => Parser.Item.groups item

def Parser.Chain.groups : Chain → List (List (Option Nat))
  | .item item => Parser.Item.groups item
  | .link chain _ item => Parser.Item.groups item ++ Parser.Chain.groups chain

/-- The descriptors of the branches, the last branch first. -/
def Parser.Group.keys : Group → List (Option Nat)
  | .pair first second => [second.key, first.key]
  | .more group chain => chain.key :: Parser.Group.keys group

/-- The groups inside the branches. -/
def Parser.Group.inner : Group → List (List (Option Nat))
  | .pair first second => Parser.Chain.groups second ++ Parser.Chain.groups first
  | .more group chain => Parser.Chain.groups chain ++ Parser.Group.inner group
end

theorem branchKey_task (task : TaskExpr) (rest : List Token) :
    branchKey (task.tokens ++ rest) = none := by
  cases task with
  | name name => rfl
  | conditional task group =>
      have inner := branchKey_task task (.lparen :: (group.tokens ++ [.rparen]) ++ rest)
      simpa [TaskExpr.tokens] using inner

theorem branchKey_item (item : Item) (rest : List Token) :
    branchKey (item.tokens ++ rest) = item.key := by
  cases item with
  | task task => exact branchKey_task task rest
  | prefixed factor task => rfl
  | postfixed task factor =>
      have inner := branchKey_task task ([.retry, .number factor] ++ rest)
      simpa [Item.tokens, Item.key] using inner
  | described descriptor arrow item => cases arrow <;> rfl

theorem branchKey_chain : ∀ (chain : Chain) (rest : List Token),
    branchKey (chain.tokens ++ rest) = chain.key
  | .item item, rest => branchKey_item item rest
  | .link chain link item, rest => by
      have inner := branchKey_chain chain (link.token :: item.tokens ++ rest)
      simpa [Chain.tokens, Chain.key, Chain.first] using inner

mutual
theorem scanGroups_task : ∀ (task : TaskExpr) (rest : List Token)
    (opened closed : List (List (Option Nat))),
    scanGroups (task.tokens ++ rest) opened closed =
      scanGroups rest opened (task.groups ++ closed)
  | .name _, rest, opened, closed => rfl
  | .conditional task group, rest, opened, closed => by
      have parent := scanGroups_task task (.lparen :: (group.tokens ++ .rparen :: rest))
        opened closed
      have branches := scanGroups_group group (.rparen :: rest) opened
        (task.groups ++ closed)
      simp only [TaskExpr.tokens, List.append_assoc, List.cons_append, List.nil_append,
        TaskExpr.groups] at parent branches ⊢
      rw [parent, scanGroups, branches, scanGroups]

theorem scanGroups_item : ∀ (item : Item) (rest : List Token)
    (opened closed : List (List (Option Nat))),
    scanGroups (item.tokens ++ rest) opened closed =
      scanGroups rest opened (item.groups ++ closed)
  | .task task, rest, opened, closed => scanGroups_task task rest opened closed
  | .prefixed factor task, rest, opened, closed => scanGroups_task task rest opened closed
  | .postfixed task factor, rest, opened, closed => by
      have inner := scanGroups_task task (.retry :: .number factor :: rest) opened closed
      simpa [Item.tokens, Item.groups, scanGroups] using inner
  | .described descriptor arrow item, rest, opened, closed => by
      have inner := scanGroups_item item rest opened closed
      cases arrow <;> simpa [Item.tokens, Item.groups, Arrow.token, scanGroups] using inner

theorem scanGroups_chain : ∀ (chain : Chain) (rest : List Token)
    (opened closed : List (List (Option Nat))),
    scanGroups (chain.tokens ++ rest) opened closed =
      scanGroups rest opened (chain.groups ++ closed)
  | .item item, rest, opened, closed => scanGroups_item item rest opened closed
  | .link chain link item, rest, opened, closed => by
      have first := scanGroups_chain chain (link.token :: (item.tokens ++ rest)) opened closed
      have second := scanGroups_item item rest opened (chain.groups ++ closed)
      simp only [Chain.tokens, List.append_assoc, List.cons_append, Chain.groups]
        at first second ⊢
      rw [first]
      cases link <;> simpa [Link.token, scanGroups] using second

theorem scanGroups_group : ∀ (group : Group) (rest : List Token)
    (opened closed : List (List (Option Nat))),
    scanGroups (group.tokens ++ rest)
        ([branchKey (group.tokens ++ rest)] :: opened) closed =
      scanGroups rest (group.keys :: opened) (group.inner ++ closed)
  | .pair first second, rest, opened, closed => by
      have start := branchKey_chain first (.seperator :: (second.tokens ++ rest))
      have left := scanGroups_chain first (.seperator :: (second.tokens ++ rest))
        ([first.key] :: opened) closed
      have right := scanGroups_chain second rest ([second.key, first.key] :: opened)
        (first.groups ++ closed)
      simp only [Group.tokens, List.append_assoc, List.cons_append, Group.keys, Group.inner]
      rw [start, left, scanGroups, branchKey_chain, right]
  | .more group chain, rest, opened, closed => by
      have left := scanGroups_group group (.seperator :: (chain.tokens ++ rest)) opened closed
      have right := scanGroups_chain chain rest ((chain.key :: group.keys) :: opened)
        (group.inner ++ closed)
      simp only [Group.tokens, List.append_assoc, List.cons_append, Group.keys, Group.inner]
      rw [left, scanGroups, branchKey_chain, right]
end

theorem groupKeys_chain (chain : Chain) : groupKeys chain.tokens = chain.groups := by
  have scanned := scanGroups_chain chain [] [] []
  simpa [groupKeys, scanGroups] using scanned

/-! ## Task names -/

def tasknames (tokens : List Token) : List String :=
  tokens.filterMap Token.taskname?

@[simp] theorem tasknames_append (left right : List Token) :
    tasknames (left ++ right) = tasknames left ++ tasknames right := by
  simp [tasknames]

@[simp] theorem tasknames_nil : tasknames [] = [] := rfl

@[simp] theorem tasknames_cons (token : Token) (rest : List Token) :
    tasknames (token :: rest) = token.taskname?.toList ++ tasknames rest := by
  cases token <;> rfl

mutual
/-- The events of a tree in the order of `bf_traversal`. -/
def TaskTree.events : TaskTree → List String
  | .node _ label failure sink success customs =>
      label.event :: (failure.events ++ (sink.events ++ (success.events ++ customs.events)))

def Slot.events : Slot → List String
  | .vacant => []
  | .child _ tree => tree.events

def Customs.events : Customs → List String
  | .nil => []
  | .cons _ _ tree rest => tree.events ++ rest.events
end

/-- The events cover the names when the branches are distinct, and are fewer
than the names otherwise. -/
def Covers (groups : List (List (Option Nat))) (events names : List String) : Prop :=
  (DistinctBranches groups → events.Perm names) ∧
    (¬DistinctBranches groups → events.length < names.length)

theorem Covers.length_le {groups : List (List (Option Nat))} {events names : List String}
    (covers : Covers groups events names) : events.length ≤ names.length := by
  by_cases distinct : DistinctBranches groups
  · exact (covers.1 distinct).length_eq.le
  · exact (covers.2 distinct).le

theorem distinctBranches_append (left right : List (List (Option Nat))) :
    DistinctBranches (left ++ right) ↔ DistinctBranches left ∧ DistinctBranches right := by
  exact List.forall_mem_append

theorem Covers.nil : Covers [] [] [] :=
  ⟨fun _ => .nil, fun indistinct => absurd (by simp [DistinctBranches]) indistinct⟩

theorem Covers.append {left right : List (List (Option Nat))}
    {leftEvents rightEvents leftNames rightNames : List String}
    (leftCovers : Covers left leftEvents leftNames)
    (rightCovers : Covers right rightEvents rightNames) :
    Covers (left ++ right) (leftEvents ++ rightEvents) (leftNames ++ rightNames) := by
  rw [Covers, distinctBranches_append]
  have leftLength := leftCovers.length_le
  have rightLength := rightCovers.length_le
  refine ⟨fun both => (leftCovers.1 both.1).append (rightCovers.1 both.2), fun missing => ?_⟩
  simp only [List.length_append]
  rcases not_and_or.mp missing with indistinct | indistinct
  · have fewer := leftCovers.2 indistinct
    omega
  · have fewer := rightCovers.2 indistinct
    omega

theorem Covers.congr {groups others : List (List (Option Nat))}
    {events otherEvents names otherNames : List String} (covers : Covers groups events names)
    (same : DistinctBranches groups ↔ DistinctBranches others)
    (sameEvents : otherEvents.Perm events) (sameNames : names.Perm otherNames) :
    Covers others otherEvents otherNames := by
  rw [Covers, ← same, sameEvents.length_eq, ← sameNames.length_eq]
  exact ⟨fun distinct => sameEvents.trans ((covers.1 distinct).trans sameNames), covers.2⟩

/-! ## Chains of items -/

/-- Nothing is lost when something is attached to the tree. -/
def TaskTree.Open (tree : TaskTree) : Prop :=
  tree.sink = .vacant ∧ (tree.isConditional = true ∨ tree.success = .vacant)

theorem TaskTree.attach_events_perm {tree next : TaskTree} {pipe : PipeType}
    (intact : tree.Open) : (tree.attach pipe next).events.Perm (tree.events ++ next.events) := by
  rcases tree with ⟨id, label, failure, sink, success, customs⟩
  rcases intact with ⟨unsunk, conditional⟩
  simp only [TaskTree.sink, TaskTree.success] at unsunk conditional
  subst unsunk
  rw [List.perm_iff_count]
  intro event
  simp only [TaskTree.attach]
  split
  · simp only [TaskTree.events, Slot.events, List.count_append, List.count_cons,
      List.count_nil]
    omega
  · rename_i unconditional
    rcases conditional with conditional | unfollowed
    · exact absurd conditional unconditional
    · subst unfollowed
      simp only [TaskTree.events, Slot.events, List.count_append, List.count_cons,
        List.count_nil]
      omega

theorem TaskTree.attach_events_length_le (tree next : TaskTree) (pipe : PipeType) :
    (tree.attach pipe next).events.length ≤ tree.events.length + next.events.length := by
  rcases tree with ⟨id, label, failure, sink, success, customs⟩
  simp only [TaskTree.attach]
  split <;>
    simp only [TaskTree.events, Slot.events, List.length_append, List.length_cons] <;> omega

def spineEvents (first : TaskTree) (rest : List (PipeType × TaskTree)) : List String :=
  first.events ++ rest.flatMap fun entry => entry.2.events

theorem close_events_length_le (first : TaskTree) (rest : List (PipeType × TaskTree)) :
    (close first rest).events.length ≤ (spineEvents first rest).length := by
  induction rest generalizing first with
  | nil => simp [close, spineEvents]
  | cons entry rest induction =>
      have attached := first.attach_events_length_le (close entry.2 rest) entry.1
      have closed := induction entry.2
      simp only [close, spineEvents, List.flatMap_cons, List.length_append] at closed ⊢
      omega

theorem close_events_perm {first : TaskTree} {rest : List (PipeType × TaskTree)}
    (firstOpen : first.Open) (restOpen : ∀ entry ∈ rest, TaskTree.Open entry.2) :
    (close first rest).events.Perm (spineEvents first rest) := by
  induction rest generalizing first with
  | nil => simp [close, spineEvents]
  | cons entry rest induction =>
      have closed := induction (restOpen entry (by simp))
        fun other member => restOpen other (List.mem_cons_of_mem _ member)
      refine (TaskTree.attach_events_perm firstOpen).trans ?_
      simpa [spineEvents] using closed.append_left first.events

structure ItemCovered (groups : List (List (Option Nat))) (tree : TaskTree)
    (names : List String) : Prop where
  covers : Covers groups tree.events names
  unsunk : tree.sink = .vacant
  intact : DistinctBranches groups → tree.Open

/-- What is known of the items of a chain. -/
structure ChainCovered (groups : List (List (Option Nat))) (first : TaskTree)
    (rest : List (PipeType × TaskTree)) (names : List String) : Prop where
  covers : Covers groups (spineEvents first rest) names
  intact : DistinctBranches groups → first.Open ∧ ∀ entry ∈ rest, TaskTree.Open entry.2

theorem ChainCovered.close {groups : List (List (Option Nat))} {first : TaskTree}
    {rest : List (PipeType × TaskTree)} {names : List String}
    (covered : ChainCovered groups first rest names) :
    Covers groups (close first rest).events names := by
  constructor
  · intro distinct
    have intact := covered.intact distinct
    exact (close_events_perm intact.1 intact.2).trans (covered.covers.1 distinct)
  · intro indistinct
    exact (close_events_length_le first rest).trans_lt (covered.covers.2 indistinct)

theorem ChainCovered.push {chainGroups itemGroups : List (List (Option Nat))}
    {first tree : TaskTree} {rest : List (PipeType × TaskTree)} {pipe : PipeType}
    {chainNames itemNames : List String}
    (chain : ChainCovered chainGroups first rest chainNames)
    (item : ItemCovered itemGroups tree itemNames) :
    ChainCovered (itemGroups ++ chainGroups) first (rest ++ [(pipe, tree)])
      (chainNames ++ itemNames) := by
  refine ⟨?_, fun distinct => ?_⟩
  · have events : spineEvents first (rest ++ [(pipe, tree)]) =
        spineEvents first rest ++ tree.events := by simp [spineEvents]
    rw [events]
    refine (chain.covers.append item.covers).congr ?_ (.refl _) (.refl _)
    rw [distinctBranches_append, distinctBranches_append, and_comm]
  · rw [distinctBranches_append] at distinct
    have intact := chain.intact distinct.2
    refine ⟨intact.1, fun entry member => ?_⟩
    rcases List.mem_append.mp member with member | member
    · exact intact.2 entry member
    · rw [List.mem_singleton.mp member]
      exact item.intact distinct.1

/-! ## Groups -/

def chainNames (chain : Chain) : List String :=
  tasknames chain.tokens

mutual
theorem tasknames_task_pos : ∀ task : TaskExpr, 0 < (tasknames task.tokens).length
  | .name _ => by simp [TaskExpr.tokens, Token.taskname?]
  | .conditional task group => by
      have named := tasknames_task_pos task
      simp only [TaskExpr.tokens, tasknames_append, List.length_append]
      omega

theorem tasknames_item_pos : ∀ item : Item, 0 < (tasknames item.tokens).length
  | .task task => tasknames_task_pos task
  | .prefixed _ task => tasknames_task_pos task
  | .postfixed task _ => by
      have named := tasknames_task_pos task
      simp only [Item.tokens, tasknames_append, List.length_append]
      omega
  | .described _ arrow item => by
      have named := tasknames_item_pos item
      cases arrow <;> exact named
end

theorem chainNames_pos (chain : Chain) : 0 < (chainNames chain).length := by
  cases chain with
  | item item => exact tasknames_item_pos item
  | link chain link item =>
      have named := chainNames_pos chain
      simp only [chainNames, Chain.tokens, tasknames_append, List.length_append] at named ⊢
      omega

def dictNames (dict : List (Nat × Chain)) : List String :=
  (dict.map Prod.snd).flatMap chainNames

theorem dictNames_insert {key : Nat} {dict : List (Nat × Chain)} (chain : Chain)
    (present : key ∈ OrderedDict.keys dict) :
    (dictNames (OrderedDict.insert key chain dict)).length <
      (dictNames dict).length + (chainNames chain).length := by
  induction dict with
  | nil => simp [OrderedDict.keys] at present
  | cons entry rest induction =>
      rcases entry with ⟨other, old⟩
      have named := chainNames_pos old
      by_cases same : other = key
      · simp only [OrderedDict.insert, same, if_true, dictNames, List.map_cons,
          List.flatMap_cons, List.length_append]
        omega
      · have inRest : key ∈ OrderedDict.keys rest := by
          simp only [OrderedDict.keys, List.map_cons, List.mem_cons] at present ⊢
          exact present.resolve_left fun equal => same equal.symm
        have fewer := induction inRest
        simp only [OrderedDict.insert, same, if_false, dictNames, List.map_cons,
          List.flatMap_cons, List.length_append] at fewer ⊢
        omega

/-- The branches of a list can be stored in the dictionary without replacing
one. -/
def Storable (stored : List (Nat × Chain)) (chains : List Chain) : Prop :=
  none ∉ chains.map Chain.key ∧
    ((OrderedDict.keys stored).map some ++ chains.map Chain.key).Nodup

theorem foldl_storeBranch (chains : List Chain) : ∀ stored : List (Nat × Chain),
    (OrderedDict.keys stored).Nodup →
    (Storable stored chains →
      (chains.foldl storeBranch stored).map Prod.snd = stored.map Prod.snd ++ chains) ∧
    (¬Storable stored chains →
      (dictNames (chains.foldl storeBranch stored)).length <
        (dictNames stored).length + (chains.flatMap chainNames).length) := by
  induction chains with
  | nil =>
      intro stored nodup
      refine ⟨by simp, fun missing => absurd ?_ missing⟩
      simpa [Storable] using nodup.map (Option.some_injective _)
  | cons chain rest induction =>
      intro stored nodup
      have named := chainNames_pos chain
      have bounded : ∀ stored : List (Nat × Chain), (OrderedDict.keys stored).Nodup →
          (dictNames (rest.foldl storeBranch stored)).length ≤
            (dictNames stored).length + (rest.flatMap chainNames).length := by
        intro stored nodup
        by_cases storable : Storable stored rest
        · rw [dictNames, (induction stored nodup).1 storable]
          simp [dictNames]
        · exact ((induction stored nodup).2 storable).le
      simp only [List.foldl_cons, List.flatMap_cons, List.length_append]
      rcases keyed : chain.key with _ | key
      · -- a branch without a descriptor is not stored at all
        have unchanged : storeBranch stored chain = stored := by simp [storeBranch, keyed]
        have kept := bounded stored nodup
        refine ⟨fun storable => absurd storable.1 (by simp [keyed]), fun _ => ?_⟩
        rw [unchanged]
        omega
      · have inserted : storeBranch stored chain = OrderedDict.insert key chain stored := by
          simp [storeBranch, keyed]
        rw [inserted]
        have insertedNodup := OrderedDict.nodup_keys_insert key chain nodup
        by_cases present : key ∈ OrderedDict.keys stored
        · have fewer := dictNames_insert chain present
          have kept := bounded _ insertedNodup
          refine ⟨fun storable => absurd storable.2 ?_, fun _ => by omega⟩
          intro distinct
          exact (List.nodup_append.mp distinct).2.2 (some key) (by simpa using present)
            (some key) (by simp [keyed]) rfl
        · have appended := OrderedDict.insert_of_not_mem chain present
          have same : Storable (stored ++ [(key, chain)]) rest ↔
              Storable stored (chain :: rest) := by
            simp [Storable, OrderedDict.keys, keyed]
          rw [appended] at insertedNodup ⊢
          have step := induction _ insertedNodup
          rw [same] at step
          refine ⟨fun storable => ?_, fun missing => ?_⟩
          · rw [step.1 storable]
            simp
          · have fewer := step.2 missing
            simp only [dictNames, List.map_append, List.map_cons, List.map_nil,
              List.flatMap_append, List.flatMap_cons, List.flatMap_nil, List.append_nil,
              List.length_append] at fewer ⊢
            omega

theorem Parser.Group.keys_eq : ∀ group : Group,
    group.keys = (group.chains.map Chain.key).reverse
  | .pair _ _ => rfl
  | .more group chain => by
      simp [Group.keys, Group.chains, Parser.Group.keys_eq group]

theorem Parser.Group.tasknames_tokens : ∀ group : Group,
    tasknames group.tokens = group.chains.flatMap chainNames
  | .pair first second => by
      simp only [Group.tokens, tasknames_append, Group.chains, List.flatMap_cons,
        List.flatMap_nil, List.append_nil]
      rfl
  | .more group chain => by
      simp only [Group.tokens, tasknames_append, Group.chains, List.flatMap_append,
        List.flatMap_cons, List.flatMap_nil, List.append_nil,
        Parser.Group.tasknames_tokens group]
      rfl

theorem Parser.Group.mem_inner : ∀ (group : Group) (keys : List (Option Nat)),
    keys ∈ group.inner ↔ keys ∈ group.chains.flatMap Chain.groups
  | .pair first second, keys => by
      simp [Group.inner, Group.chains, or_comm]
  | .more group chain, keys => by
      simp [Group.inner, Group.chains, Parser.Group.mem_inner group, or_comm]

/-- A group keeps all its branches when their descriptors are distinct, and
loses names otherwise. -/
theorem Parser.Group.dict_cases (group : Group) :
    (none ∉ group.keys ∧ group.keys.Nodup → group.dict.map Prod.snd = group.chains) ∧
    (¬(none ∉ group.keys ∧ group.keys.Nodup) →
      (dictNames group.dict).length < (tasknames group.tokens).length) := by
  have folded := foldl_storeBranch group.chains [] (by simp)
  have storable : Storable [] group.chains ↔ none ∉ group.keys ∧ group.keys.Nodup := by
    simp [Storable, group.keys_eq, OrderedDict.keys]
  rw [storable] at folded
  refine ⟨fun distinct => folded.1 distinct, fun indistinct => ?_⟩
  have fewer := folded.2 indistinct
  rw [group.tasknames_tokens]
  simpa [dictNames, Group.dict] using fewer

/-! ## The branches a task keeps -/

/-- The branches of a dictionary in the order of `get_children`. -/
def orderedBranches (dict : List (Nat × Chain)) : List Chain :=
  (OrderedDict.get 0 dict).toList ++ ((OrderedDict.get 1 dict).toList ++
    (dict.filter fun entry => 1 < entry.1).map Prod.snd)

theorem orderedBranches_perm {dict : List (Nat × Chain)}
    (nodup : (OrderedDict.keys dict).Nodup) :
    (orderedBranches dict).Perm (dict.map Prod.snd) := by
  induction dict with
  | nil => exact .refl _
  | cons entry rest induction =>
      rcases entry with ⟨key, chain⟩
      rw [OrderedDict.keys, List.map_cons, List.nodup_cons] at nodup
      have ordered := induction nodup.2
      have absent := (OrderedDict.get_eq_none_iff key rest).mpr nodup.1
      simp only [orderedBranches, OrderedDict.get, List.map_cons] at ordered ⊢
      rcases key with _ | _ | key
      · rw [absent] at ordered
        simpa using ordered.cons chain
      · rw [Nat.zero_add] at absent
        rw [absent] at ordered
        simp only [Option.toList_none, List.nil_append] at ordered
        simpa using List.perm_middle.trans (ordered.cons chain)
      · rw [← List.append_assoc] at ordered ⊢
        simpa using List.perm_middle.trans (ordered.cons chain)

theorem SlotDenotes.covers {branch : Option Chain} {slot : Slot}
    (denotes : SlotDenotes branch slot)
    (covered : ∀ chain ∈ branch, ∀ first rest, chain.Denotes first rest →
      ChainCovered chain.groups first rest (chainNames chain)) :
    Covers (branch.toList.flatMap Chain.groups) slot.events
      (branch.toList.flatMap chainNames) := by
  cases denotes with
  | vacant => exact .nil
  | child denotes _ =>
      simpa [Slot.events] using (covered _ rfl _ _ denotes).close

theorem CustomsDenote.covers {dict : List (Nat × Chain)} {customs : Customs}
    (denotes : CustomsDenote dict customs)
    (covered : ∀ entry ∈ dict, ∀ first rest, entry.2.Denotes first rest →
      ChainCovered entry.2.groups first rest (chainNames entry.2)) :
    Covers (((dict.filter fun entry => 1 < entry.1).map Prod.snd).flatMap Chain.groups)
      customs.events
      (((dict.filter fun entry => 1 < entry.1).map Prod.snd).flatMap chainNames) := by
  cases denotes with
  | nil => exact .nil
  | skip small denotes =>
      have rest := CustomsDenote.covers denotes fun entry member =>
        covered entry (List.mem_cons_of_mem _ member)
      simpa [List.filter_cons, Nat.not_lt.mpr small] using rest
  | cons custom item _ denotes =>
      have rest := CustomsDenote.covers denotes fun entry member =>
        covered entry (List.mem_cons_of_mem _ member)
      have first := (covered _ List.mem_cons_self _ _ (.item item)).close
      simpa [List.filter_cons, custom, Customs.events, close] using first.append rest

theorem SlotDenotes.isVacant_eq {branch : Option Chain} {slot : Slot}
    (denotes : SlotDenotes branch slot) : slot.isVacant = branch.isNone := by
  cases denotes <;> rfl

theorem CustomsDenote.length_heads {dict : List (Nat × Chain)} {customs : Customs}
    (denotes : CustomsDenote dict customs) :
    customs.heads.length = (dict.filter fun entry => 1 < entry.1).length := by
  match denotes with
  | .nil => rfl
  | .skip small denotes =>
      simpa [List.filter_cons, Nat.not_lt.mpr small] using CustomsDenote.length_heads denotes
  | .cons custom _ _ denotes =>
      simpa [List.filter_cons, custom, Customs.heads] using CustomsDenote.length_heads denotes

theorem Parser.Group.two_le_length_chains : ∀ group : Group, 2 ≤ group.chains.length
  | .pair _ _ => Nat.le_refl 2
  | .more group chain => by
      have before := Parser.Group.two_le_length_chains group
      simp only [Group.chains, List.length_append, List.length_singleton]
      omega

theorem distinctBranches_cons (keys : List (Option Nat)) (groups : List (List (Option Nat))) :
    DistinctBranches (keys :: groups) ↔
      (none ∉ keys ∧ keys.Nodup) ∧ DistinctBranches groups := by
  simp [DistinctBranches]

theorem distinctBranches_congr {left right : List (List (Option Nat))}
    (same : ∀ keys, keys ∈ left ↔ keys ∈ right) :
    DistinctBranches left ↔ DistinctBranches right :=
  forall_congr' fun keys => imp_congr_left (same keys)

theorem isConditional_of_length {dict : List (Nat × Chain)} {id : TaskId} {label : Label}
    {failure sink success : Slot} {customs : Customs}
    (failureDenotes : SlotDenotes (OrderedDict.get 0 dict) failure)
    (successDenotes : SlotDenotes (OrderedDict.get 1 dict) success)
    (customsDenote : CustomsDenote dict customs)
    (several : 2 ≤ (orderedBranches dict).length) :
    (TaskTree.node id label failure sink success customs).isConditional = true := by
  have heads := customsDenote.length_heads
  simp only [orderedBranches, List.length_append, List.length_map, ← heads] at several
  simp only [TaskTree.isConditional, successDenotes.isVacant_eq, failureDenotes.isVacant_eq]
  cases found : customs.heads with
  | cons head rest => rfl
  | nil =>
      rw [found] at several
      cases left : OrderedDict.get 0 dict <;> cases right : OrderedDict.get 1 dict <;>
        simp [left, right] at several ⊢

theorem covered_conditional {name : String} {group : Group} {failure success : Slot}
    {customs : Customs} {id : TaskId}
    (failureDenotes : SlotDenotes (OrderedDict.get 0 group.dict) failure)
    (successDenotes : SlotDenotes (OrderedDict.get 1 group.dict) success)
    (customsDenote : CustomsDenote group.dict customs)
    (covered : ∀ entry ∈ group.dict, ∀ first rest, entry.2.Denotes first rest →
      ChainCovered entry.2.groups first rest (chainNames entry.2)) :
    ItemCovered (TaskExpr.conditional (.name name) group).groups
      (.node id { event := name } failure .vacant success customs)
      (tasknames (TaskExpr.conditional (.name name) group).tokens) := by
  have slot (key : Nat) : ∀ chain ∈ OrderedDict.get key group.dict, ∀ first rest,
      chain.Denotes first rest → ChainCovered chain.groups first rest (chainNames chain) :=
    fun chain found => covered (key, chain) (OrderedDict.mem_of_get found)
  have ordered := orderedBranches_perm group.nodup_keys_dict
  have kept := group.dict_cases
  have branches : Covers ((group.dict.map Prod.snd).flatMap Chain.groups)
      (failure.events ++ (success.events ++ customs.events)) (dictNames group.dict) := by
    refine ((failureDenotes.covers (slot 0)).append ((successDenotes.covers (slot 1)).append
      (customsDenote.covers covered))).congr ?_ (.refl _) ?_
    · rw [← List.flatMap_append, ← List.flatMap_append]
      exact distinctBranches_congr fun keys => (ordered.flatMap_right _).mem_iff
    · rw [← List.flatMap_append, ← List.flatMap_append]
      exact ordered.flatMap_right _
  have names : tasknames (TaskExpr.conditional (.name name) group).tokens =
      name :: tasknames group.tokens := by
    simp [TaskExpr.tokens, Token.taskname?]
  have groups : DistinctBranches (TaskExpr.conditional (.name name) group).groups ↔
      (none ∉ group.keys ∧ group.keys.Nodup) ∧ DistinctBranches group.inner := by
    simp [TaskExpr.groups, distinctBranches_cons]
  refine ⟨?_, rfl, fun distinct => ⟨rfl, .inl ?_⟩⟩
  · rw [Covers, groups, names]
    by_cases keyed : none ∉ group.keys ∧ group.keys.Nodup
    · have same : DistinctBranches group.inner ↔
          DistinctBranches ((group.dict.map Prod.snd).flatMap Chain.groups) := by
        rw [kept.1 keyed]
        exact distinctBranches_congr group.mem_inner
      have all : dictNames group.dict = tasknames group.tokens := by
        rw [dictNames, kept.1 keyed, group.tasknames_tokens]
      rw [and_iff_right keyed, same, ← all]
      refine ⟨fun distinct => (branches.1 distinct).cons name, fun indistinct => ?_⟩
      exact Nat.succ_lt_succ (branches.2 indistinct)
    · have fewer := kept.2 keyed
      have bounded := branches.length_le
      refine ⟨fun distinct => absurd distinct.1 keyed, fun _ => ?_⟩
      exact Nat.succ_lt_succ (Nat.lt_of_le_of_lt bounded fewer)
  · refine isConditional_of_length failureDenotes successDenotes customsDenote ?_
    rw [ordered.length_eq, kept.1 (groups.mp distinct).1]
    exact group.two_le_length_chains

/-! ## All derivations -/

theorem TaskTree.setRetries_events (tree : TaskTree) (factor : Nat) :
    (tree.setRetries factor).events = tree.events := by
  cases tree
  rfl

theorem TaskTree.setDescriptor_events (tree : TaskTree) (descriptor : Nat) (op : Operator) :
    (tree.setDescriptor descriptor op).events = tree.events := by
  cases tree
  rfl

theorem ItemCovered.setRetries {groups : List (List (Option Nat))} {tree : TaskTree}
    {names : List String} (covered : ItemCovered groups tree names) (factor : Nat) :
    ItemCovered groups (tree.setRetries factor) names := by
  have intact := covered.intact
  have unsunk := covered.unsunk
  refine ⟨tree.setRetries_events factor ▸ covered.covers, ?_, ?_⟩ <;>
  · cases tree
    assumption

theorem ItemCovered.setDescriptor {groups : List (List (Option Nat))} {tree : TaskTree}
    {names : List String} (covered : ItemCovered groups tree names) (descriptor : Nat)
    (op : Operator) : ItemCovered groups (tree.setDescriptor descriptor op) names := by
  have intact := covered.intact
  have unsunk := covered.unsunk
  refine ⟨tree.setDescriptor_events descriptor op ▸ covered.covers, ?_, ?_⟩ <;>
  · cases tree
    assumption

mutual
theorem Parser.TaskExpr.covered : ∀ (task : TaskExpr) {tree : TaskTree},
    task.Denotes tree → ItemCovered task.groups tree (tasknames task.tokens)
  | .name name, _, .name =>
      ⟨⟨fun _ => .refl _, fun indistinct => absurd (by simp [DistinctBranches, TaskExpr.groups])
        indistinct⟩, rfl, fun _ => ⟨rfl, .inr rfl⟩⟩
  | .conditional _ group, _, .conditional failure success customs =>
      covered_conditional failure success customs fun entry member first rest =>
        Parser.Group.covered group entry.2 (Group.mem_dict member).1 first rest

theorem Parser.Item.covered : ∀ (item : Item) {tree : TaskTree},
    item.Denotes tree → ItemCovered item.groups tree (tasknames item.tokens)
  | .task task, _, .task denotes => Parser.TaskExpr.covered task denotes
  | .prefixed factor task, _, .prefixed denotes => by
      have inner := (Parser.TaskExpr.covered task denotes).setRetries factor
      simpa [Item.groups, Item.tokens, Token.taskname?] using inner
  | .postfixed task factor, _, .postfixed denotes => by
      have inner := (Parser.TaskExpr.covered task denotes).setRetries factor
      simpa [Item.groups, Item.tokens, Token.taskname?] using inner
  | .described descriptor arrow item, _, .described denotes => by
      have inner := (Parser.Item.covered item denotes).setDescriptor descriptor arrow.operator
      cases arrow <;>
        simpa [Item.groups, Item.tokens, Arrow.token, Token.taskname?] using inner

theorem Parser.Chain.covered : ∀ (chain : Chain) (first : TaskTree)
    (rest : List (PipeType × TaskTree)), chain.Denotes first rest →
    ChainCovered chain.groups first rest (chainNames chain)
  | .item item, first, _, .item denotes => by
      have inner := Parser.Item.covered item denotes
      refine ⟨?_, fun distinct => ⟨inner.intact distinct, by simp⟩⟩
      simpa [spineEvents, Chain.groups, chainNames, Chain.tokens] using inner.covers
  | .link chain link item, first, _, .link chainDenotes itemDenotes => by
      have left := Parser.Chain.covered chain _ _ chainDenotes
      have right := Parser.Item.covered item itemDenotes
      have names : chainNames (.link chain link item) =
          chainNames chain ++ tasknames item.tokens := by
        cases link <;> simp [chainNames, Chain.tokens, Link.token, Token.taskname?]
      rw [names]
      exact left.push right

theorem Parser.Group.covered : ∀ (group : Group), ∀ chain ∈ group.chains,
    ∀ (first : TaskTree) (rest : List (PipeType × TaskTree)), chain.Denotes first rest →
    ChainCovered chain.groups first rest (chainNames chain)
  | .pair left right, chain, member, first, rest, denotes => by
      simp only [Group.chains, List.mem_cons, List.not_mem_nil, or_false] at member
      rcases member with equal | equal
      · rw [equal] at denotes ⊢
        exact Parser.Chain.covered left first rest denotes
      · rw [equal] at denotes ⊢
        exact Parser.Chain.covered right first rest denotes
  | .more group last, chain, member, first, rest, denotes => by
      simp only [Group.chains, List.mem_append, List.mem_singleton] at member
      rcases member with member | equal
      · exact Parser.Group.covered group chain member first rest denotes
      · rw [equal] at denotes ⊢
        exact Parser.Chain.covered last first rest denotes
end

/-! ## The heap -/

def eventOf (heap : Heap) (id : TaskId) : Option String :=
  (heap.get? id).map PipelineTask.event

mutual
theorem TaskTree.Stored.filterMap_eventOf {heap : Heap} {parent : Option TaskId} :
    ∀ {tree : TaskTree}, tree.Stored heap parent →
    tree.ids.filterMap (eventOf heap) = tree.events
  | .node id label failure sink success customs, stored => by
      have root : eventOf heap id = some label.event := by
        simp [eventOf, stored.1, TaskTree.record]
      simp only [TaskTree.ids, List.filterMap_cons, root, List.filterMap_append,
        TaskTree.events, stored.2.1.filterMap_eventOf, stored.2.2.1.filterMap_eventOf,
        stored.2.2.2.1.filterMap_eventOf, stored.2.2.2.2.filterMap_eventOf]

theorem Slot.Stored.filterMap_eventOf {heap : Heap} {parent : TaskId} :
    ∀ {slot : Slot}, slot.Stored heap parent →
    slot.ids.filterMap (eventOf heap) = slot.events
  | .vacant, _ => rfl
  | .child _ _, stored => TaskTree.Stored.filterMap_eventOf stored

theorem Customs.Stored.filterMap_eventOf {heap : Heap} {parent : TaskId} :
    ∀ {customs : Customs}, customs.Stored heap parent →
    customs.ids.filterMap (eventOf heap) = customs.events
  | .nil, _ => rfl
  | .cons _ _ _ _, stored => by
      simp only [Customs.ids, List.filterMap_append, Customs.events,
        stored.1.filterMap_eventOf, stored.2.filterMap_eventOf]
end

mutual
theorem TaskTree.length_events : ∀ tree : TaskTree, tree.events.length = tree.ids.length
  | .node id label failure sink success customs => by
      simp only [TaskTree.events, TaskTree.ids, List.length_cons, List.length_append,
        failure.length_events, sink.length_events, success.length_events,
        customs.length_events]

theorem Slot.length_events : ∀ slot : Slot, slot.events.length = slot.ids.length
  | .vacant => rfl
  | .child _ tree => tree.length_events

theorem Customs.length_events : ∀ customs : Customs,
    customs.events.length = customs.ids.length
  | .nil => rfl
  | .cons _ _ tree rest => by
      simp only [Customs.events, Customs.ids, List.length_append, tree.length_events,
        rest.length_events]
end

/-- The tasks below the root are one for each task name of the script. -/
def NoTaskDropped (pipeline : AcceptedPipeline) : Prop :=
  ∃ nodes, pipeline.heap.bfTraversal pipeline.root = some nodes ∧ nodes.Nodup ∧
    (nodes.filterMap (eventOf pipeline.heap)).Perm (tasknames (tokensOf pipeline.code)) ∧
    pipeline.heap.getTaskCount pipeline.root =
      some (tasknames (tokensOf pipeline.code)).length

/-- A task is dropped exactly when some group has a branch without a descriptor
or two branches with the same one. -/
theorem noTaskDropped_iff (pipeline : AcceptedPipeline) :
    NoTaskDropped pipeline ↔
      DistinctBranches (groupKeys (tokensOf pipeline.code)) := by
  rcases pipeline.denoted with ⟨chain, first, rest, yields, _, denotes, owned, root⟩
  have covers := (chain.covered first rest denotes).close
  have traversal := owned.stored.bfTraversal_eq owned.nodup
  have counted := owned.stored.getTaskCount_eq owned.nodup (TaskTree.id_mem_ids _)
  have events := owned.stored.filterMap_eventOf
  have size := (close first rest).length_events
  rw [close_id, ← root] at traversal counted
  rw [NoTaskDropped, yields, groupKeys_chain]
  constructor
  · rintro ⟨_, _, _, _, sameCount⟩
    by_contra indistinct
    have fewer := covers.2 indistinct
    rw [counted, Option.some_inj, ← size] at sameCount
    exact Nat.lt_irrefl _ (sameCount ▸ fewer)
  · intro distinct
    have perm := covers.1 distinct
    refine ⟨_, traversal, owned.nodup, events ▸ perm, ?_⟩
    rw [counted, ← size, perm.length_eq]
    rfl

/-- The first branch under 0 is replaced by the second. -/
theorem taskDropped_repeatedDescriptor :
    ∃ pipeline : AcceptedPipeline, pipeline.code = "A(0->B,0->C)" ∧
      ¬NoTaskDropped pipeline := by
  refine ⟨⟨.initial, "A(0->B,0->C)", 1, ⟨[
    { event := "C", descriptor := some 0, descriptorPipe := some .pointer,
      parentNode := some 1 },
    { event := "A", onFailureEvent := some 0, onFailurePipe := some .pointer }]⟩, rfl⟩,
    rfl, ?_⟩
  rintro ⟨_, _, _, _, counted⟩
  revert counted
  decide

end EventPipeline
