import EventPipeline.Store.Backend

/-! # Interchanging the backends

The same operations on both backends, from empty stores. As long as they agree, each hash holds
the pickled states of the records that the schema holds in memory. They disagree where the
in-memory backend does not look whether a record or a schema is there.
-/

namespace EventPipeline

def StoreError.SameClass : StoreError → StoreError → Prop
  | .objectExistError _, .objectExistError _ | .objectDoesNotExist _, .objectDoesNotExist _
  | .keyError _, .keyError _ | .typeError _, .typeError _ => True
  | _, _ => False

/-- Equal values, the same set of records, or the same exception class. -/
def StoreOutcome.Same {Record : Type} : StoreOutcome Record → StoreOutcome Record → Prop
  | .nothing, .nothing => True
  | .boolean first, .boolean second => first = second
  | .number first, .number second => first = second
  | .record first, .record second => first = second
  | .records first, .records second => ∀ record, record ∈ first ↔ record ∈ second
  | .raised first, .raised second => first.SameClass second
  | _, _ => False

def outcomes {Operation Store Outcome : Type} (execute : Store → Operation → Store × Outcome) :
    Store → List Operation → List Outcome
  | _, [] => []
  | store, operation :: rest =>
      (execute store operation).2 :: outcomes execute (execute store operation).1 rest

variable {Key Record Klass State Data Value : Type} [DecidableEq Key] [DecidableEq Value]
  (classes : RecordClasses Key Record Klass State Data Value) (scan : Scan Key Data)

def RedisStore.execute (redis : Redis Key Data)
    (operation : StoreOperation Key Record Klass Value) : Redis Key Data × StoreOutcome Record :=
  (RedisStore.program classes operation).run (Redis.exec scan) redis

/-- Both backends give the same outcome at every step. -/
def Interchangeable (operations : List (StoreOperation Key Record Klass Value)) : Prop :=
  List.Forall₂ StoreOutcome.Same (outcomes (InMemoryStore.execute classes) [] operations)
    (outcomes (RedisStore.execute classes scan) (fun _ => []) operations)

/-- A record as the Redis backend makes it from the state of the given one. -/
def restored (klass : Klass) (record : Record) : Record :=
  classes.setState (classes.new klass) (classes.getState record)

/-- The operation is one on which the backends agree: no insertion of a key that is there, no
update of one that is not, no count and no filter of a schema that nothing was put into, and the
records that are read are restored as they were. -/
def Agrees (memory : Memory Key Record) : StoreOperation Key Record Klass Value → Prop
  | .keyed (.insertRecord schemaName recordKey _) =>
      InMemoryStore.find memory schemaName recordKey = none
  | .keyed (.updateRecord schemaName recordKey _) =>
      (InMemoryStore.find memory schemaName recordKey).isSome = true
  | .keyed (.deleteRecord _ _) => True
  | .keyed (.getRecord schemaName klass recordKey) =>
      ∀ record, InMemoryStore.find memory schemaName recordKey = some record →
        restored classes klass record = record
  | .exists _ _ => True
  | .count schemaName => (OrderedDict.get schemaName memory).isSome = true
  | .filterRecord schemaName klass filters =>
      ∃ records, OrderedDict.get schemaName memory = some records ∧
        ∀ record, record ∈ (records.map Prod.snd).filter (matchRecord classes filters) ↔
          record ∈ ((records.map Prod.snd).map (restored classes klass)).filter
            (matchRecord classes filters)

def memoryFrom (memory : Memory Key Record)
    (operations : List (StoreOperation Key Record Klass Value)) : Memory Key Record :=
  operations.foldl (fun memory operation => (InMemoryStore.execute classes memory operation).1)
    memory

/-- Each operation is one on which the backends agree. -/
def AgreesThroughout (operations : List (StoreOperation Key Record Klass Value)) : Prop :=
  ∀ front operation rest, front ++ operation :: rest = operations →
    Agrees classes (memoryFrom classes [] front) operation

/-! ## One step -/

def stored (entry : Key × Record) : Key × Data :=
  (entry.1, classes.dumps (classes.getState entry.2))

def Mirrors (memory : Memory Key Record) (redis : Redis Key Data) : Prop :=
  ∀ schemaName, redis schemaName =
    ((OrderedDict.get schemaName memory).getD []).map (stored classes)

section Step

variable {classes scan} {memory : Memory Key Record} {redis : Redis Key Data}
  (mirrors : Mirrors classes memory redis)
include mirrors

omit [DecidableEq Value] in
theorem Mirrors.get (schemaName : String) (recordKey : Key) :
    OrderedDict.get recordKey (redis schemaName) =
      (InMemoryStore.find memory schemaName recordKey).map fun record =>
        classes.dumps (classes.getState record) := by
  rw [mirrors schemaName]
  unfold InMemoryStore.find stored
  cases OrderedDict.get schemaName memory with
  | none => rfl
  | some records =>
      exact OrderedDict.get_map (fun record => classes.dumps (classes.getState record)) recordKey
        records

omit [DecidableEq Value] [DecidableEq Key] in
theorem Mirrors.update {schemaName : String} {records : List (Key × Record)}
    {hash : List (Key × Data)} (same : hash = records.map (stored classes)) :
    Mirrors classes (OrderedDict.insert schemaName records memory)
      (Function.update redis schemaName hash) := by
  intro other
  rw [OrderedDict.get_insert]
  by_cases equal : schemaName = other
  · subst equal
    rw [Function.update_self, if_pos rfl, same]
    rfl
  · rw [Function.update_of_ne (fun reversed => equal reversed.symm), if_neg equal]
    exact mirrors other

omit [DecidableEq Value] in
theorem Mirrors.put (schemaName : String) (recordKey : Key) (record : Record) :
    Mirrors classes (InMemoryStore.put memory schemaName recordKey record)
      (Function.update redis schemaName
        (OrderedDict.insert recordKey (classes.dumps (classes.getState record))
          (redis schemaName))) := by
  apply mirrors.update
  rw [mirrors schemaName]
  exact (OrderedDict.insert_map (fun record => classes.dumps (classes.getState record)) recordKey
    record _).symm

omit [DecidableEq Value] in
theorem Mirrors.delete (schemaName : String) (recordKey : Key) :
    Mirrors classes
      (OrderedDict.insert schemaName
        (((OrderedDict.get schemaName memory).getD []).filter fun entry => entry.1 ≠ recordKey)
        memory)
      (Function.update redis schemaName
        ((redis schemaName).filter fun entry => entry.1 ≠ recordKey)) := by
  apply mirrors.update
  rw [mirrors schemaName, List.filter_map]
  rfl

omit [DecidableEq Value] [DecidableEq Key] in
theorem Mirrors.mem_filterRecord (schemaName : String) (klass : Klass)
    (matchFunc : Record → Bool) (record : Record) :
    (record ∈ (scan.pages (redis schemaName)).flatMap fun page =>
      (page.map fun entry => RedisStore.loadRecord classes entry.2 klass).filter matchFunc) ↔
      record ∈ ((((OrderedDict.get schemaName memory).getD []).map Prod.snd).map
        (restored classes klass)).filter matchFunc := by
  have joined : ((scan.pages (redis schemaName)).flatMap fun page =>
      (page.map fun entry => RedisStore.loadRecord classes entry.2 klass).filter matchFunc) =
      ((scan.pages (redis schemaName)).flatten.map fun entry =>
        RedisStore.loadRecord classes entry.2 klass).filter matchFunc := by
    rw [List.map_flatten, List.filter_flatten, List.map_map, List.flatMap]
    rfl
  have same : ((OrderedDict.get schemaName memory).getD []).map
      ((fun entry => RedisStore.loadRecord classes entry.2 klass) ∘ stored classes) =
      ((OrderedDict.get schemaName memory).getD []).map (restored classes klass ∘ Prod.snd) := by
    apply List.map_congr_left
    intro entry member
    simp only [Function.comp, RedisStore.loadRecord, stored, classes.loads_dumps, restored]
  rw [joined, (((scan.complete (redis schemaName)).map _).filter _).mem_iff, mirrors schemaName,
    List.map_map, same, List.map_map]

theorem Mirrors.same_iff (operation : StoreOperation Key Record Klass Value) :
    (InMemoryStore.execute classes memory operation).2.Same
        (RedisStore.execute classes scan redis operation).2 ↔
      Agrees classes memory operation := by
  cases operation with
  | keyed operation =>
      cases operation with
      | insertRecord schemaName recordKey record =>
          have found := mirrors.get schemaName recordKey
          simp only [RedisStore.execute, RedisStore.program, RedisStore.keyedProgram,
            RedisStore.run_insertRecord, found, Agrees]
          cases InMemoryStore.find memory schemaName recordKey with
          | none => simp [InMemoryStore.execute, StoreOutcome.Same]
          | some old => simp [InMemoryStore.execute, StoreOutcome.Same]
      | updateRecord schemaName recordKey record =>
          have found := mirrors.get schemaName recordKey
          simp only [RedisStore.execute, RedisStore.program, RedisStore.keyedProgram,
            RedisStore.updateRecord, RedisStore.run_requireRecord, found, Agrees]
          cases InMemoryStore.find memory schemaName recordKey with
          | none => simp [InMemoryStore.execute, StoreOutcome.Same]
          | some old =>
              simp [InMemoryStore.execute, RedisStore.hset, Program.run, StoreOutcome.Same]
      | deleteRecord schemaName recordKey =>
          have found := mirrors.get schemaName recordKey
          simp only [RedisStore.execute, RedisStore.program, RedisStore.keyedProgram,
            RedisStore.deleteRecord, RedisStore.run_requireRecord, found, Agrees,
            InMemoryStore.execute, InMemoryStore.deleteRecord]
          cases InMemoryStore.find memory schemaName recordKey with
          | none => simp [StoreOutcome.Same, StoreError.SameClass, recordDoesNotExist]
          | some old => simp [RedisStore.hdel, Program.run, StoreOutcome.Same]
      | getRecord schemaName klass recordKey =>
          have found := mirrors.get schemaName recordKey
          simp only [RedisStore.execute, RedisStore.program, RedisStore.keyedProgram,
            RedisStore.getRecord, RedisStore.run_requireRecord, RedisStore.run_hget, found, Agrees,
            InMemoryStore.execute, InMemoryStore.getRecord]
          cases InMemoryStore.find memory schemaName recordKey with
          | none => simp [StoreOutcome.Same, StoreError.SameClass, recordDoesNotExist]
          | some record =>
              simp [StoreOutcome.Same, RedisStore.loadRecord, classes.loads_dumps, restored,
                eq_comm]
  | «exists» schemaName recordKey =>
      have found := mirrors.get schemaName recordKey
      simp only [RedisStore.execute, RedisStore.program, RedisStore.checkExists, Program.run,
        Redis.exec, found, InMemoryStore.execute, Agrees, StoreOutcome.Same, Option.isSome_map]
  | count schemaName =>
      simp only [RedisStore.execute, RedisStore.program, RedisStore.count, Program.run,
        Redis.exec, InMemoryStore.execute, InMemoryStore.count, Agrees, mirrors schemaName]
      cases OrderedDict.get schemaName memory with
      | none => simp [StoreOutcome.Same]
      | some records => simp [StoreOutcome.Same]
  | filterRecord schemaName klass filters =>
      have restoredRecords := @Mirrors.mem_filterRecord _ _ _ _ _ _ classes scan memory
        redis mirrors schemaName klass (matchRecord classes filters)
      simp only [RedisStore.execute, RedisStore.program, RedisStore.filterRecord, Program.run,
        Redis.exec, InMemoryStore.execute, InMemoryStore.filterRecord, Agrees]
      cases found : OrderedDict.get schemaName memory with
      | none => simp [StoreOutcome.Same]
      | some records =>
          rw [found] at restoredRecords
          simp only [StoreOutcome.Same, restoredRecords, Option.getD_some, Option.some.injEq,
            exists_eq_left']

theorem Mirrors.step {operation : StoreOperation Key Record Klass Value}
    (agrees : Agrees classes memory operation) :
    Mirrors classes (InMemoryStore.execute classes memory operation).1
      (RedisStore.execute classes scan redis operation).1 := by
  cases operation with
  | keyed operation =>
      cases operation with
      | insertRecord schemaName recordKey record =>
          have found := mirrors.get schemaName recordKey
          simp only [Agrees] at agrees
          simp only [RedisStore.execute, RedisStore.program, RedisStore.keyedProgram,
            RedisStore.run_insertRecord, found, agrees, Option.map_none]
          exact mirrors.put schemaName recordKey record
      | updateRecord schemaName recordKey record =>
          have found := mirrors.get schemaName recordKey
          rcases Option.isSome_iff_exists.mp agrees with ⟨old, present⟩
          simp only [RedisStore.execute, RedisStore.program, RedisStore.keyedProgram,
            RedisStore.updateRecord, RedisStore.run_requireRecord, found, present,
            Option.map_some]
          exact mirrors.put schemaName recordKey record
      | deleteRecord schemaName recordKey =>
          have found := mirrors.get schemaName recordKey
          simp only [RedisStore.execute, RedisStore.program, RedisStore.keyedProgram,
            RedisStore.deleteRecord, RedisStore.run_requireRecord, found,
            InMemoryStore.execute, InMemoryStore.deleteRecord]
          cases InMemoryStore.find memory schemaName recordKey with
          | none => exact mirrors
          | some old => exact mirrors.delete schemaName recordKey
      | getRecord schemaName klass recordKey =>
          have found := mirrors.get schemaName recordKey
          simp only [RedisStore.execute, RedisStore.program, RedisStore.keyedProgram,
            RedisStore.getRecord, RedisStore.run_requireRecord, RedisStore.run_hget, found,
            InMemoryStore.execute]
          cases InMemoryStore.find memory schemaName recordKey <;> exact mirrors
  | «exists» schemaName recordKey => exact mirrors
  | count schemaName => exact mirrors
  | filterRecord schemaName klass filters => exact mirrors

end Step

/-! ## Whole runs -/

theorem Mirrors.same_outcomes_iff {memory : Memory Key Record} {redis : Redis Key Data}
    (mirrors : Mirrors classes memory redis)
    (operations : List (StoreOperation Key Record Klass Value)) :
    List.Forall₂ StoreOutcome.Same (outcomes (InMemoryStore.execute classes) memory operations)
        (outcomes (RedisStore.execute classes scan) redis operations) ↔
      ∀ front operation rest, front ++ operation :: rest = operations →
        Agrees classes (memoryFrom classes memory front) operation := by
  induction operations generalizing memory redis with
  | nil => simp [outcomes]
  | cons operation operations induction =>
      simp only [outcomes, List.forall₂_cons, mirrors.same_iff]
      constructor
      · rintro ⟨agrees, later⟩ front next rest split
        cases front with
        | nil =>
            cases split
            exact agrees
        | cons first front =>
            cases split
            exact (induction (mirrors.step agrees)).mp later front next rest rfl
      · intro throughout
        have agrees := throughout [] operation operations rfl
        refine ⟨agrees, (induction (mirrors.step agrees)).mpr ?_⟩
        intro front next rest split
        exact throughout (operation :: front) next rest (congrArg (operation :: ·) split)

/-- The backends are interchangeable in a run exactly when they agree on each of its
operations. -/
theorem interchangeable_iff (operations : List (StoreOperation Key Record Klass Value)) :
    Interchangeable classes scan operations ↔ AgreesThroughout classes operations :=
  Mirrors.same_outcomes_iff classes scan (fun _ => rfl) operations

def numberRecords : RecordClasses Nat Nat Unit Nat Nat Nat where
  id := id
  getState := id
  setState := fun _ state => state
  new := fun _ => 0
  getattr := fun record name => if name = "value" then some record else none
  dumps := id
  loads := id
  loads_dumps := fun _ => rfl

def onePage : Scan Nat Nat where
  pages := fun hash => [hash]
  complete := fun hash => by simp

/-- The same key is inserted twice. -/
theorem not_interchangeable_insertTwice :
    ¬ Interchangeable numberRecords onePage
      [.keyed (.insertRecord "S" 1 7), .keyed (.insertRecord "S" 1 8)] := by
  intro same
  cases same with
  | cons first rest =>
      cases rest with
      | cons second rest => exact second

end EventPipeline
