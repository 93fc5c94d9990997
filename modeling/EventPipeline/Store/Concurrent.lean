import EventPipeline.Store.Interchange
import Mathlib.Data.List.Permutation

/-! # Clients of one Redis server

Any number of clients run operations on the records of one server, which executes their commands
in any order. An operation asks whether its record is there and sends its last command after
that, with nothing that keeps the answer true in between. The operations are linearizable as long
as it does stay true.
-/

namespace EventPipeline

/-- The operations that the clients run. -/
inductive ClientOperation (Key Record Klass : Type)
  | keyed (operation : RecordOperation Key Record Klass)
  | reloadRecord (schemaName : String) (record : Record)

/-- Whether a hash has a field. -/
def Redis.has {Key Data : Type} [DecidableEq Key] (redis : Redis Key Data) (name : String)
    (key : Key) : Bool :=
  (OrderedDict.get key (redis name)).isSome

namespace ClientOperation

variable {Key Record Klass State Data Value : Type}

section Programs

variable (classes : RecordClasses Key Record Klass State Data Value)

def program : ClientOperation Key Record Klass → RedisStore.RedisProgram Key Record Data
  | .keyed operation => RedisStore.keyedProgram classes operation
  | .reloadRecord schemaName record => RedisStore.reloadRecord classes schemaName record

def schemaName : ClientOperation Key Record Klass → String
  | .keyed (.insertRecord schemaName _ _) | .keyed (.updateRecord schemaName _ _)
  | .keyed (.deleteRecord schemaName _) | .keyed (.getRecord schemaName _ _)
  | .reloadRecord schemaName _ => schemaName

def recordKey : ClientOperation Key Record Klass → Key
  | .keyed (.insertRecord _ recordKey _) | .keyed (.updateRecord _ recordKey _)
  | .keyed (.deleteRecord _ recordKey) | .keyed (.getRecord _ _ recordKey) => recordKey
  | .reloadRecord _ record => classes.id record

/-- The answer to its check on which the operation goes on. -/
def needsRecord : ClientOperation Key Record Klass → Bool
  | .keyed (.insertRecord _ _ _) => false
  | _ => true

/-- What it raises on the other answer. -/
def refusal (operation : ClientOperation Key Record Klass) : StoreError :=
  if operation.needsRecord then recordDoesNotExist operation.schemaName
  else recordExists operation.schemaName

/-- What is left of the operation when it goes on. -/
def proceed : ClientOperation Key Record Klass → RedisStore.RedisProgram Key Record Data
  | .keyed (.insertRecord schemaName recordKey record)
  | .keyed (.updateRecord schemaName recordKey record) =>
      RedisStore.hset classes schemaName recordKey record
  | .keyed (.deleteRecord schemaName recordKey) => RedisStore.hdel schemaName recordKey
  | .keyed (.getRecord schemaName klass recordKey) =>
      RedisStore.hget schemaName recordKey
        fun data => RedisStore.loadRecord classes data klass
  | .reloadRecord schemaName record =>
      RedisStore.hget schemaName (classes.id record)
        fun data => classes.setState record (classes.loads data)

theorem program_eq (operation : ClientOperation Key Record Klass) :
    operation.program classes =
      RedisStore.checkExists operation.schemaName (operation.recordKey classes) fun present =>
        if present = operation.needsRecord then operation.proceed classes
        else .done (.raised operation.refusal) := by
  cases operation with
  | keyed operation =>
      cases operation with
      | insertRecord schemaName recordKey record =>
          refine congrArg (RedisStore.checkExists schemaName recordKey) ?_
          funext present
          cases present <;> rfl
      | updateRecord schemaName recordKey record => rfl
      | deleteRecord schemaName recordKey => rfl
      | getRecord schemaName klass recordKey => rfl
  | reloadRecord schemaName record => rfl

theorem proceed_eq (operation : ClientOperation Key Record Klass) :
    ∃ command next, operation.proceed classes = .send command next ∧
      (∀ name key, command ≠ .hexists name key) ∧
      ∀ reply, (next reply).result?.isSome = true := by
  have read (schemaName : String) (recordKey : Key) (load : Data → Record) :
      ∃ command next, RedisStore.hget schemaName recordKey load = .send command next ∧
        (∀ name key, command ≠ .hexists name key) ∧
        ∀ reply, (next reply).result?.isSome = true := by
    refine ⟨_, _, rfl, by simp, ?_⟩
    intro reply
    split <;> rfl
  cases operation with
  | keyed operation =>
      cases operation with
      | insertRecord schemaName recordKey record
      | updateRecord schemaName recordKey record
      | deleteRecord schemaName recordKey => exact ⟨_, _, rfl, by simp, fun _ => rfl⟩
      | getRecord schemaName klass recordKey => exact read _ _ _
  | reloadRecord schemaName record => exact read _ _ _

end Programs

/-! ## Run without interruption -/

section Run

variable [DecidableEq Key] (classes : RecordClasses Key Record Klass State Data Value)
  (scan : Scan Key Data) (redis : Redis Key Data)

theorem run_program (operation : ClientOperation Key Record Klass) :
    (operation.program classes).run (Redis.exec scan) redis =
      if redis.has operation.schemaName (operation.recordKey classes) = operation.needsRecord
      then (operation.proceed classes).run (Redis.exec scan) redis
      else (redis, .raised operation.refusal) := by
  rw [program_eq]
  change Program.run (Redis.exec scan)
    (if redis.has operation.schemaName (operation.recordKey classes) = operation.needsRecord
      then operation.proceed classes else .done (.raised operation.refusal)) redis = _
  split
  · rfl
  · rfl

theorem has_hset (name probed : String) (key probe : Key) (value : Data) :
    (Redis.exec scan redis (.hset name key value)).1.has probed probe =
      (decide (name = probed ∧ key = probe) || redis.has probed probe) := by
  by_cases sameName : name = probed
  · subst sameName
    simp only [Redis.exec, Redis.has, Function.update_self, OrderedDict.get_insert]
    by_cases sameKey : key = probe <;> simp [sameKey]
  · have different : probed ≠ name := fun same => sameName same.symm
    simp [Redis.exec, Redis.has, Function.update_of_ne different, sameName]

theorem has_hdel (name probed : String) (key probe : Key) :
    (Redis.exec scan redis (.hdel name key)).1.has probed probe =
      (redis.has probed probe && !decide (name = probed ∧ key = probe)) := by
  by_cases sameName : name = probed
  · subst sameName
    simp only [Redis.exec, Redis.has, Function.update_self, OrderedDict.get_filter_ne,
      eq_comm (a := probe)]
    by_cases sameKey : key = probe <;> simp [sameKey]
  · have different : probed ≠ name := fun same => sameName same.symm
    simp [Redis.exec, Redis.has, Function.update_of_ne different, sameName]

def inserts (name : String) (key : Key) : ClientOperation Key Record Klass → Bool
  | .keyed (.insertRecord schemaName recordKey _) => schemaName = name ∧ recordKey = key
  | _ => false

def deletes (name : String) (key : Key) : ClientOperation Key Record Klass → Bool
  | .keyed (.deleteRecord schemaName recordKey) => schemaName = name ∧ recordKey = key
  | _ => false

theorem run_hget_server (schemaName : String) (recordKey : Key) (load : Data → Record) :
    ((RedisStore.hget schemaName recordKey load).run (Redis.exec scan) redis).1 = redis := by
  rw [RedisStore.run_hget]
  split <;> rfl

/-- An operation that goes on makes the record that it inserts, and that it updates, and removes
the one that it deletes. -/
theorem has_run_proceed (operation : ClientOperation Key Record Klass)
    (goesOn : redis.has operation.schemaName (operation.recordKey classes) =
      operation.needsRecord) (name : String) (key : Key) :
    ((operation.proceed classes).run (Redis.exec scan) redis).1.has name key =
      (operation.inserts name key || redis.has name key && !operation.deletes name key) := by
  cases operation with
  | keyed operation =>
      cases operation with
      | insertRecord schemaName recordKey record =>
          simp [proceed, RedisStore.hset, Program.run, has_hset, inserts, deletes]
      | updateRecord schemaName recordKey record =>
          simp only [proceed, RedisStore.hset, Program.run, has_hset, inserts, deletes,
            Bool.false_or, Bool.not_false, Bool.and_true]
          by_cases same : schemaName = name ∧ recordKey = key
          · rcases same with ⟨rfl, rfl⟩
            exact (Bool.or_eq_right_iff_imp.mpr fun _ => goesOn)
          · simp [same]
      | deleteRecord schemaName recordKey =>
          simp [proceed, RedisStore.hdel, Program.run, has_hdel, inserts, deletes]
      | getRecord schemaName klass recordKey =>
          simp [proceed, run_hget_server, inserts, deletes]
  | reloadRecord schemaName record => simp [proceed, run_hget_server, inserts, deletes]

/-- An insertion makes its record, a deletion removes it, and nothing else does either. -/
theorem has_run_program (operation : ClientOperation Key Record Klass) (name : String)
    (key : Key) :
    ((operation.program classes).run (Redis.exec scan) redis).1.has name key =
      (operation.inserts name key || redis.has name key && !operation.deletes name key) := by
  rw [run_program]
  split
  · exact has_run_proceed classes scan redis operation ‹_› name key
  · rename_i refused
    cases operation with
    | keyed operation =>
        cases operation with
        | insertRecord schemaName recordKey record =>
            have present : redis.has schemaName recordKey = true :=
              eq_true_of_ne_false refused
            by_cases same : schemaName = name ∧ recordKey = key
            · rcases same with ⟨rfl, rfl⟩
              simp [inserts, present]
            · simp [inserts, deletes, same]
        | deleteRecord schemaName recordKey =>
            have absent : redis.has schemaName recordKey = false :=
              eq_false_of_ne_true refused
            by_cases same : schemaName = name ∧ recordKey = key
            · rcases same with ⟨rfl, rfl⟩
              simp [inserts, absent]
            · simp [inserts, deletes, same]
        | updateRecord schemaName recordKey record
        | getRecord schemaName klass recordKey => simp [inserts, deletes]
    | reloadRecord schemaName record => simp [inserts, deletes]

end Run

end ClientOperation

/-! ## Interleaved runs -/

section Clients

variable {Key Record Klass State Data Value : Type} [DecidableEq Key]
  (classes : RecordClasses Key Record Klass State Data Value) (scan : Scan Key Data)

/-- A server with the operations of its clients. -/
abbrev RedisClients (Key Record Klass Data : Type) :=
  SharedServer (Redis Key Data) (ClientOperation Key Record Klass) (RedisCommand Key Data)
    (RedisReply Key Data) (StoreOutcome Record)

def clientsAfter (redis : Redis Key Data)
    (actions : List (ServerAction (ClientOperation Key Record Klass))) :
    RedisClients Key Record Klass Data :=
  SharedServer.after (Redis.exec scan) (ClientOperation.program classes) redis actions

/-- The call has made its check and goes on. -/
def checked : RedisStore.RedisProgram Key Record Data → Bool
  | .done _ => false
  | .send (.hexists _ _) _ => false
  | .send _ _ => true

/-- When a call sends its last command, its record is still there, or still absent, as it was
when the call checked it. -/
def ChecksHold (redis : Redis Key Data)
    (actions : List (ServerAction (ClientOperation Key Record Klass))) : Prop :=
  ∀ front call rest made, front ++ .advance call :: rest = actions →
    (clientsAfter classes scan redis front).calls[call]? = some made →
    checked made.program = true →
    (clientsAfter classes scan redis front).server.has made.operation.schemaName
      (made.operation.recordKey classes) = made.operation.needsRecord

/-- What the insertions of a record have returned or raised. -/
def insertOutcomes (name : String) (key : Key)
    (completions : List (Completion (ClientOperation Key Record Klass) (StoreOutcome Record))) :
    List (StoreOutcome Record) :=
  (completions.filter fun completion => completion.operation.inserts name key).map
    Completion.result

namespace ClientOperation

def updates : ClientOperation Key Record Klass → Bool
  | .keyed (.updateRecord _ _ _) => true
  | _ => false

def reads : ClientOperation Key Record Klass → Bool
  | .keyed (.getRecord _ _ _) | .reloadRecord _ _ => true
  | _ => false

end ClientOperation

/-- The clients see what they would if their operations were run one after the other. Of the
insertions of a record that is not there and that nobody deletes one succeeds, an update makes no
record, and a read finds its record or raises `ObjectDoesNotExist`. -/
structure Sequential (redis : Redis Key Data)
    (actions : List (ServerAction (ClientOperation Key Record Klass))) : Prop where
  linearizable : SharedServer.Linearizable (Redis.exec scan) (ClientOperation.program classes)
    redis (clientsAfter classes scan redis actions)
  inserts : ∀ name key, redis.has name key = false →
    (∀ completion ∈ (clientsAfter classes scan redis actions).completions,
      completion.operation.deletes name key = false) →
    insertOutcomes name key (clientsAfter classes scan redis actions).completions = [] ∨
    ∃ others, insertOutcomes name key (clientsAfter classes scan redis actions).completions =
      .nothing :: List.replicate others (.raised (recordExists name))
  updates : ∀ front call rest made, front ++ .advance call :: rest = actions →
    (clientsAfter classes scan redis front).calls[call]? = some made →
    made.operation.updates = true → ∀ name key,
    (clientsAfter classes scan redis (front ++ [.advance call])).server.has name key =
      (clientsAfter classes scan redis front).server.has name key
  reads : ∀ completion ∈ (clientsAfter classes scan redis actions).completions,
    completion.operation.reads = true → ∀ error, completion.result = .raised error →
    error = recordDoesNotExist completion.operation.schemaName

omit [DecidableEq Key] in
theorem checked_proceed (operation : ClientOperation Key Record Klass) :
    checked (operation.proceed classes) = true := by
  rcases operation.proceed_eq classes with ⟨command, next, same, notCheck, -⟩
  rw [same]
  cases command with
  | hexists name key => exact absurd rfl (notCheck name key)
  | hlen _ | hset _ _ _ | hdel _ _ | hget _ _ | hscan _ => rfl

/-- A call is about to make its check, goes on, or has returned. -/
def Stage (made : PendingCall (ClientOperation Key Record Klass) (RedisCommand Key Data)
    (RedisReply Key Data) (StoreOutcome Record)) : Prop :=
  made.program = made.operation.program classes ∨
  made.program = made.operation.proceed classes ∨
  ∃ result, made.program = .done result

variable {classes}

omit [DecidableEq Key] in
theorem Stage.next {made : PendingCall (ClientOperation Key Record Klass) (RedisCommand Key Data)
      (RedisReply Key Data) (StoreOutcome Record)} (stage : Stage classes made)
    {command : RedisCommand Key Data}
    {next : RedisReply Key Data → RedisStore.RedisProgram Key Record Data}
    (sent : made.program = .send command next) (reply : RedisReply Key Data) :
    Stage classes { made with program := next reply } := by
  rcases stage with whole | goesOn | ⟨result, ended⟩
  · rw [whole, ClientOperation.program_eq] at sent
    cases sent
    have decided (present : Bool) : Stage classes { made with
        program := if present = made.operation.needsRecord then made.operation.proceed classes
          else .done (.raised made.operation.refusal) } := by
      by_cases goesOn : present = made.operation.needsRecord
      · exact .inr (.inl (if_pos goesOn))
      · exact .inr (.inr ⟨_, if_neg goesOn⟩)
    cases reply with
    | boolean answer => exact decided answer
    | number count => exact decided false
    | value value => exact decided false
    | pages pages => exact decided false
  · rcases made.operation.proceed_eq classes with ⟨last, after, same, -, ends⟩
    rw [goesOn, same] at sent
    cases sent
    exact .inr (.inr (Program.exists_eq_done (ends reply)))
  · rw [ended] at sent
    cases sent

variable (classes)

theorem stage_after (redis : Redis Key Data)
    (actions : List (ServerAction (ClientOperation Key Record Klass))) :
    ∀ made ∈ (clientsAfter classes scan redis actions).calls, Stage classes made := by
  induction actions using List.reverseRecOn with
  | nil => simp [clientsAfter, SharedServer.after]
  | append_singleton front action induction =>
      intro made member
      rw [clientsAfter, SharedServer.after_concat] at member
      rcases SharedServer.mem_calls_step member with old | ⟨operation, time, rfl⟩ |
        ⟨before, command, next, reply, old, sent, rfl⟩
      · exact induction made old
      · exact .inl rfl
      · exact (induction before old).next sent reply

theorem Stage.atomic {redis : Redis Key Data}
    {made : PendingCall (ClientOperation Key Record Klass) (RedisCommand Key Data)
      (RedisReply Key Data) (StoreOutcome Record)} (stage : Stage classes made)
    (holds : checked made.program = true → redis.has made.operation.schemaName
      (made.operation.recordKey classes) = made.operation.needsRecord) :
    SharedServer.Atomic (Redis.exec scan) (ClientOperation.program classes) redis made := by
  intro command next sent
  rcases stage with whole | goesOn | ⟨result, ended⟩
  · have answered : next (Redis.exec scan redis command).2 =
        if redis.has made.operation.schemaName (made.operation.recordKey classes) =
          made.operation.needsRecord then made.operation.proceed classes
        else .done (.raised made.operation.refusal) := by
      rw [whole, ClientOperation.program_eq] at sent
      cases sent
      rfl
    by_cases passes : redis.has made.operation.schemaName (made.operation.recordKey classes) =
        made.operation.needsRecord
    · rw [if_pos passes] at answered
      rcases made.operation.proceed_eq classes with ⟨last, after, same, -, -⟩
      refine .inl ⟨by rw [answered, same]; rfl, ?_⟩
      rw [whole, ClientOperation.program_eq] at sent
      cases sent
      rfl
    · rw [if_neg passes] at answered
      exact .inr ⟨by rw [answered]; rfl, by rw [whole]⟩
  · rcases made.operation.proceed_eq classes with ⟨last, after, same, -, ends⟩
    rw [goesOn, same] at sent
    cases sent
    refine .inr ⟨ends _, ?_⟩
    have isChecked : checked made.program = true := by
      rw [goesOn]
      exact checked_proceed classes made.operation
    rw [ClientOperation.run_program, if_pos (holds isChecked), goesOn]
  · rw [ended] at sent
    cases sent

theorem ChecksHold.atomicRun {redis : Redis Key Data}
    {actions : List (ServerAction (ClientOperation Key Record Klass))}
    (hold : ChecksHold classes scan redis actions) :
    SharedServer.AtomicRun (Redis.exec scan) (ClientOperation.program classes) redis
      actions := by
  intro front action rest split
  cases action with
  | invoke operation => trivial
  | advance call =>
      intro made found
      have stage := stage_after classes scan redis front made (List.mem_of_getElem? found)
      exact stage.atomic classes scan (hold front call rest made split found)

/-! ## What the clients see -/

theorem run_reads (redis : Redis Key Data) {operation : ClientOperation Key Record Klass}
    (reads : operation.reads = true) {error : StoreError}
    (raised : ((operation.program classes).run (Redis.exec scan) redis).2 = .raised error) :
    error = recordDoesNotExist operation.schemaName := by
  have needs : operation.needsRecord = true := by
    cases operation with
    | keyed operation => cases operation <;> first | rfl | cases reads
    | reloadRecord schemaName record => rfl
  rw [ClientOperation.run_program, needs] at raised
  by_cases present : redis.has operation.schemaName (operation.recordKey classes) = true
  · rw [if_pos present] at raised
    rcases Option.isSome_iff_exists.mp present with ⟨data, found⟩
    cases operation with
    | keyed operation =>
        cases operation with
        | getRecord schemaName klass recordKey =>
            simp only [ClientOperation.schemaName, ClientOperation.recordKey] at found
            simp [ClientOperation.proceed, RedisStore.run_hget, found] at raised
        | insertRecord _ _ _ | updateRecord _ _ _ | deleteRecord _ _ => cases reads
    | reloadRecord schemaName record =>
        simp only [ClientOperation.schemaName, ClientOperation.recordKey] at found
        simp [ClientOperation.proceed, RedisStore.run_hget, found] at raised
  · rw [if_neg present] at raised
    cases raised
    rw [ClientOperation.refusal, if_pos needs]

theorem insertOutcomes_cons (name : String) (key : Key)
    (completion : Completion (ClientOperation Key Record Klass) (StoreOutcome Record))
    (rest : List (Completion (ClientOperation Key Record Klass) (StoreOutcome Record))) :
    insertOutcomes name key (completion :: rest) =
      if completion.operation.inserts name key then
        completion.result :: insertOutcomes name key rest
      else insertOutcomes name key rest := by
  rw [insertOutcomes, List.filter_cons]
  split
  · rfl
  · rfl

theorem run_inserts (redis : Redis Key Data) {operation : ClientOperation Key Record Klass}
    {name : String} {key : Key} (inserts : operation.inserts name key = true) :
    ((operation.program classes).run (Redis.exec scan) redis).2 =
      if redis.has name key then .raised (recordExists name) else .nothing := by
  cases operation with
  | keyed operation =>
      cases operation with
      | insertRecord schemaName recordKey record =>
          rcases of_decide_eq_true inserts with ⟨rfl, rfl⟩
          rw [ClientOperation.run_program]
          cases present : redis.has schemaName recordKey with
          | true =>
              simp [ClientOperation.schemaName, ClientOperation.recordKey, present,
                ClientOperation.needsRecord, ClientOperation.refusal]
          | false =>
              simp [ClientOperation.schemaName, ClientOperation.recordKey, present,
                ClientOperation.needsRecord, ClientOperation.proceed, RedisStore.hset,
                Program.run]
      | updateRecord _ _ _ | deleteRecord _ _ | getRecord _ _ _ => cases inserts
  | reloadRecord schemaName record => cases inserts

/-- When a record is there and nobody deletes it, every insertion of it fails. -/
theorem insertOutcomes_present {name : String} {key : Key}
    {completions : List (Completion (ClientOperation Key Record Klass) (StoreOutcome Record))}
    {redis final : Redis Key Data}
    (sequential : Program.runAll (Redis.exec scan) (ClientOperation.program classes)
      (completions.map Completion.operation) redis =
        (final, completions.map Completion.result))
    (kept : ∀ completion ∈ completions, completion.operation.deletes name key = false)
    (present : redis.has name key = true) :
    ∃ others, insertOutcomes name key completions =
      List.replicate others (.raised (recordExists name)) := by
  induction completions generalizing redis with
  | nil => exact ⟨0, rfl⟩
  | cons completion rest induction =>
      simp only [List.map_cons, Program.runAll, Prod.mk.injEq, List.cons.injEq] at sequential
      have remains : (((completion.operation.program classes).run (Redis.exec scan)
          redis).1.has name key) = true := by
        rw [ClientOperation.has_run_program, present, kept completion List.mem_cons_self]
        exact Bool.or_true _
      rcases induction (Prod.ext sequential.1 sequential.2.2)
        (fun later member => kept later (List.mem_cons_of_mem _ member)) remains
        with ⟨others, rest⟩
      rw [insertOutcomes_cons]
      by_cases inserts : completion.operation.inserts name key = true
      · rw [if_pos inserts, rest, ← sequential.2.1, run_inserts classes scan redis inserts,
          if_pos present]
        exact ⟨others + 1, rfl⟩
      · rw [if_neg inserts]
        exact ⟨others, rest⟩

theorem insertOutcomes_absent {name : String} {key : Key}
    {completions : List (Completion (ClientOperation Key Record Klass) (StoreOutcome Record))}
    {redis final : Redis Key Data}
    (sequential : Program.runAll (Redis.exec scan) (ClientOperation.program classes)
      (completions.map Completion.operation) redis =
        (final, completions.map Completion.result))
    (kept : ∀ completion ∈ completions, completion.operation.deletes name key = false)
    (absent : redis.has name key = false) :
    insertOutcomes name key completions = [] ∨
    ∃ others, insertOutcomes name key completions =
      .nothing :: List.replicate others (.raised (recordExists name)) := by
  induction completions generalizing redis with
  | nil => exact .inl rfl
  | cons completion rest induction =>
      simp only [List.map_cons, Program.runAll, Prod.mk.injEq, List.cons.injEq] at sequential
      have later : ∀ completion ∈ rest, completion.operation.deletes name key = false :=
        fun later member => kept later (List.mem_cons_of_mem _ member)
      have becomes := ClientOperation.has_run_program classes scan redis completion.operation
        name key
      rw [absent, Bool.false_and, Bool.or_false] at becomes
      rw [insertOutcomes_cons]
      by_cases inserts : completion.operation.inserts name key = true
      · rw [inserts] at becomes
        rcases insertOutcomes_present classes scan (Prod.ext sequential.1 sequential.2.2) later
          becomes with ⟨others, rest⟩
        rw [if_pos inserts, rest, ← sequential.2.1, run_inserts classes scan redis inserts,
          absent]
        exact .inr ⟨others, rfl⟩
      · rw [if_neg inserts]
        rw [eq_false_of_ne_true inserts] at becomes
        exact induction (Prod.ext sequential.1 sequential.2.2) later becomes

theorem ClientOperation.not_inserts_of_updates {operation : ClientOperation Key Record Klass}
    (updates : operation.updates = true) (name : String) (key : Key) :
    operation.inserts name key = false ∧ operation.deletes name key = false := by
  cases operation with
  | keyed operation =>
      cases operation with
      | updateRecord schemaName recordKey record => exact ⟨rfl, rfl⟩
      | insertRecord _ _ _ | deleteRecord _ _ | getRecord _ _ _ => cases updates
  | reloadRecord schemaName record => cases updates

/-- In every run in which the checks hold, the clients see a sequential order of their
operations. -/
theorem sequential_of_checksHold {redis : Redis Key Data}
    {actions : List (ServerAction (ClientOperation Key Record Klass))}
    (hold : ChecksHold classes scan redis actions) : Sequential classes scan redis actions := by
  have explained := SharedServer.explained_after (hold.atomicRun classes scan)
  constructor
  · exact explained.linearizable
  · intro name key absent kept
    exact insertOutcomes_absent classes scan explained.sequential kept absent
  · intro front call rest made split found updates name key
    rw [clientsAfter, SharedServer.after_concat]
    have atomic := hold.atomicRun classes scan front (.advance call) rest split
    rcases atomic.server found with same | whole
    · exact congrArg (·.has name key) same
    · refine (congrArg (·.has name key) whole).trans ?_
      rcases ClientOperation.not_inserts_of_updates updates name key with ⟨keeps, leaves⟩
      rw [ClientOperation.has_run_program, keeps, leaves, Bool.false_or, Bool.not_false,
        Bool.and_true]
      rfl
  · intro completion member reads error raised
    rcases explained.exists_run member with ⟨server, ran⟩
    exact run_reads classes scan server reads (ran.trans raised)

end Clients

/-- Two insertions of one key. -/
def insertSeven : ClientOperation Nat Nat Unit := .keyed (.insertRecord "S" 1 7)
def insertEight : ClientOperation Nat Nat Unit := .keyed (.insertRecord "S" 1 8)

/-- One client inserts a record before the other checks whether it is there. -/
theorem sequential_oneByOne :
    Sequential numberRecords onePage (fun _ => [])
      [.invoke insertSeven, .invoke insertEight, .advance 0, .advance 0, .advance 1] := by
  apply sequential_of_checksHold
  intro front call rest made split found isChecked
  match front, split with
  | [], split => cases split
  | [_], split => cases split
  | [_, _], split =>
      cases split
      cases found
      cases isChecked
  | [_, _, _], split =>
      cases split
      cases found
      rfl
  | [_, _, _, _], split =>
      cases split
      cases found
      cases isChecked
  | _ :: _ :: _ :: _ :: _ :: _, split => simp at split

/-- Both clients check whether the record is there before either inserts it. Both succeed. -/
theorem not_linearizable_bothChecked :
    ¬ SharedServer.Linearizable (Redis.exec onePage) (ClientOperation.program numberRecords)
      (fun _ => [])
      (clientsAfter numberRecords onePage (fun _ => [])
        [.invoke insertSeven, .invoke insertEight, .advance 0, .advance 1, .advance 0,
          .advance 1]) := by
  rintro ⟨order, permuted, -, ran⟩
  have both : ∃ first second, (clientsAfter numberRecords onePage (fun _ => [])
      [.invoke insertSeven, .invoke insertEight, .advance 0, .advance 1, .advance 0,
        .advance 1]).completions =
      [⟨0, insertSeven, .nothing, 0, first⟩, ⟨1, insertEight, .nothing, 1, second⟩] :=
    ⟨_, _, rfl⟩
  rcases both with ⟨first, second, completions⟩
  rw [completions] at permuted
  rcases List.perm_pair.mp permuted with rfl | rfl
  · cases congrArg Prod.snd ran
  · cases congrArg Prod.snd ran

end EventPipeline
