import EventPipeline.Store.Saving

/-! # Methods among other clients

What a method sends and how it ends, whatever the answers are, and what is left of that while
other clients use the same server.
-/

namespace EventPipeline

open Routine

variable {Key Record Klass State Data Value Error : Type}

namespace RecordMethod

def deletes : RecordMethod Record → Bool
  | .delete _ => true
  | .save _ | .reload _ | .update _ => false

end RecordMethod

namespace PoolAttempt

/-! ## What a method sends -/

/-- The command is about this record, and removes it only if that is meant. -/
def Stays (place : String × Key) (deletes : Bool) : PoolCommand Key Data → Prop
  | .redis (.hexists name key) | .redis (.hget name key) | .redis (.hset name key _) =>
      (name, key) = place
  | .redis (.hdel name key) => (name, key) = place ∧ deletes = true
  | .redis (.hlen _) | .redis (.hscan _) => False
  | .getConnection | .releaseConnection | .ping => True

section Only

variable {place : String × Key} {deletes : Bool}
  {classes : RecordClasses Key Record Klass State Data Value} {schemaName : Record → String}

theorem only_answered {Result : Type} (reply : Except Error Result) :
    (answered reply : PoolAttempt Key Data Error Result).run.Only (Stays place deletes) := by
  cases reply with
  | ok result => exact trivial
  | error error => exact trivial

theorem only_send {command : RedisCommand Key Data} (stays : Stays place deletes (.redis command)) :
    (send command : PoolAttempt Key Data Error (RedisReply Key Data)).run.Only
      (Stays place deletes) := by
  have asked : (do answered (← ask (.redis command)) :
      PoolAttempt Key Data Error (RedisReply Key Data)).run.Only (Stays place deletes) :=
    Fallible.only_ask_bind stays only_answered
  have checked : (checkConnection : PoolAttempt Key Data Error Unit).run.Only
      (Stays place deletes) := by
    rw [checkConnection]
    refine Fallible.only_ask_bind trivial ?_
    intro reply
    refine Fallible.only_bind (only_answered reply) ?_
    intro connected
    cases connected with
    | true => exact trivial
    | false => exact trivial
  rw [send]
  cases isChecked command with
  | true => exact Fallible.only_bind checked fun _ => asked
  | false => exact asked

theorem only_perform_send {command : RedisCommand Key Data}
    {next : RedisReply Key Data → RedisStore.RedisProgram Key Record Data}
    (stays : Stays place deletes (.redis command))
    (goesOn : ∀ reply, (perform (next reply) :
      PoolAttempt Key Data Error (StoreOutcome Record)).run.Only (Stays place deletes)) :
    (perform (.send command next) : PoolAttempt Key Data Error (StoreOutcome Record)).run.Only
      (Stays place deletes) := by
  rw [perform]
  exact Fallible.only_bind (only_send stays) goesOn

theorem only_perform_done (outcome : StoreOutcome Record) :
    (perform (.done outcome) : PoolAttempt Key Data Error (StoreOutcome Record)).run.Only
      (Stays place deletes) := by
  cases outcome with
  | raised error => exact trivial
  | nothing | boolean | number | record | records => exact trivial

theorem only_checkExists {next : Bool → RedisStore.RedisProgram Key Record Data}
    (goesOn : ∀ present, (perform (next present) :
      PoolAttempt Key Data Error (StoreOutcome Record)).run.Only (Stays place deletes)) :
    (perform (RedisStore.checkExists place.1 place.2 next) :
      PoolAttempt Key Data Error (StoreOutcome Record)).run.Only (Stays place deletes) := by
  refine only_perform_send rfl ?_
  intro reply
  cases reply with
  | boolean answer => exact goesOn answer
  | number | value | pages => exact goesOn false

theorem only_requireRecord {next : RedisStore.RedisProgram Key Record Data}
    (goesOn : (perform next : PoolAttempt Key Data Error (StoreOutcome Record)).run.Only
      (Stays place deletes)) :
    (perform (RedisStore.requireRecord place.1 place.2 next) :
      PoolAttempt Key Data Error (StoreOutcome Record)).run.Only (Stays place deletes) := by
  refine only_checkExists ?_
  intro present
  cases present with
  | true => exact goesOn
  | false => exact only_perform_done _

theorem only_hset (record : Record) :
    (perform (RedisStore.hset classes place.1 place.2 record) :
      PoolAttempt Key Data Error (StoreOutcome Record)).run.Only (Stays place deletes) :=
  only_perform_send rfl fun _ => only_perform_done _

theorem only_method (method : RecordMethod Record) :
    (PoolAttempt.method classes schemaName method :
      PoolAttempt Key Data Error (StoreOutcome Record)).run.Only
      (Stays (StoreClients.place classes schemaName method) method.deletes) := by
  cases method with
  | save record =>
      refine Fallible.only_tryCatch (only_checkExists ?_) ?_
      · intro present
        cases present with
        | true => exact only_perform_done _
        | false => exact only_hset record
      · intro error
        split
        · exact only_requireRecord (only_hset record)
        · exact trivial
  | reload record =>
      refine only_requireRecord (only_perform_send rfl ?_)
      intro reply
      split
      · exact only_perform_done _
      · exact only_perform_done _
  | delete record =>
      exact only_requireRecord (only_perform_send ⟨rfl, rfl⟩ fun _ => only_perform_done _)
  | update record => exact only_requireRecord (only_hset record)

theorem only_withConnection {Result : Type} {method : PoolAttempt Key Data Error Result}
    (only : method.run.Only (Stays place deletes)) :
    (some <$> withConnection method).run.Only (Stays place deletes) := by
  have round : (withConnection method).run.Only (Stays place deletes) := by
    rw [withConnection]
    refine Fallible.only_ask_bind trivial ?_
    intro connection
    refine Fallible.only_bind (only_answered connection) ?_
    intro _
    rw [releasing]
    refine Fallible.only_bind (Fallible.only_tryCatch only ?_) ?_
    · intro error
      exact Fallible.only_ask_bind trivial fun _ => trivial
    · intro result
      exact Fallible.only_ask_bind trivial fun _ => trivial
  exact Fallible.only_bind round fun _ => trivial

theorem only_executeWithRetry {Result : Type} {method : PoolAttempt Key Data Error Result}
    (only : method.run.Only (Stays place deletes)) (retryAttempts : Nat) :
    (executeWithRetry retryAttempts method).run.Only (Stays place deletes) := by
  have retried : ∀ left error, (retry method left error).run.Only (Stays place deletes) := by
    intro left
    induction left with
    | zero => exact fun _ => trivial
    | succ left induction =>
        intro error
        rw [retry]
        exact Fallible.only_tryCatch (only_withConnection only) induction
  cases retryAttempts with
  | zero => exact trivial
  | succ left => exact Fallible.only_tryCatch (only_withConnection only) (retried left)

end Only

end PoolAttempt

namespace StoreClients

open PoolAttempt

/-! ## What the commands do to a record -/

section Values

variable [DecidableEq Key] {scan : Scan Key Data} {redis after : Redis Key Data}
  {place : String × Key} {command : PoolCommand Key Data} {reply : PoolReply Error command}

theorem value_hset (place : String × Key) (name : String) (key : Key) (data : Data) :
    (redis.exec scan (.hset name key data)).1.value place =
      if (name, key) = place then some data else redis.value place := by
  rcases place with ⟨probed, probe⟩
  by_cases sameName : name = probed
  · subst sameName
    simp [Redis.exec, Redis.value, OrderedDict.get_insert]
  · have different : probed ≠ name := fun same => sameName same.symm
    simp [Redis.exec, Redis.value, Function.update_of_ne different, sameName]

theorem value_hdel (place : String × Key) (name : String) (key : Key) :
    (redis.exec scan (.hdel name key)).1.value place =
      if (name, key) = place then none else redis.value place := by
  rcases place with ⟨probed, probe⟩
  by_cases sameName : name = probed
  · subst sameName
    simp only [Redis.exec, Redis.value, Function.update_self, OrderedDict.get_filter_ne,
      Prod.mk.injEq, true_and]
    by_cases same : key = probe
    · rw [if_pos same, if_pos same.symm]
    · rw [if_neg same, if_neg (Ne.symm same)]
  · have different : probed ≠ name := fun same => sameName same.symm
    simp [Redis.exec, Redis.value, Function.update_of_ne different, sameName]

theorem value_of_elsewhere {other : String × Key} {deletes : Bool} (different : other ≠ place)
    (stays : Stays other deletes command) (ran : Executed scan redis command reply after) :
    after.value place = redis.value place := by
  have executed : ∀ command : RedisCommand Key Data, Stays other deletes (.redis command) →
      (redis.exec scan command).1.value place = redis.value place := by
    intro command stays
    cases command with
    | hexists | hget | hlen | hscan => rfl
    | hset name key data =>
        rw [value_hset, if_neg]
        rintro rfl
        exact different stays.symm
    | hdel name key =>
        rw [value_hdel, if_neg]
        rintro rfl
        exact different stays.1.symm
  cases ran with
  | getConnection | releaseConnection | ping | refused => rfl
  | answered command | lost command => exact executed command stays

theorem value_ne_none {other : String × Key} (stays : Stays other false command)
    (ran : Executed scan redis command reply after) (present : redis.value place ≠ none) :
    after.value place ≠ none := by
  have executed : ∀ command : RedisCommand Key Data, Stays other false (.redis command) →
      (redis.exec scan command).1.value place ≠ none := by
    intro command stays
    cases command with
    | hexists | hget | hlen | hscan => exact present
    | hset name key data =>
        rw [value_hset]
        split
        · exact Option.some_ne_none _
        · exact present
    | hdel name key => cases stays.2
  cases ran with
  | getConnection | releaseConnection | ping | refused => exact present
  | answered command | lost command => exact executed command stays

end Values

/-! ## A method among others -/

section Among

variable [DecidableEq Key] {classes : RecordClasses Key Record Klass State Data Value}
  {schemaName : Record → String} {scan : Scan Key Data} {retryAttempts : Nat}
  {clients last : StoreClients Key Record Data Error} {index : Nat}

theorem step_cases {made : MethodCall Key Record Data Error}
    (found : clients.calls[index]? = some made)
    (step : Step classes schemaName scan retryAttempts clients last) :
    last.calls[index]? = some made ∧ (last.redis = clients.redis ∨
      ∃ other call command next, ∃ reply : PoolReply Error command,
        other ≠ index ∧ clients.calls[other]? = some call ∧ call.routine = .send command next ∧
        Executed scan clients.redis command reply last.redis) ∨
    ∃ command next, ∃ reply : PoolReply Error command, made.routine = .send command next ∧
      Executed scan clients.redis command reply last.redis ∧
      last.calls[index]? = some ⟨made.method, made.log ++ [⟨command, reply⟩], next reply⟩ := by
  have bound : index < clients.calls.length := (List.getElem?_eq_some_iff.mp found).1
  cases step with
  | invoke method => exact .inl ⟨by rw [invoke, List.getElem?_append_left bound, found], .inl rfl⟩
  | @advance other method log command next reply redis advanced ran =>
      by_cases same : other = index
      · subst same
        cases found.symm.trans advanced
        refine .inr ⟨command, next, reply, rfl, ran, ?_⟩
        exact List.getElem?_set_self bound
      · refine .inl ⟨?_, .inr ⟨other, _, command, next, reply, same, advanced, rfl, ran⟩⟩
        exact (List.getElem?_set_ne same).trans found

theorem Step.method {made : MethodCall Key Record Data Error}
    (step : Step classes schemaName scan retryAttempts clients last)
    (found : clients.calls[index]? = some made) :
    ∃ later, last.calls[index]? = some later ∧ later.method = made.method := by
  rcases step_cases found step with ⟨kept, -⟩ | ⟨command, next, reply, -, -, kept⟩
  · exact ⟨made, kept, rfl⟩
  · exact ⟨_, kept, rfl⟩

/-- The other calls are about what they should be, and harmless or at their ends. -/
structure Uncrossed (classes : RecordClasses Key Record Klass State Data Value)
    (schemaName : Record → String) (quiet : RecordMethod Record → Prop) (index : Nat)
    (clients : StoreClients Key Record Data Error) : Prop where
  stays : ∀ (other : Nat) call, clients.calls[other]? = some call →
    call.routine.Only (Stays (place classes schemaName call.method) call.method.deletes)
  quiet : ∀ (other : Nat) call, clients.calls[other]? = some call → other ≠ index →
    quiet call.method ∨ ∃ result, call.routine = .done result

theorem stays_of_step {clients last : StoreClients Key Record Data Error}
    (stays : ∀ (other : Nat) call, clients.calls[other]? = some call →
      call.routine.Only (Stays (place classes schemaName call.method) call.method.deletes))
    (step : Step classes schemaName scan retryAttempts clients last) :
    ∀ (other : Nat) call, last.calls[other]? = some call →
      call.routine.Only (Stays (place classes schemaName call.method) call.method.deletes) := by
  intro other call found
  cases step with
  | invoke method =>
      rw [invoke] at found
      rcases List.mem_append.mp (List.mem_of_getElem? found) with old | new
      · rcases List.mem_iff_getElem?.mp old with ⟨place, there⟩
        exact stays place call there
      · cases List.mem_singleton.mp new
        exact only_executeWithRetry (only_method method) retryAttempts
  | @advance place method log command next reply redis advanced ran =>
      rcases List.mem_or_eq_of_mem_set (List.mem_of_getElem? found) with old | rfl
      · rcases List.mem_iff_getElem?.mp old with ⟨place, there⟩
        exact stays place call there
      · exact (stays place _ advanced).2 reply

theorem stays_of_reachable (reachable : Reachable classes schemaName scan retryAttempts clients) :
    ∀ (other : Nat) call, clients.calls[other]? = some call →
      call.routine.Only (Stays (place classes schemaName call.method) call.method.deletes) := by
  rcases reachable with ⟨redis, run⟩
  induction run with
  | refl => rintro _ _ ⟨⟩
  | tail before step induction => exact stays_of_step induction step

theorem Uncrossed.step {quiet : RecordMethod Record → Prop}
    (uncrossed : Uncrossed classes schemaName quiet index clients)
    (bound : index < clients.calls.length)
    (later : ∀ (other : Nat) call, last.calls[other]? = some call → index < other →
      quiet call.method)
    (step : Step classes schemaName scan retryAttempts clients last) :
    Uncrossed classes schemaName quiet index last where
  stays := stays_of_step uncrossed.stays step
  quiet := by
    intro other call found different
    cases step with
    | invoke method =>
        by_cases old : other < clients.calls.length
        · rw [invoke, List.getElem?_append_left old] at found
          exact uncrossed.quiet other call found different
        · exact .inl (later other call found (bound.trans_le (Nat.le_of_not_lt old)))
    | @advance place method log command next reply redis advanced ran =>
        by_cases same : place = other
        · subst same
          have kept : call.method = method := by
            rw [List.getElem?_set_self (List.getElem?_eq_some_iff.mp advanced).1] at found
            cases found
            rfl
          rcases uncrossed.quiet place _ advanced different with quiet | ⟨_, ⟨⟩⟩
          rw [kept]
          exact .inl quiet
        · rw [List.getElem?_set_ne same] at found
          exact uncrossed.quiet other call found different

/-- What the exchanges of a call say of the record at a place is so, and stays so among others. -/
structure Upholds (scan : Scan Key Data) (place : String × Key)
    (contract : Contract (@PoolReply Error Key Data))
    (interferes : Option Data → Option Data → Prop)
    (upheld : List (PoolInteraction Key Data Error) → Option Data → Prop) : Prop where
  own : ∀ log (command : PoolCommand Key Data) (reply : PoolReply Error command)
    (redis after : Redis Key Data), upheld log (redis.value place) →
    contract.allows log command → Executed scan redis command reply after →
    contract.relies log ⟨command, reply⟩ ∧ upheld (log ++ [⟨command, reply⟩]) (after.value place)
  other : ∀ log before after, upheld log before → interferes before after → upheld log after

/-- A call that keeps a contract, with what it has found out. -/
structure Underway (clients : StoreClients Key Record Data Error) (index : Nat)
    (method : RecordMethod Record) (place : String × Key)
    (contract : Contract (@PoolReply Error Key Data))
    (ends : List (PoolInteraction Key Data Error) →
      Except (SaveError Error) (Option (StoreOutcome Record)) → Prop)
    (upheld : List (PoolInteraction Key Data Error) → Option Data → Prop)
    (log : List (PoolInteraction Key Data Error))
    (routine : PoolRoutine Key Data Error
      (Except (SaveError Error) (Option (StoreOutcome Record)))) : Prop where
  found : clients.calls[index]? = some ⟨method, log, routine⟩
  keeps : routine.Keeps contract ends log
  holds : upheld log (clients.redis.value place)

theorem underway_of_run {method : RecordMethod Record} {home : String × Key}
    {contract : Contract (@PoolReply Error Key Data)}
    {interferes : Option Data → Option Data → Prop}
    {upheld : List (PoolInteraction Key Data Error) → Option Data → Prop}
    {ends : List (PoolInteraction Key Data Error) →
      Except (SaveError Error) (Option (StoreOutcome Record)) → Prop}
    {quiet : RecordMethod Record → Prop}
    (upholds : Upholds scan home contract interferes upheld)
    (harmless : ∀ (method : RecordMethod Record) (command : PoolCommand Key Data)
      (reply : PoolReply Error command) (redis after : Redis Key Data), quiet method →
      Stays (place classes schemaName method) method.deletes command →
      Executed scan redis command reply after → interferes (redis.value home) (after.value home))
    (reachable : Reachable classes schemaName scan retryAttempts clients)
    (idle : ∀ call ∈ clients.calls, quiet call.method ∨ ∃ result, call.routine = .done result)
    (keeps : (call classes schemaName retryAttempts method :
      MethodCall Key Record Data Error).routine.Keeps contract ends [])
    (holds : upheld [] (clients.redis.value home))
    (run : Run classes schemaName scan retryAttempts
      (clients.invoke classes schemaName retryAttempts method) last)
    (later : ∀ (other : Nat) call, last.calls[other]? = some call → clients.calls.length < other →
      quiet call.method) :
    ∃ log routine, Underway last clients.calls.length method home contract ends upheld log
      routine := by
  suffices invariant : Uncrossed classes schemaName quiet clients.calls.length last ∧
      ∃ log routine, Underway last clients.calls.length method home contract ends upheld log
        routine from invariant.2
  induction run with
  | refl =>
      refine ⟨⟨?_, ?_⟩, [], _, ⟨by simp [invoke, call], keeps, holds⟩⟩
      · have first : Step classes schemaName scan retryAttempts clients
            (clients.invoke classes schemaName retryAttempts method) := .invoke method
        exact stays_of_step (stays_of_reachable reachable) first
      · intro other made found different
        rw [invoke] at found
        rcases List.mem_append.mp (List.mem_of_getElem? found) with old | new
        · exact idle made old
        · have bound := (List.getElem?_eq_some_iff.mp found).1
          rw [List.length_append, List.length_singleton] at bound
          have early : other < clients.calls.length := by omega
          rw [List.getElem?_append_left early] at found
          exact idle made (List.mem_of_getElem? found)
  | @tail middle last before step induction =>
      have earlier : ∀ (other : Nat) call, middle.calls[other]? = some call →
          clients.calls.length < other → quiet call.method := by
        intro other made found behind
        rcases step.method found with ⟨kept, there, same⟩
        rw [← same]
        exact later other kept there behind
      rcases induction earlier with ⟨uncrossed, log, routine, underway⟩
      have bound := (List.getElem?_eq_some_iff.mp underway.found).1
      refine ⟨uncrossed.step bound later step, ?_⟩
      rcases step_cases underway.found step with ⟨kept, same | moved⟩ | advanced
      · refine ⟨log, routine, kept, underway.keeps, ?_⟩
        rw [same]
        exact underway.holds
      · rcases moved with ⟨other, made, command, next, reply, different, there, sends, ran⟩
        have harm : interferes (middle.redis.value home) (last.redis.value home) := by
          rcases uncrossed.quiet other made there different with quiet | ⟨_, ended⟩
          · have stays := uncrossed.stays other made there
            rw [sends] at stays
            exact harmless made.method command reply _ _ quiet stays.1 ran
          · cases sends.symm.trans ended
        exact ⟨log, routine, kept, underway.keeps, upholds.other _ _ _ underway.holds harm⟩
      · rcases advanced with ⟨command, next, reply, rfl, ran, kept⟩
        rcases underway.keeps with ⟨allowed, goesOn⟩
        have own := upholds.own _ _ _ _ _ underway.holds allowed ran
        exact ⟨_, _, kept, goesOn reply own.1, own.2⟩

end Among

end StoreClients

end EventPipeline
