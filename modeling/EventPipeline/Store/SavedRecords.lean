import EventPipeline.Store.Interchange
import EventPipeline.Store.SavingRuns

/-! # Saved and deleted records

A method that may be tried again, and whose commands may be lost, saves its record all the same:
saving is an insertion or an update. A deletion that is tried again may find that it has been done.
-/

namespace EventPipeline

open Routine

variable {Key Record Klass State Data Value Error : Type}

namespace PoolAttempt

/-! ## What the exchanges say -/

section Facts

variable (place : String × Key) (log : List (PoolInteraction Key Data Error))

/-- The server has said that the record is there. -/
def Seen : Prop :=
  ⟨.redis (.hexists place.1 place.2), .ok (.boolean true)⟩ ∈ log

/-- The server has said that it is not. -/
def Missed : Prop :=
  ⟨.redis (.hexists place.1 place.2), .ok (.boolean false)⟩ ∈ log

def Confirmed (command : RedisCommand Key Data) : Prop :=
  ∃ reply, ⟨.redis command, .ok reply⟩ ∈ log

end Facts

def saveContract (place : String × Key) (data : Data) :
    Contract (@PoolReply Error Key Data) where
  allows _
    | .redis (.hset name key other) => (name, key) = place ∧ other = data
    | command => Stays place false command
  relies log
    | ⟨.redis (.hexists _ _), .ok reply⟩ =>
        ∃ answer, reply = .boolean answer ∧ (Seen place log → answer = true)
    | _ => True

/-- Deleting writes nothing. -/
def deleteContract (place : String × Key) : Contract (@PoolReply Error Key Data) where
  allows _
    | .redis (.hset _ _ _) => False
    | command => Stays place true command
  relies _
    | ⟨.redis (.hexists _ _), .ok reply⟩ => ∃ answer, reply = .boolean answer
    | _ => True

section Keeps

variable {place : String × Key} {data : Data} {log : List (PoolInteraction Key Data Error)}
  {contract : Contract (@PoolReply Error Key Data)} {Result : Type}

theorem Seen.later {before : List (PoolInteraction Key Data Error)} (seen : Seen place before)
    (late : before <+: log) : Seen place log :=
  late.subset seen

/-- How the attempts of a method end, when those of one do. -/
structure EndsAs (contract : Contract (@PoolReply Error Key Data))
    (ends : List (PoolInteraction Key Data Error) → Except (SaveError Error) Result → Prop) :
    Prop where
  connection : ∀ log, contract.allows log .getConnection ∧ contract.allows log .releaseConnection
  ping : ∀ log, contract.allows log .ping
  raised : ∀ log error, ends log (.error (.raised error))
  refused : ∀ log message, ends log (.error (.connectionError message))
  later : ∀ log interaction result, ends log result → ends (log ++ [interaction]) result

variable {ends : List (PoolInteraction Key Data Error) → Except (SaveError Error) Result → Prop}

theorem keeps_send_bind (endsAs : EndsAs contract ends) {command : RedisCommand Key Data}
    {rest : RedisReply Key Data → PoolAttempt Key Data Error Result}
    (allowed : ∀ log, contract.allows log (.redis command))
    (goesOn : ∀ after reply, log <+: after →
      contract.relies after ⟨.redis command, .ok reply⟩ →
      (rest reply).run.Keeps contract ends (after ++ [⟨.redis command, .ok reply⟩])) :
    (send command >>= rest).run.Keeps contract ends log := by
  have asked : ∀ after, log <+: after →
      ((do answered (← ask (.redis command)) :
        PoolAttempt Key Data Error (RedisReply Key Data)) >>= rest).run.Keeps
          contract ends after := by
    intro after late
    refine Fallible.keeps_ask_bind (allowed after) ?_
    intro reply relied
    cases reply with
    | error error => exact endsAs.raised _ error
    | ok reply => exact goesOn after reply late relied
  rw [send]
  cases isChecked command with
  | false => exact asked log List.prefix_rfl
  | true =>
      refine Fallible.keeps_ask_bind (endsAs.ping log) ?_
      intro connected _
      rcases connected with error | connected
      · exact endsAs.raised _ error
      · cases connected with
        | false => exact endsAs.refused _ _
        | true => exact asked _ (List.prefix_append _ _)

theorem keeps_withConnection (endsAs : EndsAs contract ends)
    {method : PoolAttempt Key Data Error Result}
    (keeps : ∀ log, method.run.Keeps contract ends log) :
    (withConnection method).run.Keeps contract ends log := by
  have released : ∀ log, (releasing method).run.Keeps contract ends log := by
    intro log
    rw [releasing]
    refine Fallible.keeps_bind (Fallible.keeps_tryCatch (keeps log) (fun _ _ held => held) ?_)
      ?_ fun _ _ held => held
    · intro middle error held
      exact Fallible.keeps_ask_bind (endsAs.connection middle).2 fun _ _ =>
        endsAs.later _ _ _ held
    · intro middle result held
      exact Fallible.keeps_ask_bind (endsAs.connection middle).2 fun _ _ =>
        endsAs.later _ _ _ held
  rw [withConnection]
  refine Fallible.keeps_ask_bind (endsAs.connection log).1 ?_
  intro connection _
  cases connection with
  | error error => exact endsAs.raised _ error
  | ok connected => exact released _

theorem keeps_executeWithRetry (endsAs : EndsAs contract ends)
    {method : PoolAttempt Key Data Error Result}
    (keeps : ∀ log, method.run.Keeps contract ends log) {retryAttempts : Nat}
    (positive : 0 < retryAttempts) :
    (executeWithRetry retryAttempts method).run.Keeps contract
      (fun after result => ∃ last, ends after last ∧ result = last.map some) log := by
  have round : ∀ log, (some <$> withConnection method).run.Keeps contract
      (fun after result => ∃ last, ends after last ∧ result = last.map some) log := by
    intro log
    refine Fallible.keeps_bind (keeps_withConnection endsAs keeps) ?_ ?_
    · exact fun after value held => ⟨.ok value, held, rfl⟩
    · exact fun after error held => ⟨.error error, held, rfl⟩
  have retried : ∀ left error log, ends log (.error error) →
      (retry method left error).run.Keeps contract
        (fun after result => ∃ last, ends after last ∧ result = last.map some) log := by
    intro left
    induction left with
    | zero => exact fun error log held => ⟨.error error, held, rfl⟩
    | succ left induction =>
        intro error log _
        rw [retry]
        refine Fallible.keeps_tryCatch (round log) (fun _ _ held => held) ?_
        rintro after error ⟨last, held, same⟩
        cases last with
        | ok value => cases same
        | error other =>
            cases same
            exact induction error after held
  cases retryAttempts with
  | zero => exact absurd positive (Nat.lt_irrefl _)
  | succ left =>
      refine Fallible.keeps_tryCatch (round log) (fun _ _ held => held) ?_
      rintro after error ⟨last, held, same⟩
      cases last with
      | ok value => cases same
      | error other =>
          cases same
          exact retried left error after held

theorem confirmed_append {command : RedisCommand Key Data}
    (interaction : PoolInteraction Key Data Error) (confirmed : Confirmed log command) :
    Confirmed (log ++ [interaction]) command := by
  rcases confirmed with ⟨reply, member⟩
  exact ⟨reply, List.mem_append_left _ member⟩

end Keeps

/-! ## The methods -/

section Methods

variable {log : List (PoolInteraction Key Data Error)}
  (classes : RecordClasses Key Record Klass State Data Value) {name : String} {key : Key}
  (record : Record)

def dataOf : Data := classes.dumps (classes.getState record)

structure SaveEnds (name : String) (key : Key) (log : List (PoolInteraction Key Data Error))
    (result : Except (SaveError Error) (StoreOutcome Record)) : Prop where
  returned : ∀ outcome, result = .ok outcome →
    Confirmed log (.hset name key (dataOf classes record))
  unrefused : ∀ error, result ≠ .error (.store error)

theorem endsAs_saveEnds :
    EndsAs (@saveContract Key Data Error (name, key) (dataOf classes record))
      (SaveEnds classes record name key) where
  connection _ := ⟨trivial, trivial⟩
  ping _ := trivial
  raised _ _ := ⟨by rintro _ ⟨⟩, by rintro _ ⟨⟩⟩
  refused _ _ := ⟨by rintro _ ⟨⟩, by rintro _ ⟨⟩⟩
  later _ interaction _ ends :=
    ⟨fun outcome same => confirmed_append interaction (ends.returned outcome same), ends.unrefused⟩

/-- How an insertion ends. -/
structure InsertEnds (name : String) (key : Key) (log : List (PoolInteraction Key Data Error))
    (result : Except (SaveError Error) (StoreOutcome Record)) : Prop where
  returned : ∀ outcome, result = .ok outcome →
    Confirmed log (.hset name key (dataOf classes record))
  exists_seen : ∀ error, result = .error (.store error) →
    (∃ message, error = .objectExistError message) ∧ Seen (name, key) log

theorem endsAs_insertEnds :
    EndsAs (@saveContract Key Data Error (name, key) (dataOf classes record))
      (InsertEnds classes record name key) where
  connection _ := ⟨trivial, trivial⟩
  ping _ := trivial
  raised _ _ := ⟨by rintro _ ⟨⟩, by rintro _ ⟨⟩⟩
  refused _ _ := ⟨by rintro _ ⟨⟩, by rintro _ ⟨⟩⟩
  later _ interaction _ ends := by
    refine ⟨fun outcome same => confirmed_append interaction (ends.returned outcome same), ?_⟩
    intro error same
    have seen := ends.exists_seen error same
    exact ⟨seen.1, seen.2.later (List.prefix_append _ _)⟩

variable {classes record}
  {ends : List (PoolInteraction Key Data Error) →
    Except (SaveError Error) (StoreOutcome Record) → Prop}

theorem keeps_hset (endsAs : EndsAs (saveContract (name, key) (dataOf classes record)) ends)
    (confirmed : ∀ log, Confirmed log (.hset name key (dataOf classes record)) →
      ends log (.ok .nothing)) :
    (perform (RedisStore.hset classes name key record) :
      PoolAttempt Key Data Error (StoreOutcome Record)).run.Keeps
      (saveContract (name, key) (dataOf classes record)) ends log := by
  refine keeps_send_bind endsAs (fun _ => ⟨rfl, rfl⟩) ?_
  intro after reply _ _
  exact confirmed _ ⟨reply, List.mem_append_right _ (List.mem_singleton_self _)⟩

theorem keeps_checkExists {data : Data} (endsAs : EndsAs (saveContract (name, key) data) ends)
    {next : Bool → RedisStore.RedisProgram Key Record Data}
    (goesOn : ∀ after answer, (Seen (name, key) log → answer = true) →
      (answer = true → Seen (name, key) after) →
      (perform (next answer) : PoolAttempt Key Data Error (StoreOutcome Record)).run.Keeps
        (saveContract (name, key) data) ends after) :
    (perform (RedisStore.checkExists name key next) :
      PoolAttempt Key Data Error (StoreOutcome Record)).run.Keeps
      (saveContract (name, key) data) ends log := by
  refine keeps_send_bind endsAs (fun _ => rfl) ?_
  rintro after _ late ⟨answer, rfl, seen⟩
  refine goesOn _ answer (fun before => seen (before.later late)) ?_
  rintro rfl
  exact List.mem_append_right _ (List.mem_singleton_self _)

theorem keeps_insertRecord :
    (perform (RedisStore.insertRecord classes name key record) :
      PoolAttempt Key Data Error (StoreOutcome Record)).run.Keeps
      (saveContract (name, key) (dataOf classes record)) (InsertEnds classes record name key)
      log := by
  refine keeps_checkExists (endsAs_insertEnds classes record) ?_
  intro after answer _ seen
  cases answer with
  | true =>
      refine ⟨by rintro _ ⟨⟩, ?_⟩
      rintro _ ⟨⟩
      exact ⟨⟨_, rfl⟩, seen rfl⟩
  | false =>
      refine keeps_hset (endsAs_insertEnds classes record) ?_
      intro log confirmed
      exact ⟨fun _ _ => confirmed, by rintro _ ⟨⟩⟩

theorem keeps_updateRecord (seen : Seen (name, key) log) :
    (perform (RedisStore.updateRecord classes name key record) :
      PoolAttempt Key Data Error (StoreOutcome Record)).run.Keeps
      (saveContract (name, key) (dataOf classes record)) (SaveEnds classes record name key)
      log := by
  refine keeps_checkExists (endsAs_saveEnds classes record) ?_
  intro after answer present _
  rw [present seen]
  refine keeps_hset (endsAs_saveEnds classes record) ?_
  intro log confirmed
  exact ⟨fun _ _ => confirmed, by rintro _ ⟨⟩⟩

theorem keeps_save (schemaName : Record → String) :
    (save classes schemaName record :
      PoolAttempt Key Data Error (StoreOutcome Record)).run.Keeps
      (saveContract (schemaName record, classes.id record) (dataOf classes record))
      (SaveEnds classes record (schemaName record) (classes.id record)) log := by
  refine Fallible.keeps_tryCatch keeps_insertRecord ?_ ?_
  · exact fun after outcome ends => ⟨ends.returned, by rintro _ ⟨⟩⟩
  · intro after error ends
    cases error with
    | store error =>
        rcases ends.exists_seen error rfl with ⟨⟨message, rfl⟩, seen⟩
        exact keeps_updateRecord seen
    | connectionError message => exact ⟨by rintro _ ⟨⟩, by rintro _ ⟨⟩⟩
    | raised error => exact ⟨by rintro _ ⟨⟩, by rintro _ ⟨⟩⟩

/-- How a deletion ends. -/
structure DeleteEnds (name : String) (key : Key) (log : List (PoolInteraction Key Data Error))
    (result : Except (SaveError Error) (StoreOutcome Record)) : Prop where
  returned : ∀ outcome, result = .ok outcome → Confirmed log (.hdel name key)
  missed : ∀ error, result = .error (.store error) →
    error = recordDoesNotExist name ∧ Missed (name, key) log

theorem endsAs_deleteEnds :
    EndsAs (@deleteContract Key Data Error (name, key))
      (@DeleteEnds Key Record Data Error name key) where
  connection _ := ⟨trivial, trivial⟩
  ping _ := trivial
  raised _ _ := ⟨by rintro _ ⟨⟩, by rintro _ ⟨⟩⟩
  refused _ _ := ⟨by rintro _ ⟨⟩, by rintro _ ⟨⟩⟩
  later _ interaction _ ends := by
    refine ⟨fun outcome same => confirmed_append interaction (ends.returned outcome same), ?_⟩
    intro error same
    have missed := ends.missed error same
    exact ⟨missed.1, List.mem_append_left _ missed.2⟩

theorem keeps_deleteRecord :
    (perform (RedisStore.deleteRecord name key) :
      PoolAttempt Key Data Error (StoreOutcome Record)).run.Keeps
      (deleteContract (name, key)) (DeleteEnds name key) log := by
  refine keeps_send_bind endsAs_deleteEnds (fun _ => rfl) ?_
  rintro after _ _ ⟨answer, rfl⟩
  cases answer with
  | false =>
      refine ⟨by rintro _ ⟨⟩, ?_⟩
      rintro _ ⟨⟩
      exact ⟨rfl, List.mem_append_right _ (List.mem_singleton_self _)⟩
  | true =>
      refine keeps_send_bind endsAs_deleteEnds (fun _ => ⟨rfl, rfl⟩) ?_
      intro later reply _ _
      refine ⟨fun _ _ => ⟨reply, List.mem_append_right _ (List.mem_singleton_self _)⟩, ?_⟩
      rintro _ ⟨⟩

end Methods

end PoolAttempt

namespace StoreClients

open PoolAttempt

section Upheld

variable [DecidableEq Key] {scan : Scan Key Data} {place : String × Key} {data : Data}

/-! ## What the exchanges say is so -/

omit [DecidableEq Key] in
theorem mem_of_append_ne {log : List (PoolInteraction Key Data Error)}
    {interaction last : PoolInteraction Key Data Error} (member : interaction ∈ log ++ [last])
    (different : interaction ≠ last) : interaction ∈ log := by
  rcases List.mem_append.mp member with old | new
  · exact old
  · exact absurd (List.mem_singleton.mp new) different

theorem upholds_seen :
    Upholds scan place (@saveContract Key Data Error place data)
      (fun before after => before ≠ none → after ≠ none)
      (fun log value => Seen place log → value ≠ none) where
  other _ _ _ upheld interferes seen := interferes (upheld seen)
  own := by
    intro log command reply redis after upheld allowed ran
    have stays : Stays place false command := by
      cases command with
      | redis command =>
          cases command with
          | hset name key other => exact allowed.1
          | hexists | hlen | hdel | hget | hscan => exact allowed
      | getConnection | releaseConnection | ping => exact trivial
    have present : redis.value place ≠ none → after.value place ≠ none := value_ne_none stays ran
    cases ran with
    | getConnection | releaseConnection | ping =>
        refine ⟨trivial, fun seen => upheld (mem_of_append_ne seen (by rintro ⟨⟩))⟩
    | refused command error =>
        refine ⟨?_, fun seen => upheld (mem_of_append_ne seen (by rintro ⟨⟩))⟩
        cases command with
        | _ => exact trivial
    | lost command error =>
        refine ⟨?_, fun seen => present (upheld (mem_of_append_ne seen (by rintro ⟨⟩)))⟩
        cases command with
        | _ => exact trivial
    | answered command =>
        cases command with
        | hexists name key =>
            obtain rfl : (name, key) = place := allowed
            refine ⟨⟨_, rfl, fun seen => Option.isSome_iff_ne_none.mpr (upheld seen)⟩, ?_⟩
            intro seen
            rcases List.mem_append.mp seen with old | new
            · exact upheld old
            · have answer : (redis.value (name, key)).isSome = true := by
                have same := List.mem_singleton.mp new
                simp only [Redis.exec, Interaction.mk.injEq, heq_eq_eq, Except.ok.injEq,
                  RedisReply.boolean.injEq, true_and] at same
                exact same.symm
              exact Option.isSome_iff_ne_none.mp answer
        | hset | hget =>
            exact ⟨trivial, fun seen => present (upheld (mem_of_append_ne seen (by rintro ⟨⟩)))⟩
        | hdel name key => cases allowed.2
        | hlen | hscan => exact absurd allowed id

theorem value_of_save {redis after : Redis Key Data} {command : PoolCommand Key Data}
    {reply : PoolReply Error command} {log : List (PoolInteraction Key Data Error)}
    (allowed : (saveContract place data).allows log command)
    (ran : Executed scan redis command reply after) :
    after.value place = some data ∨ after.value place = redis.value place ∧
      ∀ answer, (⟨command, reply⟩ : PoolInteraction Key Data Error) ≠
        ⟨.redis (.hset place.1 place.2 data), .ok answer⟩ := by
  have executed : ∀ command : RedisCommand Key Data,
      (@saveContract Key Data Error place data).allows log (.redis command) →
      (redis.exec scan command).1.value place = some data ∨
        (redis.exec scan command).1.value place = redis.value place ∧
          command ≠ .hset place.1 place.2 data := by
    intro command allowed
    cases command with
    | hset name key other =>
        rcases allowed with ⟨rfl, rfl⟩
        rw [value_hset, if_pos rfl]
        exact .inl rfl
    | hexists | hget => exact .inr ⟨rfl, by rintro ⟨⟩⟩
    | hdel => cases allowed.2
    | hlen | hscan => exact absurd allowed id
  cases ran with
  | getConnection | releaseConnection | ping | refused => exact .inr ⟨rfl, by rintro _ ⟨⟩⟩
  | answered command =>
      rcases executed command allowed with written | ⟨same, other⟩
      · exact .inl written
      · refine .inr ⟨same, ?_⟩
        rintro answer equal
        cases equal
        exact other rfl
  | lost command error =>
      rcases executed command allowed with written | ⟨same, other⟩
      · exact .inl written
      · exact .inr ⟨same, by rintro _ ⟨⟩⟩

structure SavedSoFar (place : String × Key) (old : Option Data) (data : Data)
    (log : List (PoolInteraction Key Data Error)) (value : Option Data) : Prop where
  seen : Seen place log → value ≠ none
  either : value = old ∨ value = some data
  confirmed : Confirmed log (.hset place.1 place.2 data) → value = some data

theorem upholds_savedSoFar (old : Option Data) :
    Upholds scan place (@saveContract Key Data Error place data)
      (fun before after => after = before) (SavedSoFar place old data) where
  other := by
    rintro log before _ upheld rfl
    exact upheld
  own := by
    intro log command reply redis after upheld allowed ran
    have seen := upholds_seen.own log command reply redis after upheld.seen allowed ran
    refine ⟨seen.1, seen.2, ?_, ?_⟩
    · rcases value_of_save allowed ran with written | ⟨same, -⟩
      · exact .inr written
      · rw [same]
        exact upheld.either
    · rintro ⟨answer, member⟩
      rcases value_of_save allowed ran with written | ⟨same, other⟩
      · exact written
      · rw [same]
        exact upheld.confirmed ⟨answer, mem_of_append_ne member (Ne.symm (other answer))⟩

structure DeletedSoFar (place : String × Key) (old : Option Data)
    (log : List (PoolInteraction Key Data Error)) (value : Option Data) : Prop where
  either : value = old ∨ value = none
  missed : Missed place log → value = none
  confirmed : Confirmed log (.hdel place.1 place.2) → value = none

theorem upholds_deletedSoFar (old : Option Data) :
    Upholds scan place (@deleteContract Key Data Error place)
      (fun before after => after = before) (DeletedSoFar place old) where
  other := by
    rintro log before _ upheld rfl
    exact upheld
  own := by
    intro log command reply redis after upheld allowed ran
    have untouched : ∀ last : PoolInteraction Key Data Error,
        (∀ answer, last ≠ ⟨.redis (.hdel place.1 place.2), .ok answer⟩) →
        last ≠ ⟨.redis (.hexists place.1 place.2), .ok (.boolean false)⟩ →
        DeletedSoFar place old (log ++ [last]) (redis.value place) := by
      intro last notDeleted notMissed
      refine ⟨upheld.either, ?_, ?_⟩
      · exact fun missed => upheld.missed (mem_of_append_ne missed (Ne.symm notMissed))
      · rintro ⟨answer, member⟩
        exact upheld.confirmed ⟨answer, mem_of_append_ne member (Ne.symm (notDeleted answer))⟩
    have gone : ∀ log : List (PoolInteraction Key Data Error), DeletedSoFar place old log none :=
      fun _ => ⟨.inr rfl, fun _ => rfl, fun _ => rfl⟩
    cases ran with
    | getConnection | releaseConnection | ping =>
        exact ⟨trivial, untouched _ (by rintro _ ⟨⟩) (by rintro ⟨⟩)⟩
    | refused command error =>
        refine ⟨?_, untouched _ (by rintro _ ⟨⟩) (by rintro ⟨⟩)⟩
        cases command with
        | _ => exact trivial
    | lost command error =>
        cases command with
        | hexists | hget => exact ⟨trivial, untouched _ (by rintro _ ⟨⟩) (by rintro ⟨⟩)⟩
        | hdel name key =>
            obtain rfl : (name, key) = place := allowed.1
            rw [value_hdel, if_pos rfl]
            exact ⟨trivial, gone _⟩
        | hset | hlen | hscan => exact absurd allowed id
    | answered command =>
        cases command with
        | hexists name key =>
            obtain rfl : (name, key) = place := allowed
            refine ⟨⟨_, rfl⟩, ?_⟩
            change DeletedSoFar (name, key) old _ (redis.value (name, key))
            cases value : redis.value (name, key) with
            | none => exact gone _
            | some data =>
                rw [← value]
                refine untouched _ (by rintro _ ⟨⟩) ?_
                have present : (OrderedDict.get key (redis name)).isSome = true := by
                  rw [show OrderedDict.get key (redis name) = some data from value]
                  rfl
                simp [Redis.exec, present]
        | hget name key => exact ⟨trivial, untouched _ (by rintro _ ⟨⟩) (by rintro ⟨⟩)⟩
        | hdel name key =>
            obtain rfl : (name, key) = place := allowed.1
            rw [value_hdel, if_pos rfl]
            exact ⟨trivial, gone _⟩
        | hset | hlen | hscan => exact absurd allowed id

end Upheld

/-! ## Results -/

section Results

variable [DecidableEq Key] {scan : Scan Key Data}
  {classes : RecordClasses Key Record Klass State Data Value}
  {schemaName : Record → String} {retryAttempts : Nat}
  {first last : StoreClients Key Record Data Error}

/-- A save whose record no other call uses leaves the record as it was or as it is saved, however
often its commands fail or are lost. When it returns, the record is saved, and what it raises comes
from the connection. -/
theorem save_alone {record : Record} (positive : 0 < retryAttempts)
    (reachable : Reachable classes schemaName scan retryAttempts first)
    (idle : ∀ call ∈ first.calls,
      place classes schemaName call.method ≠ home classes schemaName record ∨
        ∃ result, call.routine = .done result)
    (run : Run classes schemaName scan retryAttempts
      (first.invoke classes schemaName retryAttempts (.save record)) last)
    (later : ∀ (other : Nat) call, last.calls[other]? = some call → first.calls.length < other →
      place classes schemaName call.method ≠ home classes schemaName record) :
    ∃ log routine, last.calls[first.calls.length]? = some ⟨.save record, log, routine⟩ ∧
      (last.redis.value (home classes schemaName record) =
          first.redis.value (home classes schemaName record) ∨
        last.redis.value (home classes schemaName record) =
          some (dataOf classes record)) ∧
      ∀ result, routine = .done result →
        (∃ outcome, result = .ok (some outcome)) ∧
          last.redis.value (home classes schemaName record) =
            some (dataOf classes record) ∨
        ∃ error, result = .error error ∧ ∀ refusal, error ≠ .store refusal := by
  have keeps : (call classes schemaName retryAttempts (.save record) :
      MethodCall Key Record Data Error).routine.Keeps _ _ [] :=
    keeps_executeWithRetry (endsAs_saveEnds classes record) (fun _ => keeps_save schemaName)
      positive
  rcases underway_of_run (upholds_savedSoFar _) (fun _ _ _ _ _ => value_of_elsewhere) reachable
    idle keeps ⟨by rintro ⟨⟩, .inl rfl, by rintro ⟨_, ⟨⟩⟩⟩ run later with ⟨log, routine, underway⟩
  refine ⟨log, routine, underway.found, underway.holds.either, ?_⟩
  rintro result rfl
  rcases underway.keeps with ⟨ended, ends, rfl⟩
  cases ended with
  | ok outcome =>
      exact .inl ⟨⟨outcome, rfl⟩, underway.holds.confirmed (ends.returned outcome rfl)⟩
  | error error =>
      refine .inr ⟨error, rfl, ?_⟩
      rintro refusal rfl
      exact ends.unrefused refusal rfl

/-- Among clients that do not delete its record, a save raises nothing but what comes from the
connection, whoever else inserts, saves or updates the record at the same time. -/
theorem save_unrefused {record : Record} (positive : 0 < retryAttempts)
    (reachable : Reachable classes schemaName scan retryAttempts first)
    (idle : ∀ call ∈ first.calls,
      (call.method.deletes = true →
        place classes schemaName call.method ≠ home classes schemaName record) ∨
        ∃ result, call.routine = .done result)
    (run : Run classes schemaName scan retryAttempts
      (first.invoke classes schemaName retryAttempts (.save record)) last)
    (later : ∀ (other : Nat) call, last.calls[other]? = some call → first.calls.length < other →
      call.method.deletes = true →
        place classes schemaName call.method ≠ home classes schemaName record) :
    ∃ log routine, last.calls[first.calls.length]? = some ⟨.save record, log, routine⟩ ∧
      ∀ error, routine ≠ .done (.error (.store error)) := by
  have keeps : (call classes schemaName retryAttempts (.save record) :
      MethodCall Key Record Data Error).routine.Keeps _ _ [] :=
    keeps_executeWithRetry (endsAs_saveEnds classes record) (fun _ => keeps_save schemaName)
      positive
  have harmless : ∀ (method : RecordMethod Record) (command : PoolCommand Key Data)
      (reply : PoolReply Error command) (redis after : Redis Key Data),
      (method.deletes = true →
        place classes schemaName method ≠ home classes schemaName record) →
      Stays (place classes schemaName method) method.deletes command →
      Executed scan redis command reply after →
      redis.value (home classes schemaName record) ≠ none →
      after.value (home classes schemaName record) ≠ none := by
    intro method command reply redis after quiet stays ran present
    cases deletes : method.deletes with
    | true => rwa [value_of_elsewhere (quiet deletes) stays ran]
    | false =>
        rw [deletes] at stays
        exact value_ne_none stays ran present
  rcases underway_of_run upholds_seen harmless reachable idle keeps (by rintro ⟨⟩) run later with
    ⟨log, routine, underway⟩
  refine ⟨log, routine, underway.found, ?_⟩
  rintro error rfl
  rcases underway.keeps with ⟨ended, ends, same⟩
  cases ended with
  | ok outcome => cases same
  | error other =>
      cases same
      exact ends.unrefused error rfl

/-- A deletion whose record no other call uses leaves the record as it was or removes it. When it
returns, and also when it says that there is no such record, the record is not there. -/
theorem delete_alone {record : Record} (positive : 0 < retryAttempts)
    (reachable : Reachable classes schemaName scan retryAttempts first)
    (idle : ∀ call ∈ first.calls,
      place classes schemaName call.method ≠ home classes schemaName record ∨
        ∃ result, call.routine = .done result)
    (run : Run classes schemaName scan retryAttempts
      (first.invoke classes schemaName retryAttempts (.delete record)) last)
    (later : ∀ (other : Nat) call, last.calls[other]? = some call → first.calls.length < other →
      place classes schemaName call.method ≠ home classes schemaName record) :
    ∃ log routine, last.calls[first.calls.length]? = some ⟨.delete record, log, routine⟩ ∧
      (last.redis.value (home classes schemaName record) =
          first.redis.value (home classes schemaName record) ∨
        last.redis.value (home classes schemaName record) = none) ∧
      ∀ result, routine = .done result →
        ((∃ outcome, result = .ok (some outcome)) ∨
          result = .error (.store (recordDoesNotExist (schemaName record)))) ∧
          last.redis.value (home classes schemaName record) = none ∨
        ∃ error, result = .error error ∧ ∀ refusal, error ≠ .store refusal := by
  have keeps : (call classes schemaName retryAttempts (.delete record) :
      MethodCall Key Record Data Error).routine.Keeps _ _ [] :=
    keeps_executeWithRetry endsAs_deleteEnds (fun _ => keeps_deleteRecord) positive
  rcases underway_of_run (upholds_deletedSoFar _) (fun _ _ _ _ _ => value_of_elsewhere) reachable
    idle keeps ⟨.inl rfl, by rintro ⟨⟩, by rintro ⟨_, ⟨⟩⟩⟩ run later with
    ⟨log, routine, underway⟩
  refine ⟨log, routine, underway.found, underway.holds.either, ?_⟩
  rintro result rfl
  rcases underway.keeps with ⟨ended, ends, rfl⟩
  cases ended with
  | ok outcome =>
      exact .inl ⟨.inl ⟨outcome, rfl⟩, underway.holds.confirmed (ends.returned outcome rfl)⟩
  | error error =>
      cases error with
      | store error =>
          rcases ends.missed error rfl with ⟨rfl, missed⟩
          exact .inl ⟨.inr rfl, underway.holds.missed missed⟩
      | connectionError message => exact .inr ⟨_, rfl, by rintro _ ⟨⟩⟩
      | raised error => exact .inr ⟨_, rfl, by rintro _ ⟨⟩⟩

end Results

/-! ## Playing a schedule -/

/-- How a command fares. -/
inductive Delivery
  | answered
  | refused
  | lost

section Play

variable [DecidableEq Key] (classes : RecordClasses Key Record Klass State Data Value)
  (schemaName : Record → String) (scan : Scan Key Data) (retryAttempts : Nat) (error : Error)

def deliver (redis : Redis Key Data) :
    Delivery → (command : PoolCommand Key Data) → PoolReply Error command × Redis Key Data
  | _, .releaseConnection => ((), redis)
  | .answered, .getConnection => (.ok (), redis)
  | .answered, .ping => (.ok true, redis)
  | .answered, .redis command => (.ok (redis.exec scan command).2, (redis.exec scan command).1)
  | .refused, .getConnection | .refused, .ping | .refused, .redis _
  | .lost, .getConnection | .lost, .ping => (.error error, redis)
  | .lost, .redis command => (.error error, (redis.exec scan command).1)

/-- One call goes on, as long as it has commands to send. -/
def play (index : Nat) : List Delivery → StoreClients Key Record Data Error →
    StoreClients Key Record Data Error
  | [], clients => clients
  | delivery :: rest, clients =>
      match clients.calls[index]? with
      | some ⟨method, log, .send command next⟩ =>
          let (reply, redis) := deliver scan error clients.redis delivery command
          play index rest
            { redis
              calls := clients.calls.set index ⟨method, log ++ [⟨command, reply⟩], next reply⟩ }
      | some ⟨_, _, .done _⟩ | none => clients

variable {classes schemaName scan retryAttempts error}
  {clients : StoreClients Key Record Data Error}

theorem executed_deliver (redis : Redis Key Data) (delivery : Delivery)
    (command : PoolCommand Key Data) :
    Executed scan redis command (deliver scan error redis delivery command).1
      (deliver scan error redis delivery command).2 := by
  cases command with
  | releaseConnection => cases delivery <;> exact .releaseConnection
  | getConnection => cases delivery <;> exact .getConnection _
  | ping => cases delivery <;> exact .ping _
  | redis command =>
      cases delivery with
      | answered => exact .answered command
      | refused => exact .refused command error
      | lost => exact .lost command error

theorem run_play (index : Nat) (deliveries : List Delivery) :
    Run classes schemaName scan retryAttempts clients
      (play scan error index deliveries clients) := by
  induction deliveries generalizing clients with
  | nil => exact .refl
  | cons delivery rest induction =>
      rw [play]
      split
      · rename_i method log command next found
        have ran : Executed scan clients.redis command
            (deliver scan error clients.redis delivery command).1
            (deliver scan error clients.redis delivery command).2 :=
          executed_deliver clients.redis delivery command
        exact .head (.advance found ran) induction
      · exact .refl
      · exact .refl

end Play

/-- How a call has ended, without what it has returned. -/
def ended? (clients : StoreClients Key Record Data Error) (index : Nat) :
    Option (Except (SaveError Error) Bool) :=
  match clients.calls[index]? with
  | some ⟨_, _, .done result⟩ => some (result.map Option.isSome)
  | some ⟨_, _, .send _ _⟩ | none => none

theorem routine_of_ended {clients : StoreClients Key Record Data Error} {index : Nat}
    {result : Except (SaveError Error) Bool} (ended : clients.ended? index = some result) :
    ∃ method log last, clients.calls[index]? = some ⟨method, log, .done last⟩ ∧
      last.map Option.isSome = result := by
  rw [ended?] at ended
  split at ended
  · rename_i method log last found
    exact ⟨method, log, last, found, Option.some.inj ended⟩
  · cases ended
  · cases ended

def numberServer (hash : List (Nat × Nat)) : StoreClients Nat Nat Nat String where
  redis name := if name = "S" then hash else []

def besideSave (hash : List (Nat × Nat)) : StoreClients Nat Nat Nat String :=
  play onePage "timeout" 0 (List.replicate 3 .answered)
    ((numberServer hash).invoke numberRecords (fun _ => "S") 3 (.save 8))

theorem reachable_besideSave (hash : List (Nat × Nat)) :
    Reachable numberRecords (fun _ => "S") onePage 3 (besideSave hash) :=
  ⟨fun name => if name = "S" then hash else [], .head (.invoke (.save 8)) (run_play 0 _)⟩

theorem place_besideSave {call : MethodCall Nat Nat Nat String} {hash : List (Nat × Nat)}
    (member : call ∈ (besideSave hash).calls) :
    place numberRecords (fun _ => "S") call.method ≠ home numberRecords (fun _ => "S") 7 := by
  have saves : call.method = .save 8 := by
    rcases List.mem_singleton.mp member with rfl
    rfl
  rw [saves]
  decide

/-- A call loses the answer to its fourth command. Before it tries again, the other client
saves. -/
def withLoss (method : RecordMethod Nat) (hash : List (Nat × Nat)) :
    StoreClients Nat Nat Nat String :=
  play onePage "timeout" 1 (List.replicate 9 .answered)
    (play onePage "timeout" 0 (List.replicate 9 .answered)
      (play onePage "timeout" 1 (List.replicate 3 .answered ++ [.lost])
        ((besideSave hash).invoke numberRecords (fun _ => "S") 3 method)))

theorem run_withLoss (method : RecordMethod Nat) (hash : List (Nat × Nat)) :
    Run numberRecords (fun _ => "S") onePage 3
      ((besideSave hash).invoke numberRecords (fun _ => "S") 3 method) (withLoss method hash) :=
  (run_play 1 _).trans ((run_play 0 _).trans (run_play 1 _))

theorem latest_of_length {clients : StoreClients Nat Nat Nat String} {index other : Nat}
    {call : MethodCall Nat Nat Nat String} (length : clients.calls.length = index + 1)
    (found : clients.calls[other]? = some call) : ¬index < other := by
  have bound := (List.getElem?_eq_some_iff.mp found).1
  omega

/-- The first insertion reaches the server, and its answer is lost. -/
theorem save_alone_retried : (withLoss (.save 7) []).redis.value ("S", 7) = some 7 ∧
    (withLoss (.save 7) []).ended? 0 = some (.ok true) := by
  have ended : (withLoss (.save 7) []).ended? 1 = some (.ok true) := by decide +kernel
  have beside : (withLoss (.save 7) []).ended? 0 = some (.ok true) := by decide +kernel
  have length : (withLoss (.save 7) []).calls.length = 1 + 1 := by decide +kernel
  refine ⟨?_, beside⟩
  rcases save_alone (by decide) (reachable_besideSave [])
      (fun call member => .inl (place_besideSave member))
      (run_withLoss (.save 7) [])
      (fun other call found behind => absurd behind (latest_of_length length found))
    with ⟨log, routine, found, -, results⟩
  rcases routine_of_ended ended with ⟨method, other, result, there, same⟩
  cases found.symm.trans there
  rcases results result rfl with ⟨-, saved⟩ | ⟨error, rfl, -⟩
  · exact saved
  · cases same

/-- Another client saves the same record while its check is on the way. -/
def saveTwice : StoreClients Nat Nat Nat String :=
  play onePage "timeout" 1 (List.replicate 8 .answered)
    ((play onePage "timeout" 0 (List.replicate 3 .answered)
      ((numberServer []).invoke numberRecords (fun _ => "S") 3 (.save 7))).invoke
        numberRecords (fun _ => "S") 3 (.save 7))

theorem save_unrefused_twice : ∃ log routine, saveTwice.calls[1]? = some ⟨.save 7, log, routine⟩ ∧
    ∀ error, routine ≠ .done (.error (.store error)) := by
  have first : Reachable numberRecords (fun _ => "S") onePage 3
      (play onePage "timeout" 0 (List.replicate 3 .answered)
        ((numberServer []).invoke numberRecords (fun _ => "S") 3 (.save 7))) :=
    ⟨fun name => if name = "S" then [] else [], .head (.invoke (.save 7)) (run_play 0 _)⟩
  have run : Run numberRecords (fun _ => "S") onePage 3 _ saveTwice := run_play 1 _
  have two : saveTwice.calls.length = 1 + 1 := by decide +kernel
  apply save_unrefused (by decide) first _ run _
  · intro call member
    refine .inl ?_
    have saves : call.method = .save 7 := by
      rcases List.mem_singleton.mp member with rfl
      rfl
    rw [saves]
    rintro ⟨⟩
  · exact fun other call found behind => absurd behind (latest_of_length two found)

/-- The record was there, and the deletion that has removed it says that it was not. -/
theorem delete_alone_retried : (withLoss (.delete 7) [(7, 7)]).redis.value ("S", 7) = none ∧
    (withLoss (.delete 7) [(7, 7)]).ended? 1 =
      some (.error (.store (recordDoesNotExist "S"))) := by
  have ended : (withLoss (.delete 7) [(7, 7)]).ended? 1 =
      some (.error (.store (recordDoesNotExist "S"))) := by
    decide +kernel
  have length : (withLoss (.delete 7) [(7, 7)]).calls.length = 1 + 1 := by decide +kernel
  refine ⟨?_, ended⟩
  rcases delete_alone (by decide) (reachable_besideSave [(7, 7)])
      (fun call member => .inl (place_besideSave member))
      (run_withLoss (.delete 7) [(7, 7)])
      (fun other call found behind => absurd behind (latest_of_length length found))
    with ⟨log, routine, found, -, results⟩
  rcases routine_of_ended ended with ⟨method, other, result, there, same⟩
  cases found.symm.trans there
  rcases results result rfl with ⟨-, removed⟩ | ⟨error, rfl, other⟩
  · exact removed
  · cases same
    exact absurd rfl (other _)

end StoreClients

end EventPipeline
