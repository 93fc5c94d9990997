import Mathlib.Data.List.Infix

/-! # Routines

What a thread does, as the commands that it sends to what it shares with other threads. Each
command has replies of a type of its own, and the routine goes on with the reply. What a routine
may send and what it may count on is a contract over the exchanges that it has had so far.
-/

namespace EventPipeline

inductive Routine (Command : Type) (Reply : Command → Type) (Result : Type)
  | done (result : Result)
  | send (command : Command) (next : Reply command → Routine Command Reply Result)

structure Interaction {Command : Type} (Reply : Command → Type) where
  command : Command
  reply : Reply command

/-- What a thread may send behind the exchanges that it has had, and the replies to it that it
may count on. -/
structure Contract {Command : Type} (Reply : Command → Type) where
  allows : List (Interaction Reply) → Command → Prop
  relies : List (Interaction Reply) → Interaction Reply → Prop

namespace Routine

variable {Command : Type} {Reply : Command → Type} {First Second Result : Type}

def bind : Routine Command Reply First → (First → Routine Command Reply Second) →
    Routine Command Reply Second
  | .done result, rest => rest result
  | .send command next, rest => .send command fun reply => (next reply).bind rest

instance : Monad (Routine Command Reply) where
  pure := .done
  bind := bind

def ask (command : Command) : Routine Command Reply (Reply command) :=
  .send command .done

section Contracts

variable (contract : Contract Reply) (ends : List (Interaction Reply) → Result → Prop)

/-- Behind the exchanges so far, the routine sends what is allowed whatever the replies are, and
ends as it should. -/
def Keeps (log : List (Interaction Reply)) : Routine Command Reply Result → Prop
  | .done result => ends log result
  | .send command next => contract.allows log command ∧
      ∀ reply, contract.relies log ⟨command, reply⟩ →
        (next reply).Keeps (log ++ [⟨command, reply⟩])

end Contracts

variable {contract : Contract Reply} {log : List (Interaction Reply)}
  {ends other : List (Interaction Reply) → Result → Prop}

theorem Keeps.weaken {routine : Routine Command Reply Result}
    (keeps : routine.Keeps contract ends log)
    (implies : ∀ log result, ends log result → other log result) :
    routine.Keeps contract other log := by
  induction routine generalizing log with
  | done result => exact implies log result keeps
  | send command next induction =>
      exact ⟨keeps.1, fun reply relied => induction reply (keeps.2 reply relied)⟩

theorem Keeps.stays {held : List (Interaction Reply) → Prop}
    {routine : Routine Command Reply Result} (keeps : routine.Keeps contract ends log)
    (start : held log)
    (onward : ∀ log exchange, held log → held (log ++ [exchange])) :
    routine.Keeps contract (fun log result => ends log result ∧ held log) log := by
  induction routine generalizing log with
  | done result => exact ⟨keeps, start⟩
  | send command next induction =>
      exact ⟨keeps.1, fun reply relied =>
        induction reply (keeps.2 reply relied) (onward log ⟨command, reply⟩ start)⟩

/-- What the first part of a routine ends with, the second part may start with. -/
theorem Keeps.bind {middle : List (Interaction Reply) → First → Prop}
    {routine : Routine Command Reply First} {rest : First → Routine Command Reply Result}
    (keeps : routine.Keeps contract middle log)
    (goesOn : ∀ log result, middle log result → (rest result).Keeps contract ends log) :
    (routine >>= rest).Keeps contract ends log := by
  induction routine generalizing log with
  | done result => exact goesOn log result keeps
  | send command next induction =>
      exact ⟨keeps.1, fun reply relied => induction reply (keeps.2 reply relied)⟩

theorem Keeps.ask {command : Command} {ends : List (Interaction Reply) → Reply command → Prop}
    (allowed : contract.allows log command)
    (answered : ∀ reply, contract.relies log ⟨command, reply⟩ →
      ends (log ++ [⟨command, reply⟩]) reply) :
    (Routine.ask command).Keeps contract ends log :=
  ⟨allowed, answered⟩

/-! ### What is sent at all -/

def Only (allowed : Command → Prop) : Routine Command Reply Result → Prop
  | .done _ => True
  | .send command next => allowed command ∧ ∀ reply, (next reply).Only allowed

theorem Only.bind {allowed : Command → Prop} {routine : Routine Command Reply First}
    {rest : First → Routine Command Reply Result} (only : routine.Only allowed)
    (goesOn : ∀ result, (rest result).Only allowed) : (routine >>= rest).Only allowed := by
  induction routine with
  | done result => exact goesOn result
  | send command next induction => exact ⟨only.1, fun reply => induction reply (only.2 reply)⟩

/-! ### How much is sent -/

def Within : Routine Command Reply Result → Nat → Prop
  | .done _, _ => True
  | .send _ next, bound => 0 < bound ∧ ∀ reply, (next reply).Within (bound - 1)

theorem Within.mono {routine : Routine Command Reply Result} {bound larger : Nat}
    (within : routine.Within bound) (le : bound ≤ larger) : routine.Within larger := by
  induction routine generalizing bound larger with
  | done result => exact trivial
  | send command next induction =>
      exact ⟨within.1.trans_le le, fun reply =>
        induction reply (within.2 reply) (Nat.sub_le_sub_right le 1)⟩

theorem Within.bind {routine : Routine Command Reply First}
    {rest : First → Routine Command Reply Result} {first second : Nat}
    (within : routine.Within first) (goesOn : ∀ result, (rest result).Within second) :
    (routine >>= rest).Within (first + second) := by
  induction routine generalizing first with
  | done result => exact (goesOn result).mono (Nat.le_add_left second first)
  | send command next induction =>
      have positive := within.1
      refine ⟨by omega, fun reply => (induction reply (within.2 reply)).mono ?_⟩
      omega

/-! ### What has come since -/

/-- The exchanges of a log that are not in an earlier one. -/
def since (before log : List (Interaction Reply)) : List (Interaction Reply) :=
  log.drop before.length

theorem since_subset_of_early {before middle log : List (Interaction Reply)}
    (early : before <+: middle) : since middle log ⊆ since before log :=
  (List.drop_sublist_drop_left log early.length_le).subset

theorem since_subset_of_late {before middle log : List (Interaction Reply)}
    (late : middle <+: log) : since before middle ⊆ since before log :=
  (late.drop before.length).subset

theorem mem_since {before log : List (Interaction Reply)} (early : before <+: log)
    (exchange : Interaction Reply) : exchange ∈ since before (log ++ [exchange]) := by
  rw [since, List.drop_append_of_le_length early.length_le]
  exact List.mem_append_right _ (List.mem_singleton_self _)

end Routine

/-! ## Routines that raise -/

/-- A routine that returns a value or raises an exception. -/
abbrev Fallible (Command : Type) (Reply : Command → Type) (Error Result : Type) : Type :=
  ExceptT Error (Routine Command Reply) Result

namespace Fallible

open Routine

variable {Command : Type} {Reply : Command → Type} {Error First Result : Type}
  {contract : Contract Reply} {log : List (Interaction Reply)}
  {ends : List (Interaction Reply) → Except Error Result → Prop}

def ask (command : Command) : Fallible Command Reply Error (Reply command) :=
  ExceptT.lift (Routine.ask command)

theorem keeps_ask_bind {command : Command}
    {rest : Reply command → Fallible Command Reply Error Result}
    (allowed : contract.allows log command)
    (goesOn : ∀ reply, contract.relies log ⟨command, reply⟩ →
      (rest reply).run.Keeps contract ends (log ++ [⟨command, reply⟩])) :
    (ask command >>= rest).run.Keeps contract ends log :=
  ⟨allowed, goesOn⟩

/-- An attempt goes on with the value of its first part, and ends with its exception. -/
theorem keeps_bind {middle : List (Interaction Reply) → Except Error First → Prop}
    {attempt : Fallible Command Reply Error First}
    {rest : First → Fallible Command Reply Error Result}
    (keeps : attempt.run.Keeps contract middle log)
    (returned : ∀ log value, middle log (.ok value) → (rest value).run.Keeps contract ends log)
    (raised : ∀ log error, middle log (.error error) → ends log (.error error)) :
    (attempt >>= rest).run.Keeps contract ends log := by
  refine keeps.bind ?_
  intro log result held
  cases result with
  | ok value => exact returned log value held
  | error error => exact raised log error held

theorem keeps_tryCatch {middle : List (Interaction Reply) → Except Error Result → Prop}
    {attempt : Fallible Command Reply Error Result}
    {handler : Error → Fallible Command Reply Error Result}
    (keeps : attempt.run.Keeps contract middle log)
    (returned : ∀ log value, middle log (.ok value) → ends log (.ok value))
    (raised : ∀ log error, middle log (.error error) →
      (handler error).run.Keeps contract ends log) :
    (tryCatch attempt handler).run.Keeps contract ends log := by
  refine keeps.bind ?_
  intro log result held
  cases result with
  | ok value => exact returned log value held
  | error error => exact raised log error held

variable {allowed : Command → Prop}

theorem only_ask_bind {command : Command}
    {rest : Reply command → Fallible Command Reply Error Result} (sent : allowed command)
    (goesOn : ∀ reply, (rest reply).run.Only allowed) :
    (ask command >>= rest).run.Only allowed :=
  ⟨sent, goesOn⟩

theorem only_bind {attempt : Fallible Command Reply Error First}
    {rest : First → Fallible Command Reply Error Result} (only : attempt.run.Only allowed)
    (goesOn : ∀ value, (rest value).run.Only allowed) : (attempt >>= rest).run.Only allowed := by
  refine only.bind ?_
  intro result
  cases result with
  | ok value => exact goesOn value
  | error error => exact trivial

theorem only_tryCatch {attempt : Fallible Command Reply Error Result}
    {handler : Error → Fallible Command Reply Error Result} (only : attempt.run.Only allowed)
    (goesOn : ∀ error, (handler error).run.Only allowed) :
    (tryCatch attempt handler).run.Only allowed := by
  refine only.bind ?_
  intro result
  cases result with
  | ok value => exact trivial
  | error error => exact goesOn error

theorem within_bind {attempt : Fallible Command Reply Error First}
    {rest : First → Fallible Command Reply Error Result} {first second : Nat}
    (within : attempt.run.Within first) (goesOn : ∀ value, (rest value).run.Within second) :
    (attempt >>= rest).run.Within (first + second) := by
  refine within.bind ?_
  intro result
  cases result with
  | ok value => exact goesOn value
  | error error => exact trivial

theorem within_tryCatch {attempt : Fallible Command Reply Error Result}
    {handler : Error → Fallible Command Reply Error Result} {first second : Nat}
    (within : attempt.run.Within first) (goesOn : ∀ error, (handler error).run.Within second) :
    (tryCatch attempt handler).run.Within (first + second) := by
  refine within.bind ?_
  intro result
  cases result with
  | ok value => exact trivial
  | error error => exact goesOn error

end Fallible

end EventPipeline
