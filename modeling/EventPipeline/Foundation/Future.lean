import Mathlib.Data.List.Basic

/-! # Futures

The states of a `concurrent.futures.Future`. A future is resolved at most once: resolving one
that is done raises `InvalidStateError`.
-/

namespace EventPipeline

inductive Future (Value Error : Type)
  | pending
  | running
  | cancelled
  | cancelledAndNotified
  | finished (outcome : Except Error Value)

namespace Future

variable {Value Error : Type}

def done : Future Value Error → Bool
  | .pending | .running => false
  | .cancelled | .cancelledAndNotified | .finished _ => true

def cancel : Future Value Error → Future Value Error
  | .pending => .cancelled
  | future => future

/-- Whether the call is to be run, and the future. `none` stands for an `InvalidStateError`. -/
def setRunningOrNotifyCancel : Future Value Error → Option (Bool × Future Value Error)
  | .pending => some (true, .running)
  | .cancelled => some (false, .cancelledAndNotified)
  | _ => none

/-- `set_result` or `set_exception`. `none` stands for an `InvalidStateError`. -/
def resolve (outcome : Except Error Value) (future : Future Value Error) :
    Option (Future Value Error) :=
  if future.done then none else some (.finished outcome)

/-- The call of the future has not been started. -/
def Waiting (future : Future Value Error) : Prop :=
  future = .pending ∨ future = .cancelled

theorem Waiting.cancel {future : Future Value Error} (waiting : future.Waiting) :
    future.cancel.Waiting := by
  rcases waiting with rfl | rfl
  · exact .inr rfl
  · exact .inr rfl

theorem done_cancel {future : Future Value Error} (ended : future.done = true) :
    future.cancel.done = true := by
  cases future <;> first | exact ended | cases ended

theorem Waiting.done_iff {future : Future Value Error} (waiting : future.Waiting) :
    future.done = true ↔ future = .cancelled := by
  rcases waiting with rfl | rfl <;> simp [done]

end Future

end EventPipeline
