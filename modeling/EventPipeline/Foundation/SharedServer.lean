import Mathlib.Data.List.Induction
import Mathlib.Data.List.Perm.Basic

/-! # Operations on a shared server

An operation is a program that sends commands to a server and goes on with their replies. The
server executes one command at a time, so that the commands of operations that run at the same
time come in any order. When a command that does not complete its operation leaves the server
alone, and one that does acts as the whole operation would, the operations might as well have
been run one after the other, in the order of their last commands.
-/

namespace EventPipeline

inductive Program (Command Reply Result : Type)
  | done (result : Result)
  | send (command : Command) (next : Reply → Program Command Reply Result)

namespace Program

variable {Server Command Reply Result Operation : Type}
  (exec : Server → Command → Server × Reply)

def run : Program Command Reply Result → Server → Server × Result
  | .done result, server => (server, result)
  | .send command next, server =>
      (next (exec server command).2).run (exec server command).1

def result? : Program Command Reply Result → Option Result
  | .done result => some result
  | .send _ _ => none

theorem run_of_result? {program : Program Command Reply Result} {result : Result}
    (ended : program.result? = some result) (server : Server) :
    program.run exec server = (server, result) := by
  cases program with
  | done other =>
      cases ended
      rfl
  | send command next => cases ended

theorem exists_eq_done {program : Program Command Reply Result}
    (ended : program.result?.isSome = true) : ∃ result, program = .done result := by
  cases program with
  | done result => exact ⟨result, rfl⟩
  | send command next => cases ended

def runAll (program : Operation → Program Command Reply Result) :
    List Operation → Server → Server × List Result
  | [], server => (server, [])
  | operation :: rest, server =>
      let (server, result) := (program operation).run exec server
      let (server, results) := runAll program rest server
      (server, result :: results)

theorem runAll_append (program : Operation → Program Command Reply Result)
    (first second : List Operation) (server : Server) :
    runAll exec program (first ++ second) server =
      ((runAll exec program second (runAll exec program first server).1).1,
        (runAll exec program first server).2 ++
          (runAll exec program second (runAll exec program first server).1).2) := by
  induction first generalizing server with
  | nil => rfl
  | cons operation rest induction =>
      simp only [List.cons_append, runAll, induction]

variable {exec} in
theorem exists_run_of_runAll {program : Operation → Program Command Reply Result}
    {Source : Type} {operation : Source → Operation} {result : Source → Result}
    {sources : List Source} {server final : Server}
    (ran : runAll exec program (sources.map operation) server = (final, sources.map result))
    {source : Source} (member : source ∈ sources) :
    ∃ server, ((program (operation source)).run exec server).2 = result source := by
  induction sources generalizing server with
  | nil => cases member
  | cons first rest induction =>
      simp only [List.map_cons, runAll, Prod.mk.injEq, List.cons.injEq] at ran
      rcases List.mem_cons.mp member with rfl | later
      · exact ⟨server, ran.2.1⟩
      · exact induction (Prod.ext ran.1 ran.2.2) later

end Program

/-! ## Interleaved runs -/

structure PendingCall (Operation Command Reply Result : Type) where
  operation : Operation
  program : Program Command Reply Result
  invokedAt : Nat

structure Completion (Operation Result : Type) where
  call : Nat
  operation : Operation
  result : Result
  invokedAt : Nat
  completedAt : Nat

/-- The server, the calls in the order in which they were made, and those that have returned in
the order in which they did. The clock counts the steps. -/
structure SharedServer (Server Operation Command Reply Result : Type) where
  server : Server
  calls : List (PendingCall Operation Command Reply Result) := []
  completions : List (Completion Operation Result) := []
  clock : Nat := 0

/-- Some client calls an operation, or a call sends its next command. -/
inductive ServerAction (Operation : Type)
  | invoke (operation : Operation)
  | advance (call : Nat)

namespace SharedServer

variable {Server Operation Command Reply Result : Type}
  (exec : Server → Command → Server × Reply)
  (program : Operation → Program Command Reply Result)

/-- A call whose program has ended returns. -/
def complete (call : Nat) (made : PendingCall Operation Command Reply Result)
    (state : SharedServer Server Operation Command Reply Result) :
    SharedServer Server Operation Command Reply Result :=
  match made.program.result? with
  | none => state
  | some result =>
      { state with
        completions := state.completions ++
          [⟨call, made.operation, result, made.invokedAt, state.clock⟩] }

def tick (state : SharedServer Server Operation Command Reply Result) :
    SharedServer Server Operation Command Reply Result :=
  { state with clock := state.clock + 1 }

def step (state : SharedServer Server Operation Command Reply Result) :
    ServerAction Operation → SharedServer Server Operation Command Reply Result
  | .invoke operation =>
      let made : PendingCall Operation Command Reply Result :=
        ⟨operation, program operation, state.clock⟩
      (complete state.calls.length made { state with calls := state.calls ++ [made] }).tick
  | .advance call =>
      match state.calls[call]? with
      | none => state.tick
      | some made =>
          match made.program with
          | .done _ => state.tick
          | .send command next =>
              let (server, reply) := exec state.server command
              let made := { made with program := next reply }
              (complete call made
                { state with server, calls := state.calls.set call made }).tick

def after (server : Server) (actions : List (ServerAction Operation)) :
    SharedServer Server Operation Command Reply Result :=
  actions.foldl (step exec program) { server }

theorem after_concat (server : Server) (front : List (ServerAction Operation))
    (action : ServerAction Operation) :
    after exec program server (front ++ [action]) =
      (after exec program server front).step exec program action := by
  rw [after, List.foldl_append]
  rfl

theorem complete_calls (call : Nat) (made : PendingCall Operation Command Reply Result)
    (state : SharedServer Server Operation Command Reply Result) :
    (complete call made state).calls = state.calls := by
  rw [complete]
  split <;> rfl

theorem complete_server (call : Nat) (made : PendingCall Operation Command Reply Result)
    (state : SharedServer Server Operation Command Reply Result) :
    (complete call made state).server = state.server := by
  rw [complete]
  split <;> rfl

theorem mem_calls_step {exec : Server → Command → Server × Reply}
    {program : Operation → Program Command Reply Result}
    {state : SharedServer Server Operation Command Reply Result}
    {action : ServerAction Operation} {made : PendingCall Operation Command Reply Result}
    (member : made ∈ (state.step exec program action).calls) :
    made ∈ state.calls ∨ (∃ operation time, made = ⟨operation, program operation, time⟩) ∨
    ∃ before command next reply, before ∈ state.calls ∧ before.program = .send command next ∧
      made = { before with program := next reply } := by
  cases action with
  | invoke operation =>
      rw [step, tick, complete_calls] at member
      rcases List.mem_append.mp member with old | new
      · exact .inl old
      · exact .inr (.inl ⟨operation, state.clock, List.mem_singleton.mp new⟩)
  | advance call =>
      rw [step] at member
      split at member
      · exact .inl member
      · rename_i before found
        split at member
        · exact .inl member
        · rename_i command next sent
          simp only [tick, complete_calls] at member
          rcases List.mem_or_eq_of_mem_set member with old | new
          · exact .inl old
          · exact .inr (.inr ⟨before, command, next, _, List.mem_of_getElem? found, sent, new⟩)

/-- The operations that have returned could have been run one after the other: in an order in
which none comes before one that had returned when it was called, with the same results, and to
the same server. -/
def Linearizable (initial : Server)
    (state : SharedServer Server Operation Command Reply Result) : Prop :=
  ∃ order : List (Completion Operation Result), order.Perm state.completions ∧
    order.Pairwise (fun earlier later => ¬ later.completedAt < earlier.invokedAt) ∧
    Program.runAll exec program (order.map Completion.operation) initial =
      (state.server, order.map Completion.result)

/-- The next command of the call leaves the server alone, or it completes the call and acts as
the whole operation would. -/
def Atomic (server : Server) (made : PendingCall Operation Command Reply Result) : Prop :=
  ∀ command next, made.program = .send command next →
    (next (exec server command).2).result? = none ∧ (exec server command).1 = server ∨
    (next (exec server command).2).result?.isSome = true ∧
      made.program.run exec server = (program made.operation).run exec server

/-- The step advances no call but an atomic one. -/
def AtomicStep (state : SharedServer Server Operation Command Reply Result) :
    ServerAction Operation → Prop
  | .invoke _ => True
  | .advance call => ∀ made, state.calls[call]? = some made →
      Atomic exec program state.server made

/-- The completions explain the server in their own order, and their times fit it. -/
structure Explained (initial : Server)
    (state : SharedServer Server Operation Command Reply Result) : Prop where
  sequential : Program.runAll exec program (state.completions.map Completion.operation) initial =
    (state.server, state.completions.map Completion.result)
  ordered : state.completions.Pairwise fun earlier later =>
    earlier.completedAt < later.completedAt
  times : ∀ completion ∈ state.completions,
    completion.invokedAt ≤ completion.completedAt ∧ completion.completedAt < state.clock
  invoked : ∀ made ∈ state.calls, made.invokedAt < state.clock

variable {exec program} {initial : Server}
  {state : SharedServer Server Operation Command Reply Result}

theorem explained_initial :
    Explained exec program initial
      ({ server := initial } : SharedServer Server Operation Command Reply Result) where
  sequential := rfl
  ordered := .nil
  times := by simp
  invoked := by simp

theorem Explained.tick (explained : Explained exec program initial state)
    {calls : List (PendingCall Operation Command Reply Result)}
    (invoked : ∀ made ∈ calls, made.invokedAt ≤ state.clock) :
    Explained exec program initial { state with calls }.tick where
  sequential := explained.sequential
  ordered := explained.ordered
  times := by
    intro completion member
    have times := explained.times completion member
    exact ⟨times.1, Nat.lt_succ_of_lt times.2⟩
  invoked := by
    intro made member
    exact Nat.lt_succ_of_le (invoked made member)

theorem Explained.complete (explained : Explained exec program initial state) (call : Nat)
    {made : PendingCall Operation Command Reply Result} (early : made.invokedAt ≤ state.clock)
    {server : Server} {calls : List (PendingCall Operation Command Reply Result)}
    (invoked : ∀ made ∈ calls, made.invokedAt ≤ state.clock)
    (acts : made.program.result? = none ∧ server = state.server ∨
      ∃ result, made.program.result? = some result ∧
        (program made.operation).run exec state.server = (server, result)) :
    Explained exec program initial
      (SharedServer.complete call made { state with server, calls }).tick := by
  rcases acts with ⟨running, rfl⟩ | ⟨result, ended, ran⟩
  · rw [SharedServer.complete, running]
    exact explained.tick invoked
  · rw [SharedServer.complete, ended]
    constructor
    · simp only [SharedServer.tick, List.map_append, List.map_cons, List.map_nil,
        Program.runAll_append, explained.sequential, Program.runAll, ran]
    · refine List.pairwise_append.mpr ⟨explained.ordered, List.pairwise_singleton _ _, ?_⟩
      intro earlier member later new
      rw [List.mem_singleton.mp new]
      exact (explained.times earlier member).2
    · intro completion member
      rcases List.mem_append.mp member with old | new
      · have times := explained.times completion old
        exact ⟨times.1, Nat.lt_succ_of_lt times.2⟩
      · rw [List.mem_singleton.mp new]
        exact ⟨early, Nat.lt_succ_self _⟩
    · intro other member
      exact Nat.lt_succ_of_le (invoked other member)

theorem Explained.step (explained : Explained exec program initial state)
    {action : ServerAction Operation} (atomic : AtomicStep exec program state action) :
    Explained exec program initial (state.step exec program action) := by
  have earlier : ∀ made ∈ state.calls, made.invokedAt ≤ state.clock :=
    fun made member => Nat.le_of_lt (explained.invoked made member)
  cases action with
  | invoke operation =>
      apply explained.complete
      · exact Nat.le_refl _
      · intro made member
        rcases List.mem_append.mp member with old | new
        · exact earlier made old
        · have same := List.mem_singleton.mp new
          subst same
          exact Nat.le_refl _
      · cases ended : (program operation).result? with
        | none => exact .inl ⟨rfl, rfl⟩
        | some result => exact .inr ⟨result, rfl, Program.run_of_result? exec ended state.server⟩
  | advance call =>
      cases found : state.calls[call]? with
      | none =>
          simp only [SharedServer.step, found]
          exact explained.tick earlier
      | some made =>
          have member := List.mem_of_getElem? found
          cases sent : made.program with
          | done result =>
              simp only [SharedServer.step, found, sent]
              exact explained.tick earlier
          | send command next =>
              simp only [SharedServer.step, found, sent]
              apply explained.complete
              · exact earlier made member
              · intro other set
                rcases List.mem_or_eq_of_mem_set set with old | rfl
                · exact earlier other old
                · exact earlier made member
              · rcases atomic made found command next sent with ⟨running, same⟩ | ⟨ends, whole⟩
                · exact .inl ⟨running, same⟩
                · rcases Option.isSome_iff_exists.mp ends with ⟨result, ended⟩
                  refine .inr ⟨result, ended, ?_⟩
                  rw [← whole, sent, Program.run, Program.run_of_result? exec ended]

def AtomicRun (exec : Server → Command → Server × Reply)
    (program : Operation → Program Command Reply Result) (initial : Server)
    (actions : List (ServerAction Operation)) : Prop :=
  ∀ front action rest, front ++ action :: rest = actions →
    AtomicStep exec program (after exec program initial front) action

theorem explained_after {actions : List (ServerAction Operation)}
    (atomic : AtomicRun exec program initial actions) :
    Explained exec program initial (after exec program initial actions) := by
  induction actions using List.reverseRecOn with
  | nil => exact explained_initial
  | append_singleton front action induction =>
      have early := induction fun before next rest split =>
        atomic before next (rest ++ [action]) (by rw [← split]; simp)
      rw [after_concat]
      exact early.step (atomic front action [] rfl)

theorem AtomicStep.server {call : Nat} {made : PendingCall Operation Command Reply Result}
    (atomic : AtomicStep exec program state (.advance call))
    (found : state.calls[call]? = some made) :
    (state.step exec program (.advance call)).server = state.server ∨
    (state.step exec program (.advance call)).server =
      ((program made.operation).run exec state.server).1 := by
  simp only [SharedServer.step, found]
  cases sent : made.program with
  | done result => exact .inl rfl
  | send command next =>
      simp only [SharedServer.tick, complete_server]
      rcases atomic made found command next sent with ⟨-, same⟩ | ⟨ends, whole⟩
      · exact .inl same
      · rcases Option.isSome_iff_exists.mp ends with ⟨result, ended⟩
        rw [← whole, sent, Program.run, Program.run_of_result? exec ended]
        exact .inr rfl

theorem Explained.exists_run (explained : Explained exec program initial state)
    {completion : Completion Operation Result} (member : completion ∈ state.completions) :
    ∃ server, ((program completion.operation).run exec server).2 = completion.result :=
  Program.exists_run_of_runAll explained.sequential member

theorem Explained.linearizable (explained : Explained exec program initial state) :
    Linearizable exec program initial state := by
  refine ⟨state.completions, .refl _, ?_, explained.sequential⟩
  refine explained.ordered.imp_of_mem ?_
  intro earlier later memberEarlier memberLater before
  have times := explained.times earlier memberEarlier
  omega

end SharedServer

end EventPipeline
