import EventPipeline.Connector.Lending
import EventPipeline.Connector.PooledManager

/-! # No sharing

The containers stay consistent with each other and with what the clients hold, whatever the
order of the steps. So a connection that is handed out is open and nobody else has it.
-/

namespace EventPipeline

namespace PooledManager

variable {Time : Type} {manager : PooledManager Time}

inductive Move (manager : PooledManager Time) (client : PoolClient) :
    PooledManager Time → PoolClient → Prop
  | acquired {semaphore : BoundedSemaphore} (phase : client.phase = .acquiring)
      (permit : manager.semaphore.acquire = some semaphore) :
      Move manager client { manager with semaphore } { client with phase := .looking }
  | timedOut (phase : client.phase = .acquiring) :
      Move manager client manager (.attempt client.attemptsLeft)
  | noneAvailable (phase : client.phase = .looking)
      (empty : manager.connections.availableConnections = ∅) :
      Move manager client manager { client with phase := .creating }
  | unhealthy {id : ConnectionId} {connection : Connection} (phase : client.phase = .looking)
      (found : OrderedDict.get id manager.connections.connectionPool = some connection) :
      Move manager client { manager with connections := manager.connections.closeIdle id }
        { client with phase := .creating }
  | taken {id : ConnectionId} {connection : Connection} (phase : client.phase = .looking)
      (member : id ∈ manager.connections.availableConnections)
      (found : OrderedDict.get id manager.connections.connectionPool = some connection) :
      Move manager client
        { manager with connections := { manager.connections with
            availableConnections := manager.connections.availableConnections.erase id } }
        { client with phase := .holding connection }
  | created {id : ConnectionId} {now : Time} (phase : client.phase = .creating)
      (fresh : id ∉ manager.liveIds) :
      Move manager client
        { manager with connections := manager.connections.createNewConnection id now }
        { client with phase := .holding (manager.connections.nextConnection id) }
  | createFailed (phase : client.phase = .creating) :
      Move manager client manager.releaseSemaphore (.attempt client.attemptsLeft)
  | released {connection : Connection} {now : Time} {succeeded : Bool}
      (phase : client.phase = .holding connection) :
      Move manager client
        { manager with connections := manager.connections.releaseConnection connection now }
        { client with phase := .releasing succeeded }
  | finished {succeeded : Bool} (phase : client.phase = .releasing succeeded) :
      Move manager client manager.releaseSemaphore { client with phase := .done }
  | retried {succeeded : Bool} (phase : client.phase = .releasing succeeded) :
      Move manager client manager.releaseSemaphore (.attempt client.attemptsLeft)

theorem move_getAvailable
    (consistent : manager.connections.Consistent manager.holder) {client : PoolClient}
    {popped : ConnectionId} {healthy : Bool} {next : PooledManager Time × PoolClient}
    (stepped : manager.clientStep client (.getAvailable popped healthy) = some next) :
    Move manager client next.1 next.2 := by
  simp only [clientStep] at stepped
  split at stepped
  · rename_i enabled
    cases stepped
    rcases enabled with ⟨phase, chosen⟩
    by_cases empty : manager.connections.availableConnections = ∅
    · simp only [PooledConnections.getAvailableConnection, if_pos empty]
      exact .noneAvailable phase empty
    · have member := chosen.resolve_left empty
      simp only [PooledConnections.getAvailableConnection, if_neg empty]
      cases found : OrderedDict.get popped manager.connections.connectionPool with
      | none =>
          have pooled := consistent.available popped member
          exact absurd pooled ((OrderedDict.get_eq_none_iff _ _).mp found)
      | some connection =>
          cases healthy with
          | true => exact .taken phase member found
          | false =>
              have same : ((({ manager.connections with availableConnections :=
                  manager.connections.availableConnections.erase popped } :
                  PooledConnections Time).closeConnection connection).delete popped) =
                    manager.connections.closeIdle popped := by
                rw [PooledConnections.closeIdle, found]
                rfl
              simp only [Bool.false_eq_true, if_false, same]
              exact .unhealthy phase found
  · cases stepped

theorem move_of_clientStep (consistent : manager.connections.Consistent manager.holder)
    {client : PoolClient} {action : ClientAction Time}
    {next : PooledManager Time × PoolClient}
    (stepped : manager.clientStep client action = some next) :
    Move manager client next.1 next.2 := by
  cases action with
  | acquire =>
      simp only [clientStep] at stepped
      split at stepped
      · cases stepped
        exact .acquired ‹_› ‹_›
      · cases stepped
  | timeout =>
      simp only [clientStep] at stepped
      split at stepped
      · cases stepped
        exact .timedOut ‹_›
      · cases stepped
  | getAvailable popped healthy => exact move_getAvailable consistent stepped
  | create id now =>
      simp only [clientStep] at stepped
      split at stepped
      · rename_i enabled
        cases stepped
        exact .created enabled.1 enabled.2
      · cases stepped
  | createFails =>
      simp only [clientStep] at stepped
      split at stepped
      · cases stepped
        exact .createFailed ‹_›
      · cases stepped
  | release now succeeded =>
      simp only [clientStep] at stepped
      split at stepped
      · cases stepped
        exact .released ‹_›
      · cases stepped
  | releaseSemaphore =>
      simp only [clientStep] at stepped
      split at stepped
      · cases stepped
        dsimp only
        split
        · exact .finished ‹_›
        · exact .retried ‹_›
      · cases stepped

/-! ## Consistency in every state -/

@[simp] theorem held_attempt (attempts : Nat) : (PoolClient.attempt attempts).held = none := by
  cases attempts <;> rfl

@[simp] theorem releaseSemaphore_connections (manager : PooledManager Time) :
    manager.releaseSemaphore.connections = manager.connections := by
  rw [releaseSemaphore]
  split <;> rfl

@[simp] theorem releaseSemaphore_clients (manager : PooledManager Time) :
    manager.releaseSemaphore.clients = manager.clients := by
  rw [releaseSemaphore]
  split <;> rfl

theorem Move.clients {client nextClient : PoolClient} {next : PooledManager Time}
    (move : Move manager client next nextClient) : next.clients = manager.clients := by
  cases move <;> first | rfl | exact releaseSemaphore_clients manager

theorem holder_set {index : Nat} {client : PoolClient}
    (found : manager.clients[index]? = some client) (next : PooledManager Time)
    (nextClient : PoolClient) :
    ({ next with clients := manager.clients.set index nextClient } : PooledManager Time).holder =
      Function.update manager.holder index nextClient.held := by
  funext probe
  rcases List.getElem?_eq_some_iff.mp found with ⟨bound, -⟩
  by_cases same : probe = index
  · subst same
    rw [Function.update_self, holder, List.getElem?_set_self bound]
    rfl
  · rw [Function.update_of_ne same, holder, List.getElem?_set_ne (Ne.symm same)]
    rfl

theorem not_held_of_fresh {id : ConnectionId} (fresh : id ∉ manager.liveIds) (index : Nat)
    (connection : Connection) (holds : manager.holder index = some connection) :
    connection.id ≠ id := by
  rintro rfl
  apply fresh
  rcases Option.bind_eq_some_iff.mp holds with ⟨client, found, held⟩
  have member : connection ∈ manager.clients.filterMap PoolClient.held :=
    List.mem_filterMap.mpr ⟨client, List.mem_of_getElem? found, held⟩
  exact List.mem_append_right _ (List.mem_map_of_mem member)

theorem Move.consistent (consistent : manager.connections.Consistent manager.holder)
    {index : Nat} {client nextClient : PoolClient} {next : PooledManager Time}
    (found : manager.clients[index]? = some client)
    (move : Move manager client next nextClient) :
    next.connections.Consistent (Function.update manager.holder index nextClient.held) := by
  have holds : manager.holder index = client.held := by
    rw [holder, found]
    rfl
  have unchanged (free : client.held = none) :
      Function.update manager.holder index none = manager.holder := by
    rw [← free, ← holds]
    exact Function.update_eq_self index manager.holder
  cases move with
  | acquired phase permit =>
      have free : client.held = none := by rw [PoolClient.held, phase]
      rw [show PoolClient.held { client with phase := .looking } = none from rfl, unchanged free]
      exact consistent
  | timedOut phase =>
      have free : client.held = none := by rw [PoolClient.held, phase]
      rw [held_attempt, unchanged free]
      exact consistent
  | noneAvailable phase empty =>
      have free : client.held = none := by rw [PoolClient.held, phase]
      rw [show PoolClient.held { client with phase := .creating } = none from rfl, unchanged free]
      exact consistent
  | unhealthy phase pooled =>
      have free : client.held = none := by rw [PoolClient.held, phase]
      rw [show PoolClient.held { client with phase := .creating } = none from rfl, unchanged free]
      exact consistent.closeIdle _
  | taken phase member pooled =>
      have free : client.held = none := by rw [PoolClient.held, phase]
      exact consistent.take (holds.trans free) member pooled
  | created phase fresh =>
      have free : client.held = none := by rw [PoolClient.held, phase]
      have unpooled := fun pooled => fresh (List.mem_append_left _ pooled)
      exact consistent.create (holds.trans free) unpooled (not_held_of_fresh fresh) _
  | createFailed phase =>
      have free : client.held = none := by rw [PoolClient.held, phase]
      rw [held_attempt, unchanged free, releaseSemaphore_connections]
      exact consistent
  | @released connection now succeeded phase =>
      have held : client.held = some connection := by rw [PoolClient.held, phase]
      exact consistent.release (holds.trans held) now
  | finished phase =>
      have free : client.held = none := by rw [PoolClient.held, phase]
      rw [show PoolClient.held { client with phase := .done } = none from rfl, unchanged free,
        releaseSemaphore_connections]
      exact consistent
  | retried phase =>
      have free : client.held = none := by rw [PoolClient.held, phase]
      rw [held_attempt, unchanged free, releaseSemaphore_connections]
      exact consistent

theorem advance_eq (manager : PooledManager Time) (index : Nat) (action : ClientAction Time) :
    manager.advance index action = manager ∨
    ∃ client next, manager.clients[index]? = some client ∧
      manager.clientStep client action = some next ∧
      manager.advance index action =
        { next.1 with clients := next.1.clients.set index next.2 } := by
  cases found : manager.clients[index]? with
  | none => exact .inl (by rw [advance, found])
  | some client =>
      cases stepped : manager.clientStep client action with
      | none =>
          left
          simp only [advance, found, stepped]
      | some next =>
          refine .inr ⟨client, next, rfl, stepped, ?_⟩
          simp only [advance, found, stepped]

theorem advance_cases (consistent : manager.connections.Consistent manager.holder)
    (index : Nat) (action : ClientAction Time) :
    manager.advance index action = manager ∨
    ∃ client next nextClient, manager.clients[index]? = some client ∧
      Move manager client next nextClient ∧
      manager.advance index action =
        { next with clients := manager.clients.set index nextClient } := by
  rcases advance_eq manager index action with same | ⟨client, next, found, stepped, result⟩
  · exact .inl same
  · have move := move_of_clientStep consistent stepped
    rw [move.clients] at result
    exact .inr ⟨client, next.1, next.2, found, move, result⟩

theorem holder_append (client : PoolClient) (free : client.held = none) :
    ({ manager with clients := manager.clients ++ [client] } : PooledManager Time).holder =
      manager.holder := by
  funext index
  simp only [holder]
  rw [List.getElem?_append]
  split
  · rfl
  · rename_i outside
    rw [List.getElem?_eq_none (Nat.le_of_not_lt outside)]
    cases index - manager.clients.length with
    | zero => exact free
    | succ beyond => rfl

variable [Sub Time] [LT Time] [DecidableLT Time] {settings : PoolSettings Time}

theorem consistent_step (consistent : manager.connections.Consistent manager.holder)
    (action : PoolAction Time) :
    (manager.step settings action).connections.Consistent
      (manager.step settings action).holder := by
  cases action with
  | getConnection =>
      rw [step, holder_append _ (held_attempt 1)]
      exact consistent
  | executeWithRetry =>
      rw [step, holder_append _ (held_attempt _)]
      exact consistent
  | client index action =>
      rw [step]
      rcases advance_cases consistent index action with same | ⟨client, next, nextClient, found,
        move, result⟩
      · rw [same]
        exact consistent
      · have kept := move.consistent consistent found
        rw [result, holder_set found next nextClient]
        exact kept
  | cleanup now => exact consistent.foldl_closeIdle _

theorem after_concat (settings : PoolSettings Time) (front : List (PoolAction Time))
    (action : PoolAction Time) :
    after settings (front ++ [action]) = (after settings front).step settings action := by
  rw [after, List.foldl_append]
  rfl

theorem consistent_after (settings : PoolSettings Time) (actions : List (PoolAction Time)) :
    (after settings actions).connections.Consistent (after settings actions).holder := by
  induction actions using List.reverseRecOn with
  | nil => exact PooledConnections.consistent_initial
  | append_singleton front action induction =>
      rw [after_concat]
      exact consistent_step induction action

/-! ## Handing out -/

omit [Sub Time] [LT Time] [DecidableLT Time] in
theorem Move.pooled (consistent : manager.connections.Consistent manager.holder)
    {client nextClient : PoolClient} {next : PooledManager Time}
    (move : Move manager client next nextClient) {connection : Connection}
    (holds : nextClient.held = some connection) :
    OrderedDict.get connection.id next.connections.connectionPool = some connection := by
  cases move with
  | @taken id given phase member found =>
      cases holds
      rw [consistent.keyed id connection found]
      exact found
  | created phase fresh =>
      cases holds
      rw [PooledConnections.createNewConnection, OrderedDict.get_insert]
      exact if_pos rfl
  | acquired | noneAvailable | unhealthy | released | finished => cases holds
  | timedOut | createFailed | retried =>
      rw [held_attempt] at holds
      cases holds

theorem pooled_of_handedOut (consistent : manager.connections.Consistent manager.holder)
    {action : PoolAction Time} {index : Nat} {connection : Connection}
    (before : manager.holder index ≠ some connection)
    (holds : (manager.step settings action).holder index = some connection) :
    OrderedDict.get connection.id (manager.step settings action).connections.connectionPool =
      some connection := by
  cases action with
  | getConnection =>
      rw [step, holder_append _ (held_attempt 1)] at holds
      exact absurd holds before
  | executeWithRetry =>
      rw [step, holder_append _ (held_attempt _)] at holds
      exact absurd holds before
  | cleanup now => exact absurd holds before
  | client moved action =>
      rw [step] at holds ⊢
      rcases advance_cases consistent moved action with same | ⟨client, next, nextClient, found,
        move, result⟩
      · rw [same] at holds
        exact absurd holds before
      · rw [result, holder_set found next nextClient] at holds
        rw [result]
        by_cases same : index = moved
        · subst same
          rw [Function.update_self] at holds
          exact move.pooled consistent holds
        · rw [Function.update_of_ne same] at holds
          exact absurd holds before

/-- In a run, a connection is handed out to one client at a time and before it is closed, and
the containers agree whenever the lock is free. -/
structure Exclusive (settings : PoolSettings Time) (actions : List (PoolAction Time)) :
    Prop where
  handedOut : ∀ front action rest index connection, front ++ action :: rest = actions →
    (after settings front).holder index ≠ some connection →
    (after settings (front ++ [action])).holder index = some connection →
    connection ∉ (after settings (front ++ [action])).connections.closed ∧
    ∀ other, other ≠ index →
      (after settings (front ++ [action])).holder other ≠ some connection
  available : ∀ id ∈ (after settings actions).connections.availableConnections,
    id ∈ OrderedDict.keys (after settings actions).connections.connectionPool
  stats : OrderedDict.keys (after settings actions).connections.connectionPool =
    OrderedDict.keys (after settings actions).connections.connectionStats
  unavailable : ∀ index connection, (after settings actions).holder index = some connection →
    connection.id ∉ (after settings actions).connections.availableConnections

theorem exclusive (settings : PoolSettings Time) (actions : List (PoolAction Time)) :
    Exclusive settings actions := by
  have consistent := consistent_after settings actions
  constructor
  · intro front action rest index connection split before holds
    have now := consistent_after settings (front ++ [action])
    constructor
    · have pooled := pooled_of_handedOut (consistent_after settings front) before
        (after_concat settings front action ▸ holds)
      rw [← after_concat] at pooled
      exact now.opened _ connection pooled
    · intro other different shared
      exact different (now.distinct other index connection connection shared holds rfl)
  · exact consistent.available
  · exact consistent.stats.symm
  · exact consistent.unavailable

end PooledManager

end EventPipeline
