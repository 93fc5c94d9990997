import EventPipeline.Connector.PooledConnections

/-! # Pooled connector manager

Any number of clients use one manager, and its thread closes idle connections. A step is one
operation on the semaphore, or all that is done while the pool lock is held. Which connection a set
gives first, what a connection says of its health, how a connection attempt and a method end, and
what the clock reads are left to the action.
-/

namespace EventPipeline

structure BoundedSemaphore where
  initial : Nat
  value : Nat
  bounded : value ≤ initial

namespace BoundedSemaphore

def new (initial : Nat) : BoundedSemaphore := ⟨initial, initial, Nat.le_refl _⟩

def taken (semaphore : BoundedSemaphore) : Nat := semaphore.initial - semaphore.value

/-- `none`: there is no permit. -/
def acquire (semaphore : BoundedSemaphore) : Option BoundedSemaphore :=
  if 0 < semaphore.value then
    some ⟨semaphore.initial, semaphore.value - 1, Nat.le_trans (Nat.sub_le _ _) semaphore.bounded⟩
  else none

/-- `none`: released too many times, which raises `ValueError`. -/
def release (semaphore : BoundedSemaphore) : Option BoundedSemaphore :=
  if free : semaphore.value < semaphore.initial then
    some ⟨semaphore.initial, semaphore.value + 1, free⟩
  else none

end BoundedSemaphore

structure PoolSettings (Time : Type) where
  maxConnections : Nat
  idleTimeout : Time
  retryAttempts : Nat

/-- Where a client is in `get_connection` and `release_connection`. -/
inductive ClientPhase
  /-- About to acquire the semaphore. -/
  | acquiring
  /-- About to look for an available connection. -/
  | looking
  /-- None was available. -/
  | creating
  /-- The connection was taken under the lock. That `get_connection` then returns is no step of its
  own. -/
  | holding (connection : Connection)
  /-- The connection is back, and the permit is not. -/
  | releasing (succeeded : Bool)
  | done
deriving DecidableEq, Repr

structure PoolClient where
  phase : ClientPhase
  /-- How many attempts are left when this one fails. -/
  attemptsLeft : Nat
deriving DecidableEq, Repr

namespace PoolClient

/-- The next round of the loop in `execute_with_retry`, if there is one. -/
def attempt : Nat → PoolClient
  | 0 => ⟨.done, 0⟩
  | attempts + 1 => ⟨.acquiring, attempts⟩

def held (client : PoolClient) : Option Connection :=
  match client.phase with
  | .holding connection => some connection
  | _ => none

/-- Between a successful acquisition and its release. -/
def hasPermit (client : PoolClient) : Bool :=
  match client.phase with
  | .acquiring | .done => false
  | _ => true

def isCreating (client : PoolClient) : Bool := client.phase = .creating

end PoolClient

structure PooledManager (Time : Type) where
  connections : PooledConnections Time := {}
  semaphore : BoundedSemaphore
  /-- How often releasing the semaphore has raised. -/
  valueErrors : Nat := 0
  clients : List PoolClient := []

inductive ClientAction (Time : Type)
  | acquire
  /-- The semaphore is not acquired in time. -/
  | timeout
  | getAvailable (popped : ConnectionId) (healthy : Bool)
  | create (id : ConnectionId) (now : Time)
  /-- Connecting raises an `Exception`. A `BaseException` would pass the handlers by and keep the
  permit. -/
  | createFails
  | release (now : Time) (succeeded : Bool)
  | releaseSemaphore

inductive PoolAction (Time : Type)
  /-- A client comes that uses the two methods itself. -/
  | getConnection
  | executeWithRetry
  | client (index : Nat) (action : ClientAction Time)
  | cleanup (now : Time)

namespace PooledManager

variable {Time : Type}

def new (settings : PoolSettings Time) : PooledManager Time :=
  { semaphore := .new settings.maxConnections }

def holder (manager : PooledManager Time) (index : Nat) : Option Connection :=
  manager.clients[index]?.bind PoolClient.held

def liveIds (manager : PooledManager Time) : List ConnectionId :=
  OrderedDict.keys manager.connections.connectionPool ++
    (manager.clients.filterMap PoolClient.held).map Connection.id

def releaseSemaphore (manager : PooledManager Time) : PooledManager Time :=
  match manager.semaphore.release with
  | some semaphore => { manager with semaphore }
  | none => { manager with valueErrors := manager.valueErrors + 1 }

def clientStep (manager : PooledManager Time) (client : PoolClient) :
    ClientAction Time → Option (PooledManager Time × PoolClient)
  | .acquire =>
      match client.phase, manager.semaphore.acquire with
      | .acquiring, some semaphore =>
          some ({ manager with semaphore }, { client with phase := .looking })
      | _, _ => none
  | .timeout =>
      match client.phase with
      | .acquiring => some (manager, .attempt client.attemptsLeft)
      | _ => none
  | .getAvailable popped healthy =>
      if client.phase = .looking ∧ (manager.connections.availableConnections = ∅ ∨
          popped ∈ manager.connections.availableConnections) then
        let (connections, connection) :=
          manager.connections.getAvailableConnection popped healthy
        some ({ manager with connections }, { client with
          phase := match connection with
            | some connection => .holding connection
            | none => .creating })
      else none
  | .create id now =>
      if client.phase = .creating ∧ id ∉ manager.liveIds then
        some ({ manager with connections := manager.connections.createNewConnection id now },
          { client with phase := .holding (manager.connections.nextConnection id) })
      else none
  | .createFails =>
      match client.phase with
      | .creating => some (manager.releaseSemaphore, .attempt client.attemptsLeft)
      | _ => none
  | .release now succeeded =>
      match client.phase with
      | .holding connection =>
          some ({ manager with
              connections := manager.connections.releaseConnection connection now },
            { client with phase := .releasing succeeded })
      | _ => none
  | .releaseSemaphore =>
      match client.phase with
      | .releasing succeeded =>
          some (manager.releaseSemaphore,
            -- an exception of the release itself is not caught
            if succeeded ∨ manager.semaphore.release.isNone then { client with phase := .done }
            else .attempt client.attemptsLeft)
      | _ => none

def advance (manager : PooledManager Time) (index : Nat) (action : ClientAction Time) :
    PooledManager Time :=
  match manager.clients[index]? with
  | none => manager
  | some client =>
      match manager.clientStep client action with
      | none => manager
      | some (manager, client) =>
          { manager with clients := manager.clients.set index client }

variable [Sub Time] [LT Time] [DecidableLT Time] (settings : PoolSettings Time)

def step (manager : PooledManager Time) : PoolAction Time → PooledManager Time
  | .getConnection => { manager with clients := manager.clients ++ [.attempt 1] }
  | .executeWithRetry =>
      { manager with clients := manager.clients ++ [.attempt settings.retryAttempts] }
  | .client index action => manager.advance index action
  | .cleanup now =>
      { manager with
        connections :=
          manager.connections.cleanupIdleConnections settings.idleTimeout now }

def after (actions : List (PoolAction Time)) : PooledManager Time :=
  actions.foldl (step settings) (new settings)

end PooledManager

end EventPipeline
