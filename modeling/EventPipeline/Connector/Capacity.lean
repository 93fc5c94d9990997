import EventPipeline.Connector.Exclusive
import Mathlib.Data.List.Perm.Subperm

/-! # Capacity of the pool

Every client between a successful acquisition of the semaphore and its release has a permit, and
no one else has. A client that found no connection has a place in the pool reserved by its permit:
when it looked, all pooled connections were held by other clients with a permit.
-/

namespace EventPipeline

namespace BoundedSemaphore

variable {semaphore next : BoundedSemaphore}

theorem acquire_eq_some (acquired : semaphore.acquire = some next) :
    next.initial = semaphore.initial ∧ next.value + 1 = semaphore.value := by
  rw [acquire] at acquired
  split at acquired
  · cases acquired
    exact ⟨rfl, Nat.sub_add_cancel ‹_›⟩
  · cases acquired

theorem release_of_lt (free : semaphore.value < semaphore.initial) :
    semaphore.release = some ⟨semaphore.initial, semaphore.value + 1, free⟩ :=
  dif_pos free

end BoundedSemaphore

namespace PoolClient

def isLooking (client : PoolClient) : Bool := client.phase = .looking

theorem countP_le_hasPermit (clients : List PoolClient) :
    clients.countP (fun client => client.held.isSome) + clients.countP isCreating +
      clients.countP isLooking ≤ clients.countP hasPermit := by
  induction clients with
  | nil => exact Nat.le_refl _
  | cons client rest induction =>
      have one : (if client.held.isSome then 1 else 0) + (if client.isCreating then 1 else 0) +
          (if client.isLooking then 1 else 0) ≤ if client.hasPermit then 1 else 0 := by
        rcases client with ⟨phase, attemptsLeft⟩
        cases phase <;> simp [held, isCreating, isLooking, hasPermit]
      simp only [List.countP_cons]
      omega

theorem countP_set {clients : List PoolClient} {index : Nat} {client : PoolClient}
    (found : clients[index]? = some client) (next : PoolClient) (counts : PoolClient → Bool) :
    (clients.set index next).countP counts + (counts client).toNat =
      clients.countP counts + (counts next).toNat := by
  rcases List.getElem?_eq_some_iff.mp found with ⟨bound, here⟩
  have positive : counts client = true → 0 < clients.countP counts := by
    intro counted
    exact List.countP_pos_iff.mpr ⟨client, List.mem_of_getElem? found, counted⟩
  rw [List.countP_set bound, here]
  cases before : counts client with
  | false => cases counts next <;> simp
  | true =>
      have := positive before
      cases counts next <;> simp <;> omega

@[simp] theorem hasPermit_attempt (attempts : Nat) : (attempt attempts).hasPermit = false := by
  cases attempts <;> rfl

@[simp] theorem isCreating_attempt (attempts : Nat) :
    (attempt attempts).isCreating = false := by
  cases attempts <;> rfl

end PoolClient

namespace PooledManager

variable {Time : Type} {manager : PooledManager Time}

structure Balanced (maxConnections : Nat) (manager : PooledManager Time) : Prop where
  initial : manager.semaphore.initial = maxConnections
  permits : manager.semaphore.value + manager.clients.countP PoolClient.hasPermit =
    maxConnections
  places : manager.connections.connectionPool.length +
    manager.clients.countP PoolClient.isCreating ≤ maxConnections
  noErrors : manager.valueErrors = 0

theorem length_pool_le (consistent : manager.connections.Consistent manager.holder)
    (empty : manager.connections.availableConnections = ∅) :
    manager.connections.connectionPool.length ≤
      manager.clients.countP fun client => client.held.isSome := by
  have within : OrderedDict.keys manager.connections.connectionPool ⊆
      (manager.clients.filterMap PoolClient.held).map Connection.id := by
    intro id pooled
    rcases consistent.accounted id pooled with available | ⟨index, connection, holds, rfl⟩
    · rw [empty] at available
      exact absurd available (Finset.notMem_empty id)
    · rcases Option.bind_eq_some_iff.mp holds with ⟨client, found, held⟩
      exact List.mem_map_of_mem
        (List.mem_filterMap.mpr ⟨client, List.mem_of_getElem? found, held⟩)
  have bound := (consistent.nodup.subperm within).length_le
  rwa [OrderedDict.keys, List.length_map, List.length_map, List.length_filterMap_eq_countP]
    at bound

theorem length_closeIdle_lt {connections : PooledConnections Time} {id : ConnectionId}
    {connection : Connection}
    (found : OrderedDict.get id connections.connectionPool = some connection) :
    (connections.closeIdle id).connectionPool.length < connections.connectionPool.length := by
  rw [PooledConnections.closeIdle, found]
  exact List.length_filter_lt_length_iff_exists.mpr
    ⟨(id, connection), OrderedDict.mem_of_get found, by simp⟩

theorem length_closeIdle (connections : PooledConnections Time) (id : ConnectionId) :
    (connections.closeIdle id).connectionPool.length ≤ connections.connectionPool.length := by
  rw [PooledConnections.closeIdle]
  split
  · exact Nat.le_refl _
  · exact List.length_filter_le _ _

theorem releaseConnection_pool (connections : PooledConnections Time) (connection : Connection)
    (now : Time) : (connections.releaseConnection connection now).connectionPool =
      connections.connectionPool := by
  rw [PooledConnections.releaseConnection]
  split <;> rfl

theorem releaseSemaphore_eq {maxConnections : Nat} (balanced : Balanced maxConnections manager)
    (taken : 0 < manager.clients.countP PoolClient.hasPermit) :
    ∃ semaphore, manager.releaseSemaphore = { manager with semaphore } ∧
      semaphore.initial = maxConnections ∧
      semaphore.value = manager.semaphore.value + 1 := by
  have free : manager.semaphore.value < manager.semaphore.initial := by
    have permits := balanced.permits
    have initial := balanced.initial
    omega
  refine ⟨⟨manager.semaphore.initial, manager.semaphore.value + 1, free⟩, ?_, balanced.initial,
    rfl⟩
  rw [releaseSemaphore, BoundedSemaphore.release_of_lt free]

theorem Balanced.set {maxConnections : Nat} (balanced : Balanced maxConnections manager)
    {index : Nat} {client nextClient : PoolClient} {next : PooledManager Time}
    (found : manager.clients[index]? = some client)
    (initial : next.semaphore.initial = maxConnections)
    (permits : next.semaphore.value + nextClient.hasPermit.toNat =
      manager.semaphore.value + client.hasPermit.toNat)
    (places : next.connections.connectionPool.length + nextClient.isCreating.toNat ≤
      manager.connections.connectionPool.length + client.isCreating.toNat)
    (noErrors : next.valueErrors = 0) :
    Balanced maxConnections
      { next with clients := manager.clients.set index nextClient } := by
  have countedPermits := PoolClient.countP_set found nextClient PoolClient.hasPermit
  have countedPlaces := PoolClient.countP_set found nextClient PoolClient.isCreating
  have permitsBefore := balanced.permits
  have placesBefore := balanced.places
  constructor
  · exact initial
  · dsimp only
    omega
  · dsimp only
    omega
  · exact noErrors

theorem Balanced.releaseSemaphore {maxConnections : Nat}
    (balanced : Balanced maxConnections manager)
    {index : Nat} {client nextClient : PoolClient}
    (found : manager.clients[index]? = some client) (permit : client.hasPermit = true)
    (without : nextClient.hasPermit = false) (elsewhere : nextClient.isCreating = false) :
    Balanced maxConnections
      { manager.releaseSemaphore with clients := manager.clients.set index nextClient } := by
  have taken : 0 < manager.clients.countP PoolClient.hasPermit :=
    List.countP_pos_iff.mpr ⟨client, List.mem_of_getElem? found, permit⟩
  rcases releaseSemaphore_eq balanced taken with ⟨semaphore, same, initial, more⟩
  rw [same]
  apply balanced.set found initial
  · rw [permit, without]
    exact more
  · rw [elsewhere]
    exact Nat.le_add_right _ _
  · exact balanced.noErrors

theorem Balanced.noneAvailable {maxConnections : Nat}
    (balanced : Balanced maxConnections manager)
    (consistent : manager.connections.Consistent manager.holder)
    {index : Nat} {client : PoolClient} (found : manager.clients[index]? = some client)
    (phase : client.phase = .looking)
    (empty : manager.connections.availableConnections = ∅) :
    Balanced maxConnections
      { manager with clients := manager.clients.set index { client with phase := .creating } } := by
  have looks : client.isLooking = true := by rw [PoolClient.isLooking, phase]; rfl
  have permit : client.hasPermit = true := by rw [PoolClient.hasPermit, phase]
  have elsewhere : client.isCreating = false := by rw [PoolClient.isCreating, phase]; rfl
  have permits := PoolClient.countP_set found { client with phase := .creating }
    PoolClient.hasPermit
  have places := PoolClient.countP_set found { client with phase := .creating }
    PoolClient.isCreating
  rw [permit, show PoolClient.hasPermit { client with phase := .creating } = true from rfl]
    at permits
  rw [elsewhere, show PoolClient.isCreating { client with phase := .creating } = true from rfl]
    at places
  have all := PoolClient.countP_le_hasPermit manager.clients
  have pooled := length_pool_le consistent empty
  have looking : 0 < manager.clients.countP PoolClient.isLooking :=
    List.countP_pos_iff.mpr ⟨client, List.mem_of_getElem? found, looks⟩
  have before := balanced.permits
  constructor
  · exact balanced.initial
  · dsimp only
    omega
  · dsimp only
    simp only [Bool.toNat_true, Bool.toNat_false] at places
    omega
  · exact balanced.noErrors

theorem Balanced.move {maxConnections : Nat} (balanced : Balanced maxConnections manager)
    (consistent : manager.connections.Consistent manager.holder)
    {index : Nat} {client nextClient : PoolClient} {next : PooledManager Time}
    (found : manager.clients[index]? = some client)
    (move : Move manager client next nextClient) :
    Balanced maxConnections
      { next with clients := manager.clients.set index nextClient } := by
  cases move with
  | acquired phase permit =>
      rcases BoundedSemaphore.acquire_eq_some permit with ⟨sameInitial, less⟩
      apply balanced.set found
      · exact sameInitial.trans balanced.initial
      · simpa [PoolClient.hasPermit, phase] using less
      · simp [PoolClient.isCreating]
      · exact balanced.noErrors
  | timedOut phase =>
      apply balanced.set found balanced.initial
      · rw [PoolClient.hasPermit_attempt]
        simp [PoolClient.hasPermit, phase]
      · simp
      · exact balanced.noErrors
  | noneAvailable phase empty => exact balanced.noneAvailable consistent found phase empty
  | unhealthy phase pooled =>
      apply balanced.set found
      · exact balanced.initial
      · simp [PoolClient.hasPermit, phase]
      · simpa [PoolClient.isCreating, phase] using
          Nat.succ_le_of_lt (length_closeIdle_lt pooled)
      · exact balanced.noErrors
  | taken phase member pooled =>
      apply balanced.set found
      · exact balanced.initial
      · simp [PoolClient.hasPermit, phase]
      · simp [PoolClient.isCreating]
      · exact balanced.noErrors
  | created phase fresh =>
      apply balanced.set found
      · exact balanced.initial
      · simp [PoolClient.hasPermit, phase]
      · have unpooled := fun pooled => fresh (List.mem_append_left _ pooled)
        simp [PoolClient.isCreating, phase, PooledConnections.createNewConnection,
          OrderedDict.insert_of_not_mem _ unpooled]
      · exact balanced.noErrors
  | createFailed phase =>
      apply balanced.releaseSemaphore found
      · rw [PoolClient.hasPermit, phase]
      · exact PoolClient.hasPermit_attempt _
      · exact PoolClient.isCreating_attempt _
  | released phase =>
      apply balanced.set found
      · exact balanced.initial
      · simp [PoolClient.hasPermit, phase]
      · simp [PoolClient.isCreating, releaseConnection_pool]
      · exact balanced.noErrors
  | finished phase =>
      apply balanced.releaseSemaphore found
      · rw [PoolClient.hasPermit, phase]
      · rfl
      · rfl
  | retried phase =>
      apply balanced.releaseSemaphore found
      · rw [PoolClient.hasPermit, phase]
      · exact PoolClient.hasPermit_attempt _
      · exact PoolClient.isCreating_attempt _

theorem Balanced.append {maxConnections : Nat} (balanced : Balanced maxConnections manager)
    (attempts : Nat) :
    Balanced maxConnections
      { manager with clients := manager.clients ++ [.attempt attempts] } := by
  constructor
  · exact balanced.initial
  · simpa using balanced.permits
  · simpa using balanced.places
  · exact balanced.noErrors

theorem length_foldl_closeIdle (connections : PooledConnections Time)
    (ids : List ConnectionId) :
    (ids.foldl PooledConnections.closeIdle connections).connectionPool.length ≤
      connections.connectionPool.length := by
  induction ids generalizing connections with
  | nil => exact Nat.le_refl _
  | cons id rest induction =>
      exact (induction (connections.closeIdle id)).trans (length_closeIdle connections id)

variable [Sub Time] [LT Time] [DecidableLT Time] {settings : PoolSettings Time}

theorem Balanced.step {maxConnections : Nat} (balanced : Balanced maxConnections manager)
    (consistent : manager.connections.Consistent manager.holder) (action : PoolAction Time) :
    Balanced maxConnections (manager.step settings action) := by
  cases action with
  | getConnection => exact balanced.append 1
  | executeWithRetry => exact balanced.append settings.retryAttempts
  | client index action =>
      rcases advance_cases consistent index action with same | ⟨client, next, nextClient, found,
        move, result⟩
      · rw [PooledManager.step, same]
        exact balanced
      · rw [PooledManager.step, result]
        exact balanced.move consistent found move
  | cleanup now =>
      refine ⟨balanced.initial, balanced.permits, ?_, balanced.noErrors⟩
      have fewer := length_foldl_closeIdle manager.connections
        (manager.connections.idleConnections settings.idleTimeout now)
      exact (Nat.add_le_add_right fewer _).trans balanced.places

theorem balanced_after (settings : PoolSettings Time) (actions : List (PoolAction Time)) :
    Balanced settings.maxConnections (after settings actions) := by
  induction actions using List.reverseRecOn with
  | nil => exact ⟨rfl, rfl, Nat.zero_le _, rfl⟩
  | append_singleton front action induction =>
      rw [after_concat]
      exact induction.step (consistent_after settings front) action

/-- What is conserved at every moment of a run: connections within the maximum, a permit for
each client between acquisition and release, no release that raises, and all permits back when
all clients are done. -/
structure Conserved (settings : PoolSettings Time) (manager : PooledManager Time) : Prop where
  pool : manager.connections.connectionPool.length ≤ settings.maxConnections
  permits : manager.semaphore.taken = manager.clients.countP PoolClient.hasPermit
  noErrors : manager.valueErrors = 0
  drained : (∀ client ∈ manager.clients, client.phase = .done) →
    manager.semaphore.value = settings.maxConnections

/-- The balance of a run in which an attempt to connect fails with an `Exception` only. -/
theorem conserved (settings : PoolSettings Time) (actions : List (PoolAction Time)) :
    Conserved settings (after settings actions) := by
  have balanced := balanced_after settings actions
  have permits := balanced.permits
  have places := balanced.places
  have initial := balanced.initial
  constructor
  · omega
  · rw [BoundedSemaphore.taken]
    omega
  · exact balanced.noErrors
  · intro done
    have none : (after settings actions).clients.countP PoolClient.hasPermit = 0 := by
      rw [List.countP_eq_zero]
      intro client member permit
      rw [PoolClient.hasPermit, done client member] at permit
      cases permit
    omega

end PooledManager

end EventPipeline
