import EventPipeline.Connector.PooledConnections

/-! # Lending connections

What the containers have in common with each other and with the connections that clients hold.
A connection that a client holds may have left the pool in the meantime, but its id is not given
to another one.
-/

namespace EventPipeline

namespace PooledConnections

section Lending

variable {Time : Type} {connections : PooledConnections Time} {holder : Nat → Option Connection}

/-- `holder` gives the connection that each client holds. -/
structure Consistent (connections : PooledConnections Time) (holder : Nat → Option Connection) :
    Prop where
  nodup : (OrderedDict.keys connections.connectionPool).Nodup
  stats : OrderedDict.keys connections.connectionStats =
    OrderedDict.keys connections.connectionPool
  keyed : ∀ id connection, OrderedDict.get id connections.connectionPool = some connection →
    connection.id = id
  opened : ∀ id connection, OrderedDict.get id connections.connectionPool = some connection →
    connection ∉ connections.closed
  available : ∀ id ∈ connections.availableConnections,
    id ∈ OrderedDict.keys connections.connectionPool
  unavailable : ∀ client connection, holder client = some connection →
    connection.id ∉ connections.availableConnections
  distinct : ∀ client other connection shared, holder client = some connection →
    holder other = some shared → connection.id = shared.id → client = other
  own : ∀ client connection pooled, holder client = some connection →
    OrderedDict.get connection.id connections.connectionPool = some pooled → pooled = connection
  accounted : ∀ id ∈ OrderedDict.keys connections.connectionPool,
    id ∈ connections.availableConnections ∨
    ∃ client connection, holder client = some connection ∧ connection.id = id
  closedMade : ∀ connection ∈ connections.closed, connection.serial < connections.created
  heldMade : ∀ client connection, holder client = some connection →
    connection.serial < connections.created
  pooledMade : ∀ id connection,
    OrderedDict.get id connections.connectionPool = some connection →
    connection.serial < connections.created

theorem consistent_initial :
    Consistent ({} : PooledConnections Time) fun _ => none where
  nodup := List.nodup_nil
  stats := rfl
  keyed := by simp
  opened := by simp
  available := by simp
  unavailable := by simp
  distinct := by simp
  own := by simp
  accounted := by simp
  closedMade := by simp
  heldMade := by simp
  pooledMade := by simp

/-! ## Closing -/

theorem keys_filter_ne {Value : Type} (id : ConnectionId) (dict : List (ConnectionId × Value)) :
    OrderedDict.keys (dict.filter fun entry => entry.1 ≠ id) =
      (OrderedDict.keys dict).filter fun key => key ≠ id := by
  rw [OrderedDict.keys, OrderedDict.keys, List.filter_map]
  rfl

theorem get_filter_some {Value : Type} {id probe : ConnectionId}
    {dict : List (ConnectionId × Value)} {value : Value}
    (found : OrderedDict.get probe (dict.filter fun entry => entry.1 ≠ id) = some value) :
    probe ≠ id ∧ OrderedDict.get probe dict = some value := by
  rw [OrderedDict.get_filter_ne] at found
  split at found
  · cases found
  · exact ⟨‹_›, found⟩

theorem Consistent.closeIdle (consistent : Consistent connections holder) (id : ConnectionId) :
    Consistent (connections.closeIdle id) holder := by
  cases found : OrderedDict.get id connections.connectionPool with
  | none =>
      rw [PooledConnections.closeIdle, found]
      exact consistent
  | some connection =>
      rw [PooledConnections.closeIdle, found]
      constructor
      · change (OrderedDict.keys (connections.connectionPool.filter _)).Nodup
        rw [keys_filter_ne]
        exact consistent.nodup.filter _
      · change OrderedDict.keys (connections.connectionStats.filter _) =
          OrderedDict.keys (connections.connectionPool.filter _)
        rw [keys_filter_ne, keys_filter_ne, consistent.stats]
      · intro probe pooled kept
        exact consistent.keyed probe pooled (get_filter_some kept).2
      · intro probe pooled kept closed
        rcases get_filter_some kept with ⟨different, kept⟩
        rcases List.mem_cons.mp closed with rfl | before
        · apply different
          rw [← consistent.keyed probe pooled kept, consistent.keyed id pooled found]
        · exact consistent.opened probe pooled kept before
      · intro probe member
        change probe ∈ connections.availableConnections.erase id at member
        change probe ∈ OrderedDict.keys (connections.connectionPool.filter _)
        rcases Finset.mem_erase.mp member with ⟨different, available⟩
        rw [keys_filter_ne]
        exact List.mem_filter.mpr
          ⟨consistent.available probe available, decide_eq_true different⟩
      · intro client held holds available
        exact consistent.unavailable client held holds (Finset.mem_of_mem_erase available)
      · exact consistent.distinct
      · intro client held pooled holds kept
        exact consistent.own client held pooled holds (get_filter_some kept).2
      · intro probe member
        change probe ∈ OrderedDict.keys (connections.connectionPool.filter _) at member
        rw [keys_filter_ne] at member
        rcases List.mem_filter.mp member with ⟨before, different⟩
        rcases consistent.accounted probe before with available | held
        · exact .inl (Finset.mem_erase.mpr ⟨of_decide_eq_true different, available⟩)
        · exact .inr held
      · intro closed member
        rcases List.mem_cons.mp member with rfl | before
        · exact consistent.pooledMade id closed found
        · exact consistent.closedMade closed before
      · exact consistent.heldMade
      · intro probe pooled kept
        exact consistent.pooledMade probe pooled (get_filter_some kept).2

theorem Consistent.foldl_closeIdle (consistent : Consistent connections holder)
    (ids : List ConnectionId) : Consistent (ids.foldl PooledConnections.closeIdle connections)
      holder := by
  induction ids generalizing connections with
  | nil => exact consistent
  | cons id rest induction => exact induction (consistent.closeIdle id)

/-! ## Handing out and taking back -/

theorem holder_update {client probe : Nat} {given : Connection} {connection : Connection}
    (holds : Function.update holder client (some given) probe = some connection) :
    probe = client ∧ connection = given ∨ holder probe = some connection := by
  by_cases same : probe = client
  · subst same
    rw [Function.update_self] at holds
    exact .inl ⟨rfl, (Option.some.inj holds).symm⟩
  · rw [Function.update_of_ne same] at holds
    exact .inr holds

theorem holder_of_update_none {client probe : Nat} {connection : Connection}
    (holds : Function.update holder client none probe = some connection) :
    probe ≠ client ∧ holder probe = some connection := by
  by_cases same : probe = client
  · subst same
    rw [Function.update_self] at holds
    cases holds
  · rw [Function.update_of_ne same] at holds
    exact ⟨same, holds⟩

/-- A holder still holds what it did when another client, which held nothing, gets a
connection. -/
theorem update_of_holder {client probe : Nat} {given connection : Connection}
    (free : holder client = none) (holds : holder probe = some connection) :
    Function.update holder client (some given) probe = some connection := by
  have different : probe ≠ client := by
    rintro rfl
    rw [free] at holds
    cases holds
  rw [Function.update_of_ne different, holds]

theorem distinct_update {client : Nat} {given : Connection}
    (distinct : ∀ client other connection shared, holder client = some connection →
      holder other = some shared → connection.id = shared.id → client = other)
    (new : ∀ other shared, holder other = some shared → shared.id ≠ given.id) :
    ∀ first second connection shared,
      Function.update holder client (some given) first = some connection →
      Function.update holder client (some given) second = some shared →
      connection.id = shared.id → first = second := by
  intro first second connection shared holdsFirst holdsSecond same
  rcases holder_update holdsFirst with ⟨rfl, rfl⟩ | heldFirst
  · rcases holder_update holdsSecond with ⟨rfl, rfl⟩ | heldSecond
    · rfl
    · exact absurd same.symm (new second shared heldSecond)
  · rcases holder_update holdsSecond with ⟨rfl, rfl⟩ | heldSecond
    · exact absurd same (new first connection heldFirst)
    · exact distinct first second connection shared heldFirst heldSecond same

theorem Consistent.take (consistent : Consistent connections holder) {client : Nat}
    (free : holder client = none) {id : ConnectionId} {connection : Connection}
    (member : id ∈ connections.availableConnections)
    (found : OrderedDict.get id connections.connectionPool = some connection) :
    Consistent { connections with
        availableConnections := connections.availableConnections.erase id }
      (Function.update holder client (some connection)) where
  nodup := consistent.nodup
  stats := consistent.stats
  keyed := consistent.keyed
  opened := consistent.opened
  available := fun probe available =>
    consistent.available probe (Finset.mem_of_mem_erase available)
  unavailable := by
    intro probe held holds available
    rcases holder_update holds with ⟨rfl, rfl⟩ | before
    · rw [consistent.keyed id held found] at available
      exact Finset.notMem_erase id _ available
    · exact consistent.unavailable probe held before (Finset.mem_of_mem_erase available)
  distinct := by
    apply distinct_update consistent.distinct
    intro other shared holds same
    apply consistent.unavailable other shared holds
    rwa [same, consistent.keyed id connection found]
  own := by
    intro probe held pooled holds kept
    rcases holder_update holds with ⟨rfl, rfl⟩ | before
    · rw [consistent.keyed id held found] at kept
      exact Option.some.inj (kept.symm.trans found)
    · exact consistent.own probe held pooled before kept
  accounted := by
    intro probe pooled
    by_cases same : probe = id
    · subst same
      exact .inr ⟨client, connection, Function.update_self _ _ _,
        consistent.keyed probe connection found⟩
    · rcases consistent.accounted probe pooled with available | ⟨other, held, holds, named⟩
      · exact .inl (Finset.mem_erase.mpr ⟨same, available⟩)
      · exact .inr ⟨other, held, update_of_holder free holds, named⟩
  closedMade := consistent.closedMade
  heldMade := by
    intro probe held holds
    rcases holder_update holds with ⟨rfl, rfl⟩ | before
    · exact consistent.pooledMade id held found
    · exact consistent.heldMade probe held before
  pooledMade := consistent.pooledMade

theorem Consistent.create (consistent : Consistent connections holder) {client : Nat}
    (free : holder client = none) {id : ConnectionId}
    (unpooled : id ∉ OrderedDict.keys connections.connectionPool)
    (unheld : ∀ other shared, holder other = some shared → shared.id ≠ id) (now : Time) :
    Consistent (connections.createNewConnection id now)
      (Function.update holder client (some (connections.nextConnection id))) where
  nodup := OrderedDict.nodup_keys_insert id _ consistent.nodup
  stats := by
    rw [createNewConnection, OrderedDict.keys_insert, OrderedDict.keys_insert, consistent.stats]
  keyed := by
    intro probe pooled found
    rw [createNewConnection, OrderedDict.get_insert] at found
    split at found
    · cases found
      assumption
    · exact consistent.keyed probe pooled found
  opened := by
    intro probe pooled found closed
    rw [createNewConnection, OrderedDict.get_insert] at found
    split at found
    · cases found
      exact Nat.lt_irrefl _ (consistent.closedMade _ closed)
    · exact consistent.opened probe pooled found closed
  available := by
    intro probe available
    have pooled := consistent.available probe available
    rw [createNewConnection, OrderedDict.keys_insert, if_neg unpooled]
    exact List.mem_append_left _ pooled
  unavailable := by
    intro probe held holds available
    rcases holder_update holds with ⟨rfl, rfl⟩ | before
    · exact unpooled (consistent.available _ available)
    · exact consistent.unavailable probe held before available
  distinct := distinct_update consistent.distinct unheld
  own := by
    intro probe held pooled holds found
    rw [createNewConnection, OrderedDict.get_insert] at found
    rcases holder_update holds with ⟨rfl, rfl⟩ | before
    · rw [if_pos (show id = (connections.nextConnection id).id from rfl)] at found
      exact (Option.some.inj found).symm
    · rw [if_neg (unheld probe held before).symm] at found
      exact consistent.own probe held pooled before found
  accounted := by
    intro probe pooled
    rw [createNewConnection, OrderedDict.keys_insert, if_neg unpooled] at pooled
    rcases List.mem_append.mp pooled with before | new
    · rcases consistent.accounted probe before with available | ⟨other, held, holds, named⟩
      · exact .inl available
      · exact .inr ⟨other, held, update_of_holder free holds, named⟩
    · exact .inr ⟨client, _, Function.update_self _ _ _, (List.mem_singleton.mp new).symm⟩
  closedMade := fun closed member => Nat.lt_succ_of_lt (consistent.closedMade closed member)
  heldMade := by
    intro probe held holds
    rcases holder_update holds with ⟨rfl, rfl⟩ | before
    · exact Nat.lt_succ_self _
    · exact Nat.lt_succ_of_lt (consistent.heldMade probe held before)
  pooledMade := by
    intro probe pooled found
    rw [createNewConnection, OrderedDict.get_insert] at found
    split at found
    · cases found
      exact Nat.lt_succ_self _
    · exact Nat.lt_succ_of_lt (consistent.pooledMade probe pooled found)

theorem distinct_update_none (client : Nat)
    (distinct : ∀ client other connection shared, holder client = some connection →
      holder other = some shared → connection.id = shared.id → client = other) :
    ∀ first second connection shared,
      Function.update holder client none first = some connection →
      Function.update holder client none second = some shared →
      connection.id = shared.id → first = second := by
  intro first second connection shared holdsFirst holdsSecond
  exact distinct first second connection shared (holder_of_update_none holdsFirst).2
    (holder_of_update_none holdsSecond).2

theorem Consistent.discard (consistent : Consistent connections holder) {client : Nat}
    {connection : Connection} (holds : holder client = some connection)
    (gone : connection.id ∉ OrderedDict.keys connections.connectionPool) :
    Consistent (connections.closeConnection connection)
      (Function.update holder client none) where
  nodup := consistent.nodup
  stats := consistent.stats
  keyed := consistent.keyed
  opened := by
    intro probe pooled kept closed
    rcases List.mem_cons.mp closed with rfl | before
    · have same := consistent.keyed probe pooled kept
      rw [← same] at kept
      exact gone (OrderedDict.mem_keys_of_get kept)
    · exact consistent.opened probe pooled kept before
  available := consistent.available
  unavailable := by
    intro probe held stillHolds
    exact consistent.unavailable probe held (holder_of_update_none stillHolds).2
  distinct := distinct_update_none client consistent.distinct
  own := by
    intro probe held pooled stillHolds
    exact consistent.own probe held pooled (holder_of_update_none stillHolds).2
  accounted := by
    intro probe pooled
    rcases consistent.accounted probe pooled with available | ⟨other, held, holding, named⟩
    · exact .inl available
    · have different : other ≠ client := by
        rintro rfl
        rw [holding] at holds
        cases holds
        exact gone (named ▸ pooled)
      refine .inr ⟨other, held, ?_, named⟩
      rw [Function.update_of_ne different, holding]
  closedMade := by
    intro closed member
    rcases List.mem_cons.mp member with rfl | before
    · exact consistent.heldMade client closed holds
    · exact consistent.closedMade closed before
  heldMade := by
    intro probe held stillHolds
    exact consistent.heldMade probe held (holder_of_update_none stillHolds).2
  pooledMade := consistent.pooledMade

theorem Consistent.giveBack (consistent : Consistent connections holder) {client : Nat}
    {connection : Connection} (holds : holder client = some connection)
    (pooled : connection.id ∈ OrderedDict.keys connections.connectionPool)
    (stats : ConnectionStats Time) :
    Consistent { connections with
        connectionStats := OrderedDict.insert connection.id stats connections.connectionStats
        availableConnections := insert connection.id connections.availableConnections }
      (Function.update holder client none) where
  nodup := consistent.nodup
  stats := by
    have present : connection.id ∈ OrderedDict.keys connections.connectionStats := by
      rwa [consistent.stats]
    rw [OrderedDict.keys_insert, if_pos present, consistent.stats]
  keyed := consistent.keyed
  opened := consistent.opened
  available := by
    intro probe available
    rcases Finset.mem_insert.mp available with rfl | before
    · exact pooled
    · exact consistent.available probe before
  unavailable := by
    intro probe held stillHolds available
    rcases holder_of_update_none stillHolds with ⟨different, holding⟩
    rcases Finset.mem_insert.mp available with same | before
    · exact different (consistent.distinct probe client held connection holding holds same)
    · exact consistent.unavailable probe held holding before
  distinct := distinct_update_none client consistent.distinct
  own := by
    intro probe held kept stillHolds
    exact consistent.own probe held kept (holder_of_update_none stillHolds).2
  accounted := by
    intro probe member
    rcases consistent.accounted probe member with available | ⟨other, held, holding, named⟩
    · exact .inl (Finset.mem_insert_of_mem available)
    · by_cases same : other = client
      · subst same
        rw [holding] at holds
        cases holds
        exact .inl (Finset.mem_insert.mpr (.inl named.symm))
      · exact .inr ⟨other, held, by rw [Function.update_of_ne same, holding], named⟩
  closedMade := consistent.closedMade
  heldMade := by
    intro probe held stillHolds
    exact consistent.heldMade probe held (holder_of_update_none stillHolds).2
  pooledMade := consistent.pooledMade

theorem Consistent.release (consistent : Consistent connections holder) {client : Nat}
    {connection : Connection} (holds : holder client = some connection) (now : Time) :
    Consistent (connections.releaseConnection connection now)
      (Function.update holder client none) := by
  cases found : OrderedDict.get connection.id connections.connectionStats with
  | none =>
      have gone : connection.id ∉ OrderedDict.keys connections.connectionPool := by
        rw [← consistent.stats]
        exact (OrderedDict.get_eq_none_iff _ _).mp found
      rw [releaseConnection, found]
      exact consistent.discard holds gone
  | some stats =>
      have pooled : connection.id ∈ OrderedDict.keys connections.connectionPool := by
        rw [← consistent.stats]
        exact OrderedDict.mem_keys_of_get found
      rw [releaseConnection, found]
      exact consistent.giveBack holds pooled _

end Lending

end PooledConnections

end EventPipeline
