import EventPipeline.Connector.Exclusive

/-! # Idle connections

A pass of the cleanup closes every connection that was not used for longer than the timeout. The
time of the last use is that of the last release, or of the creation, so that a connection in use
is idle as well when its client has held it for long, or got it when it had not been used for
long. The pass does not look at whether the connection is available.
-/

namespace EventPipeline

namespace PooledConnections

section Closing

variable {Time : Type} (connections : PooledConnections Time)

theorem get_closeIdle (id probe : ConnectionId) :
    OrderedDict.get probe (connections.closeIdle id).connectionPool =
      if probe = id then none else OrderedDict.get probe connections.connectionPool := by
  rw [closeIdle]
  cases found : OrderedDict.get id connections.connectionPool with
  | none =>
      by_cases same : probe = id
      · rw [if_pos same, same]
        exact found
      · exact (if_neg same).symm
  | some connection => exact OrderedDict.get_filter_ne id probe connections.connectionPool

theorem mem_closed_closeIdle (id : ConnectionId) (connection : Connection) :
    connection ∈ (connections.closeIdle id).closed ↔
      connection ∈ connections.closed ∨
      OrderedDict.get id connections.connectionPool = some connection := by
  rw [closeIdle]
  cases found : OrderedDict.get id connections.connectionPool with
  | none => simp
  | some pooled =>
      change connection ∈ pooled :: connections.closed ↔ _
      rw [List.mem_cons, Option.some.injEq, or_comm, eq_comm]

variable {connections}

theorem get_foldl_closeIdle (ids : List ConnectionId) (probe : ConnectionId) :
    OrderedDict.get probe (ids.foldl closeIdle connections).connectionPool =
      if probe ∈ ids then none else OrderedDict.get probe connections.connectionPool := by
  induction ids generalizing connections with
  | nil => rfl
  | cons id rest induction =>
      rw [List.foldl_cons, induction, get_closeIdle]
      by_cases same : probe = id <;> simp [same]

theorem mem_closed_foldl_closeIdle (ids : List ConnectionId) (connection : Connection)
    (closed : connection ∈ (ids.foldl closeIdle connections).closed) :
    connection ∈ connections.closed ∨
    ∃ id ∈ ids, OrderedDict.get id connections.connectionPool = some connection := by
  induction ids generalizing connections with
  | nil => exact .inl closed
  | cons id rest induction =>
      rcases induction closed with before | ⟨later, member, found⟩
      · rcases (mem_closed_closeIdle connections id connection).mp before with old | new
        · exact .inl old
        · exact .inr ⟨id, List.mem_cons_self, new⟩
      · rw [get_closeIdle] at found
        split at found
        · cases found
        · exact .inr ⟨later, List.mem_cons_of_mem _ member, found⟩

variable {holder : Nat → Option Connection} [Sub Time] [LT Time] [DecidableLT Time]

theorem Consistent.mem_idleConnections (consistent : Consistent connections holder)
    (idleTimeout now : Time) (id : ConnectionId) :
    id ∈ connections.idleConnections idleTimeout now ↔
      ∃ stats, OrderedDict.get id connections.connectionStats = some stats ∧
        isIdle idleTimeout now stats = true := by
  have nodup : (OrderedDict.keys connections.connectionStats).Nodup := by
    rw [consistent.stats]
    exact consistent.nodup
  constructor
  · intro member
    rcases List.mem_map.mp member with ⟨⟨key, stats⟩, entry, rfl⟩
    rcases List.mem_filter.mp entry with ⟨stored, idle⟩
    exact ⟨stats, OrderedDict.get_of_mem nodup stored, idle⟩
  · rintro ⟨stats, found, idle⟩
    exact List.mem_map.mpr
      ⟨(id, stats), List.mem_filter.mpr ⟨OrderedDict.mem_of_get found, idle⟩, rfl⟩

end Closing

end PooledConnections

namespace PooledManager

variable {Time : Type} [Sub Time] [LT Time] [DecidableLT Time] (settings : PoolSettings Time)

/-- A pass of the cleanup at this time neither closes nor removes a connection that a client
holds. -/
def SparesHeld (manager : PooledManager Time) (now : Time) : Prop :=
  ∀ index connection, manager.holder index = some connection →
    (connection ∈ (manager.step settings (.cleanup now)).connections.closed →
      connection ∈ manager.connections.closed) ∧
    (OrderedDict.get connection.id manager.connections.connectionPool = some connection →
      OrderedDict.get connection.id
        (manager.step settings (.cleanup now)).connections.connectionPool = some connection)

/-- No connection that a client holds was last used too long before this time. -/
def HeldUsed (manager : PooledManager Time) (now : Time) : Prop :=
  ∀ index connection stats, manager.holder index = some connection →
    OrderedDict.get connection.id manager.connections.connectionStats = some stats →
    PooledConnections.isIdle settings.idleTimeout now stats = false

variable {settings}

theorem sparesHeld_iff_heldUsed {manager : PooledManager Time}
    (consistent : manager.connections.Consistent manager.holder) (now : Time) :
    SparesHeld settings manager now ↔ HeldUsed settings manager now := by
  constructor
  · intro spares index connection stats holds found
    by_contra used
    have idle := (consistent.mem_idleConnections settings.idleTimeout now connection.id).mpr
      ⟨stats, found, eq_true_of_ne_false used⟩
    have pooledId : connection.id ∈ OrderedDict.keys manager.connections.connectionPool := by
      rw [← consistent.stats]
      exact OrderedDict.mem_keys_of_get found
    cases pooled : OrderedDict.get connection.id manager.connections.connectionPool with
    | none => exact (OrderedDict.get_eq_none_iff _ _).mp pooled pooledId
    | some other =>
        have same := consistent.own index connection other holds pooled
        subst same
        have kept := (spares index other holds).2 pooled
        rw [step, PooledConnections.cleanupIdleConnections,
          PooledConnections.get_foldl_closeIdle, if_pos idle] at kept
        cases kept
  · intro used index connection holds
    have notIdle : connection.id ∉
        manager.connections.idleConnections settings.idleTimeout now := by
      intro idle
      rcases (consistent.mem_idleConnections _ _ _).mp idle with ⟨stats, found, isIdle⟩
      rw [used index connection stats holds found] at isIdle
      cases isIdle
    constructor
    · intro closed
      rcases PooledConnections.mem_closed_foldl_closeIdle _ connection closed with
        before | ⟨id, idle, found⟩
      · exact before
      · rw [← consistent.keyed id connection found] at idle
        exact absurd idle notIdle
    · intro pooled
      rw [step, PooledConnections.cleanupIdleConnections,
        PooledConnections.get_foldl_closeIdle, if_neg notIdle]
      exact pooled

/-- The cleanup spares the held connections all along a run exactly when none of them was last
used too long before a pass. -/
theorem sparesHeld_iff (settings : PoolSettings Time) (actions : List (PoolAction Time)) :
    (∀ front now rest, front ++ .cleanup now :: rest = actions →
      SparesHeld settings (after settings front) now) ↔
    ∀ front now rest, front ++ .cleanup now :: rest = actions →
      HeldUsed settings (after settings front) now := by
  constructor
  · intro spares front now rest split
    exact (sparesHeld_iff_heldUsed (consistent_after settings front) now).mp
      (spares front now rest split)
  · intro used front now rest split
    exact (sparesHeld_iff_heldUsed (consistent_after settings front) now).mpr
      (used front now rest split)

/-- A connection that is held for longer than the timeout is closed. -/
theorem not_sparesHeld_longUse :
    ¬ ∀ front now rest,
      front ++ .cleanup now :: rest =
        ([.getConnection, .client 0 .acquire, .client 0 (.getAvailable 0 true),
          .client 0 (.create 1 0), .cleanup 301] : List (PoolAction Int)) →
      SparesHeld ⟨10, 300, 3⟩ (after ⟨10, 300, 3⟩ front) now := by
  intro spares
  have spared := spares [.getConnection, .client 0 .acquire, .client 0 (.getAvailable 0 true),
    .client 0 (.create 1 0)] 301 [] rfl
  have kept := (spared 0 ⟨0, 1⟩ rfl).2 rfl
  cases kept

end PooledManager

end EventPipeline
