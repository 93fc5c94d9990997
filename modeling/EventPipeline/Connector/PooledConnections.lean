import EventPipeline.Foundation.OrderedDict
import Mathlib.Data.Finset.Basic
import Mathlib.Logic.Function.Basic

/-! # Pooled connections

The containers of a pooled connector manager, and what is done with them while the pool lock is
held. Connections are kept under their object ids, which are used again when a connection is gone;
the serial number tells a connection from all others.
-/

namespace EventPipeline

abbrev ConnectionId := Nat

structure Connection where
  serial : Nat
  id : ConnectionId
deriving DecidableEq, Repr

structure ConnectionStats (Time : Type) where
  createdAt : Time
  lastUsedAt : Time
  useCount : Nat := 0
deriving DecidableEq, Repr

/-- The containers, the connections that the manager has closed, and how many have been made. -/
structure PooledConnections (Time : Type) where
  connectionPool : List (ConnectionId × Connection) := []
  connectionStats : List (ConnectionId × ConnectionStats Time) := []
  availableConnections : Finset ConnectionId := ∅
  closed : List Connection := []
  created : Nat := 0

namespace PooledConnections

section Operations

variable {Time : Type}

def closeConnection (connection : Connection) (connections : PooledConnections Time) :
    PooledConnections Time :=
  { connections with closed := connection :: connections.closed }

def delete (connId : ConnectionId) (connections : PooledConnections Time) :
    PooledConnections Time :=
  { connections with
    connectionPool := connections.connectionPool.filter fun entry => entry.1 ≠ connId
    connectionStats := connections.connectionStats.filter fun entry => entry.1 ≠ connId }

/-- `popped` is the id that the set gives when it is not empty, and `healthy` what the connection
says of itself. -/
def getAvailableConnection (popped : ConnectionId) (healthy : Bool)
    (connections : PooledConnections Time) : PooledConnections Time × Option Connection :=
  if connections.availableConnections = ∅ then (connections, none)
  else
    let connections :=
      { connections with availableConnections := connections.availableConnections.erase popped }
    match OrderedDict.get popped connections.connectionPool with
    | none => (connections, none)
    | some connection =>
        if healthy then (connections, some connection)
        else ((connections.closeConnection connection).delete popped, none)

def nextConnection (connections : PooledConnections Time) (id : ConnectionId) : Connection :=
  ⟨connections.created, id⟩

/-- The connection is made before the lock is taken, but nobody sees it before it is in the
pool. -/
def createNewConnection (id : ConnectionId) (now : Time) (connections : PooledConnections Time) :
    PooledConnections Time :=
  { connections with
    connectionPool :=
      OrderedDict.insert id (connections.nextConnection id) connections.connectionPool
    connectionStats :=
      OrderedDict.insert id { createdAt := now, lastUsedAt := now } connections.connectionStats
    created := connections.created + 1 }

/-- `release_connection`, up to the semaphore. -/
def releaseConnection (connection : Connection) (now : Time)
    (connections : PooledConnections Time) : PooledConnections Time :=
  match OrderedDict.get connection.id connections.connectionStats with
  | some stats =>
      { connections with
        connectionStats := OrderedDict.insert connection.id
          { stats with lastUsedAt := now, useCount := stats.useCount + 1 }
          connections.connectionStats
        availableConnections := insert connection.id connections.availableConnections }
  | none => connections.closeConnection connection

def closeIdle (connections : PooledConnections Time) (connId : ConnectionId) :
    PooledConnections Time :=
  match OrderedDict.get connId connections.connectionPool with
  | none => connections
  | some connection =>
      let connections := (connections.closeConnection connection).delete connId
      { connections with availableConnections := connections.availableConnections.erase connId }

variable [Sub Time] [LT Time] [DecidableLT Time]

def isIdle (idleTimeout now : Time) (stats : ConnectionStats Time) : Bool :=
  idleTimeout < now - stats.lastUsedAt

def idleConnections (idleTimeout now : Time) (connections : PooledConnections Time) :
    List ConnectionId :=
  OrderedDict.keys (connections.connectionStats.filter fun entry =>
    isIdle idleTimeout now entry.2)

def cleanupIdleConnections (idleTimeout now : Time) (connections : PooledConnections Time) :
    PooledConnections Time :=
  (connections.idleConnections idleTimeout now).foldl closeIdle connections

end Operations

end PooledConnections

end EventPipeline
