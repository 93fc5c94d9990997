import EventPipeline.Foundation.Loop
import EventPipeline.Foundation.OrderedMap
import EventPipeline.Foundation.Ownership

/-! # Sets of results

A `ResultSet` is an object that refers to a dictionary of results by identity and to a set of their
content types. Both are mutable objects of their own, so they are kept in arenas beside the result
sets. The set of content types is the list of them without repetitions.
-/

namespace EventPipeline

/-- What a result set asks of a result. The connector is given by the import string of its class,
if there is a connector with the truth value true. -/
class ObjectIdentity (Entity : Type) where
  id : Entity → String
  truthy : Entity → Bool
  connector : Entity → Option String
  objectImportStr : Entity → String

structure EntityContentType where
  backendImportStr : Option String
  entityContentType : String
deriving DecidableEq, Repr

namespace EntityContentType

variable {Entity : Type} [ObjectIdentity Entity]

def ofEntity (entity : Entity) : EntityContentType :=
  ⟨ObjectIdentity.connector entity, ObjectIdentity.objectImportStr entity⟩

/-- An object with the truth value false, or without an identity, gets no content type. -/
def addEntityContentType (entity : Entity) : Option EntityContentType :=
  if ObjectIdentity.truthy entity = false ∨ ObjectIdentity.id entity = "" then none
  else some (ofEntity entity)

end EntityContentType

/-- `_content`: results by identity. -/
abbrev ResultContent (Entity : Type) := List (String × Entity)

namespace ResultContent

variable {Entity : Type}

/-- `self._content.pop(key, None)` -/
def pop (content : ResultContent Entity) (key : String) : ResultContent Entity :=
  content.filter fun entry => entry.1 ≠ key

def iter (content : ResultContent Entity) : List Entity :=
  content.map Prod.snd

/-- `__getitem__`: a negative index counts from the end. -/
def getItem (content : ResultContent Entity) (index : Int) : Option Entity :=
  if 0 ≤ index then content.iter[index.toNat]?
  else if -index ≤ content.iter.length then content.iter[(content.iter.length + index).toNat]?
  else none

variable [ObjectIdentity Entity]

/-- `self._content[result.id] = result` -/
def store (content : ResultContent Entity) (entity : Entity) : ResultContent Entity :=
  OrderedDict.insert (ObjectIdentity.id entity) entity content

def contains (content : ResultContent Entity) (item : Entity) : Bool :=
  if ObjectIdentity.id item = "" then false
  else ObjectIdentity.id item ∈ OrderedDict.keys content

end ResultContent

/-- The attributes `_content` and `_context_types`. -/
structure ResultSetObject where
  content : Nat
  contextTypes : Nat
deriving DecidableEq, Repr

/-- What is passed to `add` and `discard`: a result, a result set, or an object without `id`. -/
inductive ResultOperand (Entity : Type)
  | result (entity : Entity)
  | resultSet (address : Nat)
  | object (typeName : String)
deriving DecidableEq, Repr

inductive ResultSetError
  | typeError (message : String)
  | runtimeError (message : String)
deriving DecidableEq, Repr

structure ResultHeap (Entity : Type) where
  resultSets : Arena ResultSetObject
  contents : Arena (ResultContent Entity)
  contextTypes : Arena (List EntityContentType)

namespace ResultHeap

variable {Entity : Type}

def empty : ResultHeap Entity := ⟨.empty, .empty, .empty⟩

def contentOf (heap : ResultHeap Entity) (address : Nat) : ResultContent Entity :=
  (Arena.cell? heap.resultSets ResultSetObject.content heap.contents address).getD []

def contextTypesOf (heap : ResultHeap Entity) (address : Nat) : List EntityContentType :=
  (Arena.cell? heap.resultSets ResultSetObject.contextTypes heap.contextTypes address).getD []

def modifyContent (heap : ResultHeap Entity) (address : Nat)
    (update : ResultContent Entity → ResultContent Entity) : ResultHeap Entity :=
  match heap.resultSets.get? address with
  | none => heap
  | some object => { heap with contents := heap.contents.modify object.content update }

def modifyContextTypes (heap : ResultHeap Entity) (address : Nat)
    (update : List EntityContentType → List EntityContentType) : ResultHeap Entity :=
  match heap.resultSets.get? address with
  | none => heap
  | some object =>
      { heap with contextTypes := heap.contextTypes.modify object.contextTypes update }

/-- A new object with new containers. -/
def allocate (heap : ResultHeap Entity) (content : ResultContent Entity)
    (contextTypes : List EntityContentType) : ResultHeap Entity where
  resultSets := heap.resultSets.alloc ⟨heap.contents.size, heap.contextTypes.size⟩
  contents := heap.contents.alloc content
  contextTypes := heap.contextTypes.alloc contextTypes

def clear (heap : ResultHeap Entity) (address : Nat) : ResultHeap Entity :=
  (heap.modifyContent address fun _ => []).modifyContextTypes address fun _ => []

/-- The containers of the copy are those of `ResultSet([])` first, and are then replaced. -/
def copy (heap : ResultHeap Entity) (address : Nat) : ResultHeap Entity :=
  { heap with
    contents := heap.contents.alloc []
    contextTypes := heap.contextTypes.alloc [] }.allocate
      (heap.contentOf address) (heap.contextTypesOf address)

variable [ObjectIdentity Entity]

def insertEntity (heap : ResultHeap Entity) (address : Nat) (record : Entity) :
    ResultHeap Entity :=
  let stored := heap.modifyContent address (·.store record)
  match EntityContentType.addEntityContentType record with
  | none => stored
  | some contentType =>
      if contentType ∈ stored.contextTypesOf address then stored
      else stored.modifyContextTypes address (addNew · contentType)

/-- A result is stored and then inserted. -/
def addResult (address : Nat) (heap : ResultHeap Entity) (result : Entity) :
    ResultHeap Entity :=
  (heap.modifyContent address (·.store result)).insertEntity address result

/-- `ResultSet(results)` -/
def construct (heap : ResultHeap Entity) (results : List Entity) : ResultHeap Entity :=
  results.foldl (addResult heap.resultSets.size) (heap.allocate [] [])

def add (heap : ResultHeap Entity) (address : Nat) :
    ResultOperand Entity → ResultHeap Entity × Except ResultSetError Unit
  | .resultSet other =>
      let merged := heap.modifyContent address (OrderedDict.update · (heap.contentOf other))
      (merged.modifyContextTypes address (addAll · (merged.contextTypesOf other)), .ok ())
  | .result entity => (heap.addResult address entity, .ok ())
  | .object typeName =>
      (heap, .error (.typeError ("Expected Result or ResultSet, got " ++ typeName)))

/-- `for res in result: self._content.pop(res.id, None)`. The iteration fails when the dictionary
that it goes through has changed its size. -/
def discardEach (address other size : Nat) (heap : ResultHeap Entity) :
    List Entity → ResultHeap Entity × Except ResultSetError Unit
  | [] =>
      if (heap.contentOf other).length = size then (heap, .ok ())
      else (heap, .error (.runtimeError "dictionary changed size during iteration"))
  | entity :: rest =>
      if (heap.contentOf other).length = size then
        discardEach address other size
          (heap.modifyContent address (·.pop (ObjectIdentity.id entity))) rest
      else (heap, .error (.runtimeError "dictionary changed size during iteration"))

def discard (heap : ResultHeap Entity) (address : Nat) :
    ResultOperand Entity → ResultHeap Entity × Except ResultSetError Unit
  | .resultSet other =>
      discardEach address other (heap.contentOf other).length heap (heap.contentOf other).iter
  | .result entity => (heap.modifyContent address (·.pop (ObjectIdentity.id entity)), .ok ())
  | .object typeName =>
      (heap, .error (.typeError ("Expected Result or ResultSet, got " ++ typeName)))

end ResultHeap

end EventPipeline
