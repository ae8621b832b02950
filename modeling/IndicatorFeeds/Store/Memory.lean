import IndicatorFeeds.Store.Basic
import IndicatorFeeds.Store.Table

/-!
A store in memory. Every accepted write gets the next sequence number, whatever index it goes to,
so no two writes ever have the same version; a refused call changes nothing. The store can be told
to refuse calls on an index, to see what its users make of that.
-/

namespace IndicatorFeeds.Store

/-- A document in an index, under its id. -/
structure StoredDocument where
  version : Version
  source : Json.Value

/-- An index of the store. -/
structure MemoryIndex where
  documents : Table StoredDocument
  writeBlocked : Bool
  /-- Whether the store keeps a second copy of it. -/
  replicasExpanded : Bool

/-- Indices whose calls are to go wrong, by the kind of call. -/
structure Faults where
  failingCreation : List String := []
  failingDeletion : List String := []
  failingBulkWrites : List String := []
  /-- Their shards never start. -/
  stalledShards : List String := []

structure Memory where
  indices : Table MemoryIndex
  /-- The sequence number given out last. A counter of 64 bits would differ from it after `2 ^ 64` writes
  only. -/
  lastSeqNo : Nat
  faults : Faults

namespace Memory

def empty : Memory := ⟨.empty, 0, {}⟩

instance : Inhabited Memory := ⟨empty⟩

/-- The term of all versions. -/
def primaryTerm : Nat := 1

def version (seqNo : Nat) : Version := ⟨seqNo, primaryTerm⟩

def freshIndex (replicasExpanded : Bool) : MemoryIndex := ⟨.empty, false, replicasExpanded⟩

/-- A number in hexadecimal, with as many digits at least. -/
def hexPadded (width n : Nat) : String :=
  let digits := Nat.toDigits 16 n
  String.ofList (List.replicate (width - digits.length) '0' ++ digits)

/-- The id that a document gets with a sequence number if it has none. -/
def assignedId (seqNo : Nat) : String :=
  let digits := hexPadded 20 seqNo
  let part (start count : Nat) := String.ofList ((digits.toList.drop start).take count)
  "00000000-" ++ part 0 4 ++ "-7" ++ part 4 3 ++ "-8" ++ part 7 3 ++ "-" ++ hexPadded 12 seqNo

/-- Whether an id has the form of those that the store assigns. -/
def isAssignedId (id : String) : Bool :=
  let cs := id.toList
  cs.length = 36 && (cs.zip (List.range 36)).all fun (c, i) =>
    if i = 8 || i = 13 || i = 18 || i = 23 then c = '-'
    else if i = 14 then c = '7'
    else c.isDigit || ('a' ≤ c && c ≤ 'f')

def document? (m : Memory) (index id : String) : Option StoredDocument :=
  (m.indices.find? index).bind (·.documents.find? id)

/-- Whether an index takes no writes. -/
def isBlocked (m : Memory) (index : String) : Bool :=
  (m.indices.find? index).any (·.writeBlocked)

/-- The refusal of an index that takes no writes. -/
def blocked (index : String) : Error := .backend s!"index {index} is write-blocked"

def createIndex (m : Memory) (index : String) (spec : IndexSpec) : Except Error Memory :=
  if m.faults.failingCreation.contains index then
    .error (.backend s!"injected create failure for {index}")
  else if m.indices.contains index then .error (.alreadyExists index)
  else .ok { m with
    indices := m.indices.insert index (freshIndex spec.autoExpandReplicas.isSome) }

def deleteIndex (m : Memory) (index : String) : Except Error Memory :=
  if m.faults.failingDeletion.contains index then
    .error (.backend s!"injected delete failure for {index}")
  else if m.indices.contains index then .ok { m with indices := m.indices.erase index }
  else .error (.indexNotFound index)

def requireIndex (m : Memory) (index : String) : Except Error MemoryIndex :=
  match m.indices.find? index with
  | some found => .ok found
  | none => .error (.indexNotFound index)

def updateSettings (m : Memory) (index : String) (update : SettingsUpdate) :
    Except Error Memory := do
  let found ← m.requireIndex index
  return { m with indices := m.indices.insert index { found with
    writeBlocked := update.writeBlocked.getD found.writeBlocked
    replicasExpanded := update.autoExpandReplicas.isSome || found.replicasExpanded } }

/-- The copies of an index's one shard. -/
def shardStates (m : Memory) (index : String) : Except Error (List ShardStatus) := do
  let found ← m.requireIndex index
  let state : ShardState :=
    if m.faults.stalledShards.contains index then .initializing else .started
  return ⟨0, true, state⟩ :: if found.replicasExpanded then [⟨0, false, state⟩] else []

/-- Writes a document without conditions; a missing index is made. -/
def write (m : Memory) (index id : String) (source : Json.Value) : Memory :=
  let found := (m.indices.find? index).getD (freshIndex false)
  let seqNo := m.lastSeqNo + 1
  { m with
    indices := m.indices.insert index { found with
      documents := found.documents.insert id ⟨version seqNo, source⟩ }
    lastSeqNo := seqNo }

/-- Writes one document of a bulk. -/
def writeItem (index : String) (m : Memory) (item : BulkItem) : Memory :=
  m.write index (item.id.getD (assignedId (m.lastSeqNo + 1))) item.source

def bulkIndex (m : Memory) (index : String) (items : List BulkItem) : Except Error Memory := do
  if m.faults.failingBulkWrites.contains index then
    throw (.backend s!"injected bulk failure for {index}")
  let found ← m.requireIndex index
  if found.writeBlocked then throw (blocked index)
  return items.foldl (writeItem index) m

def getDocument (m : Memory) (index id : String) : Option Document :=
  (m.document? index id).map fun found => ⟨id, found.version, found.source⟩

/-- Why a write is refused for the sake of its condition. -/
def refusal? (index id : String) (stored : Option Version) : WriteCondition → Option Error
  | .create => if stored.isSome then some (.alreadyExists s!"{index}/{id}") else none
  | .ifVersion expected =>
    if stored = some expected then none else some (.versionConflict index id)
  | .overwrite => none

def putDocument (m : Memory) (index id : String) (source : Json.Value)
    (condition : WriteCondition) : Except Error (Version × Memory) :=
  match refusal? index id ((m.document? index id).map (·.version)) condition with
  | some refusal => .error refusal
  | none =>
    if m.isBlocked index then .error (blocked index)
    else .ok (version (m.lastSeqNo + 1), m.write index id source)

def deleteDocument (m : Memory) (index id : String) (expected : Option Version) :
    Except Error Memory :=
  match m.indices.find? index with
  | none => .error (.documentNotFound index id)
  | some found =>
    match found.documents.find? id with
    | none => .error (.documentNotFound index id)
    | some stored =>
      if expected.all (· = stored.version) then
        .ok { m with indices := m.indices.insert index { found with
          documents := found.documents.erase id } }
      else .error (.versionConflict index id)

/-- All documents, in the order of their ids. -/
def searchAll (m : Memory) (index : String) : Except Error (List Document) := do
  let found ← m.requireIndex index
  return found.documents.entries.map fun (id, stored) => ⟨id, stored.version, stored.source⟩

/-- A call that changes the store or is refused. -/
def changed (m : Memory) : Except Error Memory → Except Error Unit × Memory
  | .ok m => (.ok (), m)
  | .error e => (.error e, m)

def answer (m : Memory) : (c : Call) → c.Answer × Memory
  | .createIndex index spec => m.changed (m.createIndex index spec)
  | .deleteIndex index => m.changed (m.deleteIndex index)
  | .indexExists index => (.ok (m.indices.contains index), m)
  | .bulkIndex index items => m.changed (m.bulkIndex index items)
  | .refreshIndex index => ((m.requireIndex index).map fun _ => (), m)
  | .forceMerge index _ => ((m.requireIndex index).map fun _ => (), m)
  | .updateSettings index update => m.changed (m.updateSettings index update)
  | .shardStates index => (m.shardStates index, m)
  | .getDocument index id => (.ok (m.getDocument index id), m)
  | .putDocument index id source condition =>
    match m.putDocument index id source condition with
    | .ok (version, m) => (.ok version, m)
    | .error e => (.error e, m)
  | .deleteDocument index id expected => m.changed (m.deleteDocument index id expected)
  | .searchAll index => (m.searchAll index, m)

/-- Lets the store work again. -/
def clearFaults (m : Memory) : Memory := { m with faults := {} }

def failIndexCreation (m : Memory) (index : String) : Memory :=
  { m with faults.failingCreation := index :: m.faults.failingCreation }

def failIndexDeletion (m : Memory) (index : String) : Memory :=
  { m with faults.failingDeletion := index :: m.faults.failingDeletion }

def failBulkWrites (m : Memory) (index : String) : Memory :=
  { m with faults.failingBulkWrites := index :: m.faults.failingBulkWrites }

def stallShards (m : Memory) (index : String) : Memory :=
  { m with faults.stalledShards := index :: m.faults.stalledShards }

end Memory

end IndicatorFeeds.Store
