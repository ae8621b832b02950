import IndicatorFeeds.Json.Decode

namespace IndicatorFeeds.Store

/-- Why a store refuses a call. -/
inductive Error where
  | indexNotFound (index : String)
  | documentNotFound (index id : String)
  /-- An index, or a document written as `index/id`. -/
  | alreadyExists (what : String)
  | versionConflict (index id : String)
  | transport (reason : String)
  | backend (reason : String)
deriving Repr, DecidableEq

def Error.message : Error → String
  | indexNotFound index => s!"index not found: {index}"
  | documentNotFound index id => s!"document {id} not found in {index}"
  | alreadyExists what => s!"already exists: {what}"
  | versionConflict index id => s!"version conflict on {index}/{id}"
  | transport reason => s!"transport error: {reason}"
  | backend reason => s!"backend error: {reason}"

/-- The version of a document: a sequence number within a term of the primary copy. The engine keeps both
in 64-bit words, which only `2 ^ 64` writes to one index would fill. -/
structure Version where
  seqNo : Nat
  primaryTerm : Nat
deriving Repr, DecidableEq, Inhabited

namespace Version

def text (v : Version) : String := s!"{v.primaryTerm}:{v.seqNo}"

def toJson (v : Version) : Json.Value :=
  .ofFields [("seq_no", .nat v.seqNo), ("primary_term", .nat v.primaryTerm)]

def fromJson? (t : Json.Tree) : Option Version := do
  let f ← t.fields ["seq_no", "primary_term"]
  return ⟨← f.required "seq_no" Json.Tree.natural, ← f.required "primary_term" Json.Tree.natural⟩

end Version

/-- A document with the version it was read at. -/
structure Document where
  id : String
  version : Version
  source : Json.Value
deriving Inhabited

/-- What must hold of the stored document for a write to take place. -/
inductive WriteCondition where
  /-- There is none. -/
  | create
  /-- It has this version. -/
  | ifVersion (version : Version)
  /-- Nothing. -/
  | overwrite
deriving Repr, DecidableEq

/-- One document of a bulk write. Without an id the store makes one up. -/
structure BulkItem where
  id : Option String
  source : Json.Value

/-- The settings an index is created with. -/
structure IndexSpec where
  shards : UInt32
  replicas : UInt32
  /-- Without an interval the index is not refreshed by itself. -/
  refreshInterval : Option String
  hidden : Bool
  /-- The range of replicas that the store may add by itself. -/
  autoExpandReplicas : Option String
  mappings : Option Json.Value

/-- An optional field, left out where there is no value. -/
private def whenSome (name : String) (encode : α → Json.Value) : Option α →
    List (String × Json.Value)
  | none => []
  | some a => [(name, encode a)]

namespace IndexSpec

/-- A small index of the engine's own. -/
def system (mappings : Json.Value) : IndexSpec where
  shards := 1
  replicas := 0
  refreshInterval := some "1s"
  hidden := true
  autoExpandReplicas := some "0-all"
  mappings := some mappings

def settings (s : IndexSpec) : Json.Value :=
  .ofFields [("index", .ofFields ([
    ("number_of_shards", .nat s.shards.toNat),
    ("number_of_replicas", .nat s.replicas.toNat),
    ("hidden", .bool s.hidden),
    ("refresh_interval", .string (s.refreshInterval.getD "-1"))] ++
    whenSome "auto_expand_replicas" .string s.autoExpandReplicas))]

def toJson (s : IndexSpec) : Json.Value :=
  .ofFields ([
    ("number_of_shards", .nat s.shards.toNat),
    ("number_of_replicas", .nat s.replicas.toNat),
    ("refresh_interval", .ofOption .string s.refreshInterval),
    ("hidden", .bool s.hidden)] ++
    whenSome "auto_expand_replicas" .string s.autoExpandReplicas ++
    whenSome "mappings" id s.mappings)

private def freeForm (outer : Nat) (t : Json.Tree) : Option Json.Value :=
  t.value? (Json.Tree.maxDepth - outer)

def fromJson? (t : Json.Tree) : Option IndexSpec := do
  let f ← t.fields ["number_of_shards", "number_of_replicas", "refresh_interval", "hidden",
    "auto_expand_replicas", "mappings"]
  return {
    shards := .ofNat (← f.required "number_of_shards" Json.Tree.natural32)
    replicas := .ofNat (← f.required "number_of_replicas" Json.Tree.natural32)
    refreshInterval := ← f.optional "refresh_interval" Json.Tree.text
    hidden := ← f.required "hidden" Json.Tree.boolean
    autoExpandReplicas :=
      ← f.withDefault "auto_expand_replicas" (Json.Tree.nullable Json.Tree.text) none
    mappings := ← f.withDefault "mappings" (Json.Tree.nullable (freeForm 1)) none }

end IndexSpec

/-- Settings changed on an existing index; the unset ones stay. -/
structure SettingsUpdate where
  writeBlocked : Option Bool
  autoExpandReplicas : Option String
  refreshInterval : Option String
deriving Repr, DecidableEq

namespace SettingsUpdate

/-- No further writes, and replicas on every node. -/
def freeze : SettingsUpdate := ⟨some true, some "0-all", none⟩

def settings (u : SettingsUpdate) : Json.Value :=
  .ofFields [("index", .ofFields (
    whenSome "blocks.write" .bool u.writeBlocked ++
    whenSome "auto_expand_replicas" .string u.autoExpandReplicas ++
    whenSome "refresh_interval" .string u.refreshInterval))]

def toJson (u : SettingsUpdate) : Json.Value :=
  .ofFields [
    ("write_blocked", .ofOption .bool u.writeBlocked),
    ("auto_expand_replicas", .ofOption .string u.autoExpandReplicas),
    ("refresh_interval", .ofOption .string u.refreshInterval)]

def fromJson? (t : Json.Tree) : Option SettingsUpdate := do
  let f ← t.fields ["write_blocked", "auto_expand_replicas", "refresh_interval"]
  return {
    writeBlocked := ← f.optional "write_blocked" Json.Tree.boolean
    autoExpandReplicas := ← f.optional "auto_expand_replicas" Json.Tree.text
    refreshInterval := ← f.optional "refresh_interval" Json.Tree.text }

end SettingsUpdate

inductive ShardState where
  | started | initializing | relocating | unassigned
deriving Repr, DecidableEq

namespace ShardState

def name : ShardState → String
  | started => "Started"
  | initializing => "Initializing"
  | relocating => "Relocating"
  | unassigned => "Unassigned"

/-- The state that a store's listing names, in letters of either case; a name it does not know
is a copy that is nowhere. -/
def parse (raw : String) : ShardState :=
  let upper := raw.map Char.toUpper
  if upper = "STARTED" then started
  else if upper = "INITIALIZING" then initializing
  else if upper = "RELOCATING" then relocating
  else unassigned

def fromJson? : Json.Tree → Option ShardState :=
  Json.Tree.oneOf ([started, initializing, relocating, unassigned].map fun s => (s.name, s))

end ShardState

structure ShardStatus where
  shard : UInt32
  primary : Bool
  state : ShardState
deriving Repr, DecidableEq

namespace ShardStatus

def toJson (s : ShardStatus) : Json.Value :=
  .ofFields [("shard", .nat s.shard.toNat), ("primary", .bool s.primary),
    ("state", .string s.state.name)]

def fromJson? (t : Json.Tree) : Option ShardStatus := do
  let f ← t.fields ["shard", "primary", "state"]
  return {
    shard := .ofNat (← f.required "shard" Json.Tree.natural32)
    primary := ← f.required "primary" Json.Tree.boolean
    state := ← f.required "state" ShardState.fromJson? }

end ShardStatus

/-- Whether there are copies and every one of them has started. -/
def allShardsStarted (shards : List ShardStatus) : Bool :=
  !shards.isEmpty && shards.all (·.state = .started)

/-- One call on a store. -/
inductive Call where
  | createIndex (index : String) (spec : IndexSpec)
  | deleteIndex (index : String)
  | indexExists (index : String)
  | bulkIndex (index : String) (items : List BulkItem)
  | refreshIndex (index : String)
  | forceMerge (index : String) (maxSegments : UInt32)
  | updateSettings (index : String) (update : SettingsUpdate)
  | shardStates (index : String)
  | getDocument (index id : String)
  | putDocument (index id : String) (source : Json.Value) (condition : WriteCondition)
  | deleteDocument (index id : String) (expected : Option Version)
  | searchAll (index : String)

def Call.Result : Call → Type
  | indexExists _ => Bool
  | shardStates _ => List ShardStatus
  | getDocument _ _ => Option Document
  | putDocument .. => Version
  | searchAll _ => List Document
  | _ => Unit

abbrev Call.Answer (c : Call) : Type := Except Error c.Result

end IndicatorFeeds.Store
