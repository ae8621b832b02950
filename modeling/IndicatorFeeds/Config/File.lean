import IndicatorFeeds.Config.Engine
import IndicatorFeeds.Toml.Document

namespace IndicatorFeeds.Config

/-- The parts of the file that choose a store. -/
structure FileStore where
  backend : Option String := none
  url : Option String := none
  requestTimeout : Option String := none
deriving Repr, DecidableEq

/-- What a configuration file says. -/
structure FileConfig where
  engine : EngineConfig := {}
  store : FileStore := {}
  /-- Where the manifest of feeds is. -/
  manifest : Option String := none
deriving Repr, DecidableEq

/-- The parts of a record, each changed according to its name. If the record is written as an
array, items beyond its parts are passed over. -/
private def mapParts (names : List String) (f : String → Json.Tree → Json.Tree) :
    Json.Tree → Json.Tree
  | .object fields => .object (fields.map fun (name, t) =>
      match name with
      | some key => (name, f key t)
      | none => (name, t))
  | .array items => .array ((names.zip items).map fun (name, t) => f name t)
  | t => t

private def clip (names : List String) : Json.Tree → Json.Tree := mapParts names fun _ t => t

private def enginePart : String → Json.Tree → Json.Tree
  | "lock" => clip ["lock_duration_secs", "renew_after_secs"]
  | "rotation" => clip ["batch_size", "shard_wait_timeout_ms", "shard_poll_interval_ms",
      "data_index_prefix"]
  | "runner" => clip ["max_concurrent_runs"]
  | "store" => clip ["jobs_index", "locks_index"]
  | "fetch" => clip ["connect_timeout_ms", "request_timeout_ms", "user_agent"]
  | _ => id

private def engine? (t : Json.Tree) : Option EngineConfig :=
  EngineConfig.fromJson? (mapParts ["lock", "rotation", "runner", "store", "fetch"] enginePart t)

private def storeNames : List String := ["backend", "url", "request_timeout"]

private def store? (t : Json.Tree) : Option FileStore := do
  let f ← (clip storeNames t).fields storeNames
  return {
    backend := ← f.optional "backend" Json.Tree.text
    url := ← f.optional "url" Json.Tree.text
    requestTimeout := ← f.optional "request_timeout" Json.Tree.text }

private def manifest? (t : Json.Tree) : Option (Option String) := do
  let f ← (clip ["manifest"] t).fields ["manifest"]
  f.optional "manifest" Json.Tree.text

def FileConfig.parse? (text : String) : Option FileConfig := do
  let f ← (← Toml.parse? text).toTree.fields ["engine", "store", "feeds"]
  let c : FileConfig := {}
  return {
    engine := ← f.withDefault "engine" engine? c.engine
    store := ← f.withDefault "store" store? c.store
    manifest := ← f.withDefault "feeds" manifest? c.manifest }

end IndicatorFeeds.Config
