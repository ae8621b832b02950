import IndicatorFeeds.Store.Basic

namespace IndicatorFeeds.Store

def Error.kind : Error → String
  | indexNotFound _ => "IndexNotFound"
  | documentNotFound _ _ => "DocumentNotFound"
  | alreadyExists _ => "AlreadyExists"
  | versionConflict _ _ => "VersionConflict"
  | transport _ => "Transport"
  | backend _ => "Backend"

namespace Call

def name : Call → String
  | createIndex .. => "create_index"
  | deleteIndex .. => "delete_index"
  | indexExists .. => "index_exists"
  | bulkIndex .. => "bulk_index"
  | refreshIndex .. => "refresh_index"
  | forceMerge .. => "force_merge"
  | updateSettings .. => "update_index_settings"
  | shardStates .. => "shard_states"
  | getDocument .. => "get_document"
  | putDocument .. => "put_document"
  | deleteDocument .. => "delete_document"
  | searchAll .. => "search_all"

def index : Call → String
  | createIndex i _ | deleteIndex i | indexExists i | bulkIndex i _ | refreshIndex i
  | forceMerge i _ | updateSettings i _ | shardStates i | getDocument i _ | putDocument i _ _ _
  | deleteDocument i _ _ | searchAll i => i

private def conditionText : WriteCondition → String
  | .create => "create"
  | .overwrite => "overwrite"
  | .ifVersion v => "if " ++ v.text

private def details : Call → String
  | bulkIndex _ items => s!" {items.length}"
  | forceMerge _ maxSegments => s!" {maxSegments.toNat}"
  | updateSettings _ update => " " ++ update.settings.render
  | getDocument _ id => "/" ++ id
  | putDocument _ id _ condition => "/" ++ id ++ " " ++ conditionText condition
  | deleteDocument _ id (some v) => "/" ++ id ++ " if " ++ v.text
  | deleteDocument _ id none => "/" ++ id ++ " any"
  | _ => ""

private def resultText : (c : Call) → c.Result → String
  | indexExists _, found => toString (show Bool from found)
  | shardStates _, shards =>
    ",".intercalate ((show List ShardStatus from shards).map (·.state.name))
  | getDocument _ _, found =>
    ((show Option Document from found).map (·.version.text)).getD "none"
  | putDocument .., version => (show Version from version).text
  | searchAll _, found => toString (show List Document from found).length
  | createIndex .., _ | deleteIndex .., _ | bulkIndex .., _ | refreshIndex .., _
  | forceMerge .., _ | updateSettings .., _ | deleteDocument .., _ => "ok"

def trace (c : Call) (answer : c.Answer) : String :=
  s!"{c.name} {c.index}{c.details} => " ++ match answer with
    | .ok result => c.resultText result
    | .error e => e.kind

end Call

end IndicatorFeeds.Store
