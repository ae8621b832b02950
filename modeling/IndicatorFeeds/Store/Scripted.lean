import IndicatorFeeds.Store.Memory
import IndicatorFeeds.Store.Trace

namespace IndicatorFeeds.Store

/-- Calls that are to fail: after so many that do not, so many times. -/
structure ScriptedFault where
  call : String
  /-- The index they are about, if only that one. -/
  index : Option String
  skip : Nat
  times : Nat
  error : Error

/-- A store with a script. -/
structure Scripted where
  memory : Memory := .empty
  faults : List ScriptedFault := []
  /-- States of shards to report, by index. -/
  shards : List (String × List (List ShardStatus)) := []
  /-- The calls so far, the last one first. -/
  trace : List String := []
  /-- What indices were to be created with, the last one first. -/
  specs : List (String × IndexSpec) := []

namespace Scripted

/-- The error of the first fault that fires, and the faults as the call leaves them. A fault that
is skipping or used up lets the next one try. -/
def fire (c : Call) : List ScriptedFault → Option Error × List ScriptedFault
  | [] => (none, [])
  | f :: rest =>
    if f.call = c.name && f.index.all (· = c.index) && f.skip = 0 && 0 < f.times then
      (some f.error, { f with times := f.times - 1 } :: rest)
    else
      let isSkipped := f.call = c.name && f.index.all (· = c.index)
      let f := if isSkipped then { f with skip := f.skip - 1 } else f
      let (error, rest) := fire c rest
      (error, f :: rest)

/-- The states to report for an index, and those that are left. -/
def takeShards (index : String) : List (String × List (List ShardStatus)) →
    Option (List ShardStatus) × List (String × List (List ShardStatus))
  | [] => (none, [])
  | (i, []) :: rest => takeShards index rest |>.map id ((i, []) :: ·)
  | (i, now :: later) :: rest =>
    if i = index then (some now, (i, later) :: rest)
    else takeShards index rest |>.map id ((i, now :: later) :: ·)

private def reached (s : Scripted) (c : Call) : c.Answer × Scripted :=
  let (answer, memory) := s.memory.answer c
  (answer, { s with memory })

private def unlessFired (s : Scripted) (c : Call) (answer : Scripted → c.Answer × Scripted) :
    c.Answer × Scripted :=
  match fire c s.faults with
  | (some e, faults) => (.error e, { s with faults })
  | (none, faults) => answer { s with faults }

private def respond (s : Scripted) : (c : Call) → c.Answer × Scripted
  | .shardStates index =>
    match takeShards index s.shards with
    | (some states, shards) =>
      { s with shards }.unlessFired (.shardStates index) fun s => (.ok states, s)
    | (none, _) => s.unlessFired (.shardStates index) (·.reached (.shardStates index))
  | .createIndex index spec =>
    let c := Call.createIndex index spec
    { s with specs := (index, spec) :: s.specs }.unlessFired c (·.reached c)
  | c => s.unlessFired c (·.reached c)

/-- The answer to a call. Repeated equal reports of shards are kept as one line. -/
def answer (s : Scripted) (c : Call) : c.Answer × Scripted :=
  let (answer, s) := s.respond c
  let line := c.trace answer
  if c.name = "shard_states" && s.trace.head? = some line then (answer, s)
  else (answer, { s with trace := line :: s.trace })

/-- The store without faults and scripts. -/
def cleared (s : Scripted) : Scripted :=
  { s with memory := s.memory.clearFaults, faults := [], shards := [] }

end Scripted

end IndicatorFeeds.Store
