import IndicatorFeeds.Config.Engine
import IndicatorFeeds.Program

namespace IndicatorFeeds.Rotation

/-- How long to wait, and how long to pause. -/
structure ShardWait where
  timeoutMillis : Nat
  pollMillis : Nat
deriving Repr, DecidableEq

namespace ShardWait

def ofConfig (c : Config.RotationConfig) : ShardWait :=
  ⟨c.shardWaitTimeoutMillis.toNat, c.shardPollIntervalMillis.toNat⟩

/-- The error of a wait that is given up. The time it took is stated in 64 bits. -/
def timedOut (index : String) (waited : Nat) : Error :=
  .shardTimeout index (waited % UInt64.size)

/-- Waits for so many more polls. -/
def poll (w : ShardWait) (index : String) (started : Nat) : Nat → Program Unit
  | 0 => do
    Program.error (timedOut index ((← Program.stopwatch) - started))
  | polls + 1 => do
    let shards ← Program.ofStore (← Program.call (.shardStates index))
    if Store.allShardsStarted shards then return ()
    let waited := (← Program.stopwatch) - started
    if w.timeoutMillis ≤ waited then Program.error (timedOut index waited)
    else
      let _ ← Program.request .renewLease
      let _ ← Program.sleep w.pollMillis
      w.poll index started polls

/-- Waits for the shards of an index. Where a pause takes a millisecond or more, there are no more
polls than milliseconds, and one; a wait without pauses ends only with the answers, and is given
up after more polls than anyone sees. -/
def run (w : ShardWait) (index : String) : Program Unit := do
  w.poll index (← Program.stopwatch) (w.timeoutMillis + UInt64.size)

end ShardWait

end IndicatorFeeds.Rotation
