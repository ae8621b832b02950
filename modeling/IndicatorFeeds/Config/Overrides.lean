import IndicatorFeeds.Environment.Basic
import IndicatorFeeds.Text.Blank

namespace IndicatorFeeds.Config

/-- Settings from the environment, as written there. -/
structure Overrides where
  configPath : Option String := none
  storeBackend : Option String := none
  storeUrl : Option String := none
  storeRequestTimeout : Option String := none
  feedManifest : Option String := none
  leaseDuration : Option String := none
  renewAfter : Option String := none
  shardWaitTimeout : Option String := none
  shardPollInterval : Option String := none
  batchSize : Option String := none
  maxConcurrentRuns : Option String := none
  dataIndexPrefix : Option String := none
deriving Repr, DecidableEq

/-- The variable that says where the configuration file is. -/
def configVariable : String := "THREATINTEL_CONFIG"

def leaseDurationVariable : String := "THREATINTEL_LOCK_DURATION"
def renewAfterVariable : String := "THREATINTEL_LOCK_RENEW_AFTER"
def shardWaitTimeoutVariable : String := "THREATINTEL_SHARD_WAIT_TIMEOUT"
def shardPollIntervalVariable : String := "THREATINTEL_SHARD_POLL_INTERVAL"
def batchSizeVariable : String := "THREATINTEL_BATCH_SIZE"
def maxConcurrentRunsVariable : String := "THREATINTEL_MAX_CONCURRENT_RUNS"

def Overrides.ofEnvironment (env : Environment) : Overrides :=
  let given (name : String) : Option String :=
    (env.get? name).filter fun value => !Text.isBlankText value
  { configPath := given configVariable
    storeBackend := given "THREATINTEL_STORE_BACKEND"
    storeUrl := given "THREATINTEL_OPENSEARCH_URL"
    storeRequestTimeout := given "THREATINTEL_STORE_REQUEST_TIMEOUT"
    feedManifest := given "THREATINTEL_FEED_MANIFEST"
    leaseDuration := given leaseDurationVariable
    renewAfter := given renewAfterVariable
    shardWaitTimeout := given shardWaitTimeoutVariable
    shardPollInterval := given shardPollIntervalVariable
    batchSize := given batchSizeVariable
    maxConcurrentRuns := given maxConcurrentRunsVariable
    dataIndexPrefix := env.get? "THREATINTEL_DATA_INDEX_PREFIX" }

end IndicatorFeeds.Config
