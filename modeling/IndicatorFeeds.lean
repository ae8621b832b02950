import IndicatorFeeds.Main
import IndicatorFeeds.World
import IndicatorFeeds.Proofs.Program.Along
import IndicatorFeeds.Proofs.Lease.Holding
import IndicatorFeeds.Proofs.Store.Memory
import IndicatorFeeds.Proofs.Json.Fields
import IndicatorFeeds.Proofs.Documents
import IndicatorFeeds.Proofs.Lease.Tenancy
import IndicatorFeeds.Proofs.Lease.Exclusion
import IndicatorFeeds.Proofs.Store.Bulk
import IndicatorFeeds.Proofs.Rotation.Moment
import IndicatorFeeds.Proofs.Rotation.Leased
import IndicatorFeeds.Proofs.Lease.Taken
import IndicatorFeeds.Proofs.Rotation.Build
import IndicatorFeeds.Proofs.Rotation.Asked
import IndicatorFeeds.Proofs.Rotation.Saved
import IndicatorFeeds.Proofs.Rotation.Stages
import IndicatorFeeds.Proofs.Rotation.Phases
import IndicatorFeeds.Proofs.Rotation.Course
import IndicatorFeeds.Proofs.Rotation.Writable
import IndicatorFeeds.Proofs.Feed.DataLines
import IndicatorFeeds.Proofs.Rotation.Content
import IndicatorFeeds.Proofs.Rotation.Visibility
import IndicatorFeeds.Proofs.Rotation.Overtaken
import IndicatorFeeds.Proofs.Rotation.Names
import IndicatorFeeds.Proofs.Rotation.Confined
import IndicatorFeeds.Proofs.Runner.UnderLease
import IndicatorFeeds.Proofs.Runner.Executed
import IndicatorFeeds.Proofs.Runner.Begun
import IndicatorFeeds.Proofs.Runner.Deletion
import IndicatorFeeds.Proofs.Runner.Operations
import IndicatorFeeds.Proofs.Runner.Apart
import IndicatorFeeds.Proofs.Runner.AtRest
import IndicatorFeeds.Proofs.Runner.Reachable
import IndicatorFeeds.Proofs.Runner.Recovery
import IndicatorFeeds.Proofs.Program.Told
import IndicatorFeeds.Proofs.Lease.Standing
import IndicatorFeeds.Proofs.Runner.Tending
import IndicatorFeeds.Proofs.Runner.Discipline
import IndicatorFeeds.Proofs.Lease.Lasting
import IndicatorFeeds.Proofs.Lease.Passing
import IndicatorFeeds.Proofs.Rotation.LongWait
import IndicatorFeeds.Proofs.Lease.Alive
import IndicatorFeeds.Proofs.Lease.Handles
import IndicatorFeeds.Proofs.Program.Safe
import IndicatorFeeds.Proofs.Runner.Listed
import IndicatorFeeds.Proofs.Runner.Unaffected
import IndicatorFeeds.Proofs.Runner.Vanished
import IndicatorFeeds.Proofs.Runner.Sealed
import IndicatorFeeds.Proofs.Runner.History
import IndicatorFeeds.Proofs.Json.Integers
import IndicatorFeeds.Proofs.Json.Texts
import IndicatorFeeds.Proofs.Persisted
import IndicatorFeeds.Proofs.Runner.Converging
import IndicatorFeeds.Proofs.Runner.Failing
import IndicatorFeeds.Proofs.Runner.Rejected
import IndicatorFeeds.Proofs.Rotation.Polling
import IndicatorFeeds.Proofs.Delimited.Quotes
import IndicatorFeeds.Proofs.Delimited.Written
import IndicatorFeeds.Proofs.Feed.TextLines
import IndicatorFeeds.Proofs.Delimited.LineEnds
import IndicatorFeeds.Proofs.Feed.Meaning
import IndicatorFeeds.Proofs.Program.Replies
import IndicatorFeeds.Proofs.Rotation.Batches
import IndicatorFeeds.Proofs.Job.Lengths
import IndicatorFeeds.Proofs.Json.Whole
import IndicatorFeeds.Proofs.Store.Sent
import IndicatorFeeds.Proofs.Store.Search
import IndicatorFeeds.Proofs.Store.Versions
import IndicatorFeeds.Proofs.Url.Names
import IndicatorFeeds.Proofs.Store.Addresses
import IndicatorFeeds.Proofs.Config.Durations
