import IndicatorFeeds.Feed.Metadata
import IndicatorFeeds.Files

namespace IndicatorFeeds.Feed

structure ManifestEntry where
  job : Option String
  feed : Metadata

namespace ManifestEntry

def jobName (e : ManifestEntry) : String := e.job.getD e.feed.feedId

/-- An entry is an object. Apart from its job it is read as a whole before its meaning is known. -/
def fromJson? (t : Json.Tree) : Option ManifestEntry := do
  match t with
  | .object fields =>
    let f ← t.fields ("job" :: Metadata.fieldNames)
    let job ← f.optional "job" Json.Tree.text
    let rest := fields.filter (·.1 ≠ some "job")
    let _ ← Json.Tree.fields? (Json.Tree.maxDepth - 2) rest
    return ⟨job, ← Metadata.ofFields? true (Json.Tree.maxDepth - 2) f⟩
  | _ => none

end ManifestEntry

def readManifest (text : String) : Except Error (List ManifestEntry) :=
  match (Json.Tree.parse? text.toList).bind (Json.Tree.listOf ManifestEntry.fromJson?) with
  | some entries => .ok entries
  | none => .error .serialization

/-- The feed of a job: that of the first entry which names the job. -/
def feedFor (entries : List ManifestEntry) (job : String) : Option Metadata :=
  (entries.find? (·.jobName = job)).map (·.feed)

/-- Where the manifest is unless something else is said. -/
def manifestPath : String := "feeds.json"

def manifestFeed (path : String) (content : FileContent) (job : String) :
    Except Error (Option Metadata) := do
  match content.text? with
  | .error reason => throw (.internal s!"reading feed manifest {path}: {reason}")
  | .ok text => return feedFor (← readManifest text) job

end IndicatorFeeds.Feed
