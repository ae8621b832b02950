import IndicatorFeeds.Feed.Manifest

namespace IndicatorFeeds.Feed

/-- A catalog of feeds. -/
inductive Catalog where
  /-- The feeds of jobs; the first entry of a job counts. -/
  | table (feeds : List (String × Metadata))
  | manifest (path : String) (content : FileContent)

namespace Catalog

def feedFor (job : String) : Catalog → Except Error (Option Metadata)
  | table feeds => .ok (feeds.lookup job)
  | manifest path content => manifestFeed path content job

/-- The table with another feed for a job; a manifest is not changed from here. -/
def withFeed (job : String) (feed : Metadata) : Catalog → Catalog
  | table feeds => table ((job, feed) :: feeds)
  | c => c

/-- The manifest with another content; a table has none. -/
def withContent (content : FileContent) : Catalog → Catalog
  | manifest path _ => manifest path content
  | c => c

end Catalog

end IndicatorFeeds.Feed
